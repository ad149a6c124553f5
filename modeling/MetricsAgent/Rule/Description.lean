import MetricsAgent.Rule.Basic

/-!
# Rules in diagnostics

The description of a rule names each of its fields and quotes the pattern, so that no character of
it is lost or invisible.
-/

namespace MetricsAgent

namespace Text

open Unicode

/-- Characters that cannot be told from a blank, or from nothing, when they are shown. -/
def isInvisible (c : Char) : Bool :=
  c ≠ ' ' && (([.cc, .cf, .co, .zl, .zp, .zs, .mn, .me] : List Category).any (·.points.contains c)
    || !([.lu, .ll, .lt, .lm, .lo, .mc, .nd, .nl, .no, .pc, .pd, .ps, .pe, .pi, .pf, .po, .sm, .sc,
      .sk, .so, .zs] : List Category).any (·.points.contains c))

/-- A code point in hexadecimal. -/
def hexadecimal (n : Nat) : String :=
  String.ofList (Nat.toDigits 16 n)

/-- How a character stands in a quoted text. -/
def quoteChar (c : Char) : String :=
  if c = '"' then "\\\""
  else if c = '\\' then "\\\\"
  else if c = '\n' then "\\n"
  else if c = '\r' then "\\r"
  else if c = '\t' then "\\t"
  else if c = '\x00' then "\\0"
  else if 31 < c.toNat ∧ c.toNat < 127 then c.toString
  else if isInvisible c then "\\u\x7b" ++ hexadecimal c.toNat ++ "\x7d"
  else c.toString

/-- The text between quotes. -/
def quoted (text : String) : String :=
  text.foldl (fun out c => out ++ quoteChar c) "\"" ++ "\""

end Text

def Policy.label : Policy → String
  | .allow => "Allow"
  | .deny => "Deny"

def Scope.label : Scope → String
  | .global => "Global"
  | .restricted => "Restricted"

/-- The rule with its fields named. -/
def Rule.description (r : Rule) : String :=
  "FilteringRule \x7b policy: " ++ r.policy.label ++ ", pattern: " ++ Text.quoted r.pattern.source
    ++ ", scope: " ++ r.scope.label ++ " \x7d"

end MetricsAgent
