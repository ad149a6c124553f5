import MetricsAgent.Pattern.Basic

/-!
# Filtering rules

A rule allows or denies the names that its pattern matches, everywhere or for the insights alone.
This module holds rules and their texts; which rule governs a name is the subject of
`MetricsAgent.Rule.Verdict`.
-/

namespace MetricsAgent

/-- What a rule does with the names that it matches. -/
inductive Policy where
  | allow | deny
  deriving DecidableEq, Repr

/-- Where a rule applies: to all outputs, or to what goes beyond the data log. -/
inductive Scope where
  | global | restricted
  deriving DecidableEq, Repr

/-- Where the values of a metric go. -/
inductive Channel where
  /-- To the samples and to the insights. -/
  | unrestricted
  /-- To the samples alone. -/
  | restricted
  /-- Nowhere. -/
  | denied
  deriving DecidableEq, Repr

/-- A rule of the filter. -/
structure Rule where
  policy : Policy
  pattern : Pattern
  scope : Scope
  deriving DecidableEq

/-- Why a text is not a rule. -/
inductive RuleError where
  | policy (found : String)
  | scope (found : String)
  | pattern (found : String)
  deriving DecidableEq, Repr

def RuleError.message : RuleError → String
  | .policy found => "policy must be 'allow' or 'deny', found '" ++ found ++ "'"
  | .scope found => "scope must be 'global' or 'datalog', found '" ++ found ++ "'"
  | .pattern found => "invalid pattern '" ++ found ++ "'"

/-! ## Texts -/

/-- Whether two texts differ at most in the case of ASCII letters. -/
def sameIgnoringCase (a b : String) : Bool :=
  a.toList.map Char.toLower == b.toList.map Char.toLower

def Policy.text : Policy → String
  | .allow => "allow"
  | .deny => "deny"

def Policy.ofText? (text : String) : Option Policy :=
  [Policy.allow, .deny].find? (sameIgnoringCase text ·.text)

def Scope.text : Scope → String
  | .global => "global"
  | .restricted => "datalog"

def Scope.ofText? (text : String) : Option Scope :=
  [Scope.global, .restricted].find? (sameIgnoringCase text ·.text)

def Channel.text : Channel → String
  | .unrestricted => "unrestricted"
  | .restricted => "restricted"
  | .denied => "denied"

namespace Rule

/-- Reads a rule.  Of several mistakes the first counts, the policy being read before the scope and
the scope before the pattern. -/
def parse (policy pattern scope : String) : Except RuleError Rule := do
  let some p := Policy.ofText? policy | throw (.policy policy)
  let some s := Scope.ofText? scope | throw (.scope scope)
  let some r := Pattern.ofText? pattern | throw (.pattern pattern)
  return ⟨p, r, s⟩

/-- The rule for people to read. -/
def text (r : Rule) : String :=
  r.policy.text ++ " '" ++ r.pattern.source ++ "' (" ++ r.scope.text ++ ")"

def isAllow (r : Rule) : Bool := r.policy == .allow

def isGlobal (r : Rule) : Bool := r.scope == .global

/-- Whether the pattern occurs anywhere in the name. -/
def matchesName (r : Rule) (name : String) : Bool :=
  r.pattern.occursIn name

/-- An allow rule allows what it matches; a deny rule does not object to what it does not match. -/
def allows (r : Rule) (name : String) : Bool :=
  if r.isAllow then r.matchesName name else !r.matchesName name

/-- Where a rule sends the names that it governs. -/
def channel (r : Rule) : Channel :=
  match r.policy, r.scope with
  | .allow, .global => .unrestricted
  | .deny, .global => .denied
  | _, .restricted => .restricted

/-! ## Canonical rules -/

def allowedGlobally : Rule := ⟨.allow, .everything, .global⟩

def deniedGlobally : Rule := ⟨.deny, .everything, .global⟩

def allowedRestricted : Rule := ⟨.allow, .everything, .restricted⟩

def deniedRestricted : Rule := ⟨.deny, .everything, .restricted⟩

end Rule

end MetricsAgent
