import MetricsAgent.Unicode.Case
import MetricsAgent.Unicode.Script

/-!
# Character sets of patterns

A set is kept as it was written, a term over ranges and named properties; membership evaluates
the term.  A caseless set holds a character as soon as it holds one of its case variants.
-/

namespace MetricsAgent.Pattern

open Unicode

/-- The properties that patterns can name, beside categories and scripts. -/
inductive Property where
  | any | ascii | assigned | word | alphabetic | lowercase | uppercase | cased | caseIgnorable
  | whiteSpace | dash | hexDigit | asciiHexDigit | math | emoji | ideographic | joinControl
  | identifierStart | identifierContinue
  deriving DecidableEq, Repr

def allCategories : List Category :=
  [.lu, .ll, .lt, .lm, .lo, .mn, .mc, .me, .nd, .nl, .no, .pc, .pd, .ps, .pe, .pi, .pf, .po, .sm,
    .sc, .sk, .so, .zs, .zl, .zp, .cc, .cf, .cs, .co]

def isIdentifierStart (c : Char) : Bool :=
  ([.lu, .ll, .lt, .lm, .lo, .nl] : List Category).any (·.points.contains c)
    && c ≠ '\u2e2f' || otherIdentifierStart.contains c

def Property.holds (c : Char) : Property → Bool
  | .any => true
  | .ascii => c.toNat < 128
  | .assigned => allCategories.any (·.points.contains c)
  | .word => wordCharacters.contains c
  | .alphabetic => Unicode.alphabetic.contains c
  | .lowercase => lowercaseLetters.contains c
  | .uppercase => uppercaseLetters.contains c
  | .cased => Unicode.cased.contains c
  | .caseIgnorable => Unicode.caseIgnorable.contains c
  | .whiteSpace => Unicode.whiteSpace.contains c
  | .dash => Unicode.dash.contains c
  | .hexDigit => Unicode.hexDigit.contains c
  | .asciiHexDigit => c.toNat < 128 && Unicode.hexDigit.contains c
  | .math => Unicode.math.contains c
  | .emoji => Unicode.emoji.contains c
  | .ideographic => Unicode.ideographic.contains c
  | .joinControl => Unicode.joinControl.contains c
  | .identifierStart => isIdentifierStart c
  | .identifierContinue =>
    isIdentifierStart c || ([.mn, .mc, .nd, .pc] : List Category).any (·.points.contains c)
      || otherIdentifierContinue.contains c

/-- A set of characters. -/
inductive CharSet where
  | range (first last : Nat)
  | property (p : Property)
  | category (c : Category)
  /-- The script at this place of the list of scripts. -/
  | script (place : Nat)
  | union (s t : CharSet)
  | inter (s t : CharSet)
  | compl (s : CharSet)
  /-- Everything that differs in case only from a member; of ASCII letters only if `ascii`. -/
  | caseless (ascii : Bool) (s : CharSet)
  deriving DecidableEq, Repr

namespace CharSet

def empty : CharSet := .range 1 0

def single (c : Char) : CharSet := .range c.toNat c.toNat

def ofList (sets : List CharSet) : CharSet :=
  match sets with
  | [] => empty
  | [s] => s
  | s :: t :: rest => .union s (ofList (t :: rest))

def diff (s t : CharSet) : CharSet := .inter s (.compl t)

def symmDiff (s t : CharSet) : CharSet := .union (diff s t) (diff t s)

/-- Membership of `c`, where `variants` are the characters that differ from it in case only. -/
def holds (variants : List Char) (c : Char) : CharSet → Bool
  | .range first last => first ≤ c.toNat && c.toNat ≤ last
  | .property p => p.holds c
  | .category k => k.points.contains c
  | .script place => (scripts[place]?).any (·.points.contains c)
  | .union s t => s.holds variants c || t.holds variants c
  | .inter s t => s.holds variants c && t.holds variants c
  | .compl s => !s.holds variants c
  | .caseless ascii s =>
    variants.any fun d => (!ascii || d == c || (d.toNat < 128 && c.toNat < 128)) && s.holds variants d

def contains (s : CharSet) (c : Char) : Bool :=
  s.holds (caseVariants c) c

theorem contains_union (s t : CharSet) (c : Char) :
    (CharSet.union s t).contains c = (s.contains c || t.contains c) := rfl

theorem contains_compl (s : CharSet) (c : Char) : (CharSet.compl s).contains c = !s.contains c := rfl

end CharSet

end MetricsAgent.Pattern
