import MetricsAgent.Unicode.CaseTable
import MetricsAgent.Unicode.Property

/-!
# Lowercase text and case variants

`lowercase` maps a text to lowercase; only the Greek capital sigma looks at its neighbours, since
it has a form of its own at the end of a word.  `caseVariants` lists the characters that differ from
a given one in case only.
-/

namespace MetricsAgent.Unicode

/-! ## Shifts -/

/-- The code point that `n` moves to, if the shift covers `n`. -/
def Shift.image? (s : Shift) (n : Nat) : Option Nat :=
  if s.first ≤ n ∧ n ≤ s.last ∧ (n - s.first) % s.stride = 0 then some (n + s.offset).toNat else none

/-- The code point that moves to `n`, if the shift covers one. -/
def Shift.source? (s : Shift) (n : Nat) : Option Nat :=
  let m := n - s.offset
  if (s.first : Int) ≤ m ∧ m ≤ s.last ∧ (m.toNat - s.first) % s.stride = 0 then some m.toNat else none

/-- Where the first shift that covers `n` moves it; `n` itself if none does. -/
def shiftWith (table : List Shift) (n : Nat) : Nat :=
  (table.findSome? (·.image? n)).getD n

/-! ## Lowercase -/

/-- The lowercase of one character on its own.  The dotted capital I becomes two characters. -/
def lowercaseChar (c : Char) : List Char :=
  if c.toNat < 128 then [c.toLower]
  else if c = '\u0130' then ['i', '\u0307']
  else [Char.ofNat (shiftWith lowercaseShifts c.toNat)]

/-- Whether the first character that does not merely accompany a letter is a cased one. -/
def reachesCased (text : List Char) : Bool :=
  match text.dropWhile caseIgnorable.contains with
  | [] => false
  | c :: _ => cased.contains c

/-- Lowercase of the text after `before`, which holds the characters passed so far, last first. -/
def lowercaseAfter (before : List Char) : List Char → List Char
  | [] => []
  | c :: rest =>
    if c = '\u03a3' then
      (if reachesCased before && !reachesCased rest then '\u03c2' else '\u03c3')
        :: lowercaseAfter (c :: before) rest
    else lowercaseChar c ++ lowercaseAfter (c :: before) rest

/-- The text in lowercase. -/
def lowercase (text : String) : String :=
  String.ofList (lowercaseAfter [] text.toList)

/-! ## Case variants -/

/-- The representative of the characters that differ from `c` in case only. -/
def caseFold (c : Char) : Nat :=
  if c.toNat < 128 then c.toLower.toNat else shiftWith foldShifts c.toNat

/-- All characters that differ from `c` in case only, `c` among them. -/
def caseVariants (c : Char) : List Char :=
  let f := caseFold c
  Char.ofNat f :: (foldShifts.filterMap (·.source? f)).map Char.ofNat

end MetricsAgent.Unicode
