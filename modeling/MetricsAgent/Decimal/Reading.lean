import MetricsAgent.Decimal.Nearest

/-!
# Reading doubles

The texts that denote a double: a decimal with optional sign, fraction and exponent, of which only
one digit is required, or one of the words for infinity and for what is not a number.
-/

namespace MetricsAgent.Decimal

/-- The value of a run of decimal digits after `acc`. -/
def digitsValue (acc : Nat) (cs : List Char) : Nat :=
  cs.foldl (fun n c => n * 10 + (c.toNat - '0'.toNat)) acc

/-- A run of digits at the front, and the rest. -/
def spanDigits (cs : List Char) : List Char × List Char :=
  (cs.takeWhile Char.isDigit, cs.dropWhile Char.isDigit)

/-- An optional sign at the front: whether it is a minus, and the rest. -/
def spanSign : List Char → Bool × List Char
  | '-' :: rest => (true, rest)
  | '+' :: rest => (false, rest)
  | rest => (false, rest)

/-- The exponent that ends a decimal; nothing stands for zero. -/
def exponent? : List Char → Option Int
  | [] => some 0
  | c :: rest =>
    if c = 'e' ∨ c = 'E' then
      let (negative, digits) := spanSign rest
      if digits ≠ [] ∧ digits.all Char.isDigit then
        let n : Int := digitsValue 0 digits
        some (if negative then -n else n)
      else none
    else none

/-- Reads a decimal without sign. -/
def decimal? (negative : Bool) (cs : List Char) : Option Float := do
  let (whole, rest) := spanDigits cs
  let (fraction, rest) := match rest with
    | '.' :: rest => spanDigits rest
    | rest => ([], rest)
  guard (whole ≠ [] ∨ fraction ≠ [])
  let e ← exponent? rest
  return ofDecimal negative (digitsValue (digitsValue 0 whole) fraction) (e - fraction.length)

/-- Reads a double. -/
def read? (text : String) : Option Float :=
  let (negative, cs) := spanSign text.toList
  let word := cs.map Char.toLower
  if word = "inf".toList ∨ word = "infinity".toList then
    some (nearest negative (Nat.pow 2 1025) 1)
  else if word = "nan".toList then some (0 / 0)
  else decimal? negative cs

end MetricsAgent.Decimal
