import MetricsAgent.Decimal.Shortest

/-!
# Writing doubles

The digits of a double are the shortest that read back; a `Layout` says how an output format sets
them: where the point stands, when an exponent is written, and what stands for what has no digits.
-/

namespace MetricsAgent.Decimal

/-- How a format sets the digits of a double. -/
structure Layout where
  /-- Whether a decimal whose first digit counts `10 ^ e` is written without an exponent. -/
  positional : Int → Bool
  /-- What follows a decimal without fraction digits. -/
  integerSuffix : String
  tie : Tie
  notANumber : String
  infinity : String
  negativeInfinity : String

/-- `n` zeros. -/
def zeros (n : Nat) : String :=
  String.ofList (List.replicate n '0')

/-- Digits with the decimal point, without an exponent. -/
def Digits.positional (d : Digits) (integerSuffix : String) : String :=
  let text := toString d.digits
  if 0 ≤ d.exponent then text ++ zeros d.exponent.toNat ++ integerSuffix
  else
    let places := (-d.exponent).toNat
    let padded := (zeros (places + 1 - text.length) ++ text).toList
    let whole := padded.length - places
    String.ofList (padded.take whole) ++ "." ++ String.ofList (padded.drop whole)

/-- Digits with one of them before the point, and a signed exponent. -/
def Digits.scientific (d : Digits) : String :=
  let text := toString d.digits
  let e := d.exponent + (text.length - 1 : Nat)
  let sign := if e < 0 then "-" else "+"
  match text.toList with
  | [] => ""
  | [c] => c.toString ++ "e" ++ sign ++ toString e.natAbs
  | c :: rest => c.toString ++ "." ++ String.ofList rest ++ "e" ++ sign ++ toString e.natAbs

/-- The text of a double whose sign is `negative` and whose magnitude has these bits. -/
def Layout.writeBits (l : Layout) (negative : Bool) (bits : Nat) : String :=
  if 0x7ff <<< 52 < bits then l.notANumber
  else if bits = 0x7ff <<< 52 then if negative then l.negativeInfinity else l.infinity
  else
    let d := if bits = 0 then ⟨0, 0⟩ else shortest l.tie bits
    let e := d.exponent + ((toString d.digits).length - 1 : Nat)
    let text := if l.positional e then d.positional l.integerSuffix else d.scientific
    if negative then "-" ++ text else text

/-- The text of a double. -/
def Layout.write (l : Layout) (x : Float) : String :=
  let bits := x.toBits.toNat
  l.writeBits (Nat.pow 2 63 ≤ bits) (bits % Nat.pow 2 63)

end MetricsAgent.Decimal
