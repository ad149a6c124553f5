/-!
# The nearest double

Every quotient of naturals lies nearest to one double, a half going to the even one.  `nearest`
gives that double for `num / den`, `ofDecimal` for a decimal with any exponent.  The arithmetic is on
naturals throughout, so that it can be computed with and reasoned about.
-/

namespace MetricsAgent.Decimal

/-- A positive finite double: `significand * 2 ^ exponent`. -/
structure Binary where
  significand : Nat
  exponent : Int
  deriving DecidableEq, Repr

/-- `num / den` to the nearest natural, a half to the even one. -/
def divRoundEven (num den : Nat) : Nat :=
  let q := num / den
  let r := num % den
  if 2 * r < den ∨ (2 * r = den ∧ q % 2 = 0) then q else q + 1

/-- `num / den` to the nearest natural, a half to the larger one. -/
def divRoundUp (num den : Nat) : Nat :=
  (2 * num + den) / (2 * den)

/-- The quotient `num / (den * 2 ^ q)` as numerator and denominator. -/
def scaleDown (num den : Nat) (q : Int) : Nat × Nat :=
  if q < 0 then (num * Nat.pow 2 q.natAbs, den) else (num, den * Nat.pow 2 q.natAbs)

/-- The smallest exponent of two that a double scales its integer significand by. -/
def minExponent : Int := -1074

/-- The exponent by which the significand of the double nearest `num / den` is scaled: it leaves
53 bits, fewer only at the smallest exponent. -/
def binaryExponent (num den : Nat) : Int :=
  let q : Int := (Nat.log2 num : Int) - Nat.log2 den - 53
  let scaled := scaleDown num den q
  max minExponent (if scaled.1 / scaled.2 < Nat.pow 2 53 then q else q + 1)

namespace Binary

/-- The double nearest to `num / den`, as if there were no largest one. -/
def nearest (num den : Nat) : Binary :=
  let q := binaryExponent num den
  let scaled := scaleDown num den q
  ⟨divRoundEven scaled.1 scaled.2, q⟩

def num (b : Binary) : Nat := b.significand * Nat.pow 2 b.exponent.toNat

def den (b : Binary) : Nat := Nat.pow 2 (-b.exponent).toNat

/-- Decodes the bits of a positive finite double. -/
def ofBits (bits : Nat) : Binary :=
  let field : Nat := bits / Nat.pow 2 52
  let fraction : Nat := bits % Nat.pow 2 52
  if field = 0 then ⟨fraction, minExponent⟩
  else ⟨fraction + Nat.pow 2 52, (field : Int) - 1 + minExponent⟩

/-- The bits of a double, which is infinity from the largest one on. -/
def toBits (b : Binary) : Nat :=
  min (0x7ff <<< 52) ((b.exponent - minExponent).toNat * Nat.pow 2 52 + b.significand)

end Binary

/-- The double nearest to `± num / den`. -/
def nearest (negative : Bool) (num den : Nat) : Float :=
  let bits := if num = 0 then 0 else (Binary.nearest num den).toBits
  let x := Float.ofBits bits.toUInt64
  if negative then -x else x

/-- The double nearest to `± digits * 10 ^ exponent`.  Exponents far outside of the range of the
doubles are not computed with. -/
def ofDecimal (negative : Bool) (digits : Nat) (exponent : Int) : Float :=
  if digits = 0 then nearest negative 0 1
  else if 400 < exponent then nearest negative (Nat.pow 2 1025) 1
  else if 0 ≤ exponent then nearest negative (digits * Nat.pow 10 exponent.natAbs) 1
  else if (Nat.log2 digits : Int) + 1200 < 3 * -exponent then nearest negative 0 1
  else nearest negative digits (Nat.pow 10 exponent.natAbs)

/-- The double nearest to an integer. -/
def ofInteger (n : Int) : Float :=
  nearest (n < 0) n.natAbs 1

end MetricsAgent.Decimal
