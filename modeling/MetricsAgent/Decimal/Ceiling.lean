import MetricsAgent.Decimal.Nearest

/-!
# The next integer

`ceiling` gives the least 64 bit integer that is no less than a double, from the double's bits, so that it can be
computed with and reasoned about.
-/

namespace MetricsAgent.Decimal

/-- The 64 bit integer nearest to an integer: itself, or the end that it is beyond. -/
def clamp (n : Int) : Int64 :=
  Int64.ofInt (max Int64.minValue.toInt (min n Int64.maxValue.toInt))

/-- The least integer that is no less than a positive double, or than its negative. -/
def Binary.ceiling (negative : Bool) (b : Binary) : Int :=
  if negative then -(b.num / b.den : Nat) else ((b.num + b.den - 1) / b.den : Nat)

/-- The least integer that is no less than a double, cut to 64 bits.  What is not a number counts as
zero. -/
def ceiling (x : Float) : Int64 :=
  let bits := x.toBits.toNat
  let magnitude := bits % Nat.pow 2 63
  -- Infinity is taken for the double after the largest one, which is cut all the same.
  if 0x7ff <<< 52 < magnitude then 0
  else clamp ((Binary.ofBits magnitude).ceiling (Nat.pow 2 63 ≤ bits))

end MetricsAgent.Decimal
