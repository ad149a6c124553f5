import MetricsAgent.Decimal.Nearest

/-!
# The shortest decimal of a double

Several decimals lie so close to a double that they read back as it.  `shortest` chooses one with
the fewest digits, and of those the nearest; the caller says where an exact tie goes.
-/

namespace MetricsAgent.Decimal

/-- A positive decimal: `digits * 10 ^ exponent`. -/
structure Digits where
  digits : Nat
  exponent : Int
  deriving DecidableEq, Repr

/-- Where a tie between two neighbours goes. -/
inductive Tie where
  | up | toEven
  deriving DecidableEq, Repr

namespace Binary

/-- The double, and the ends of the interval of reals that round to it, over a common denominator.
The interval reaches half way to both neighbours; below a power of two the neighbour is closer. -/
structure Interval where
  low : Nat
  value : Nat
  high : Nat
  denominator : Nat
  /-- Whether the ends belong to it. -/
  closed : Bool

def interval (b : Binary) : Interval :=
  let e := b.exponent - 2
  let up := Nat.pow 2 e.toNat
  let nearLow := b.significand = Nat.pow 2 52 ∧ -1074 < b.exponent
  ⟨(4 * b.significand - if nearLow then 1 else 2) * up, 4 * b.significand * up,
    (4 * b.significand + 2) * up, Nat.pow 2 (-e).toNat, b.significand % 2 = 0⟩

/-- Whether `k * 10 ^ exponent` lies in the interval. -/
def Interval.holds (i : Interval) (d : Digits) : Bool :=
  let num := d.digits * Nat.pow 10 d.exponent.toNat * i.denominator
  let scale := Nat.pow 10 (-d.exponent).toNat
  if i.closed then i.low * scale ≤ num && num ≤ i.high * scale
  else i.low * scale < num && num < i.high * scale

/-- The largest decimal exponent `k` with `10 ^ k` not above the value. -/
def Interval.magnitude (i : Interval) : Int :=
  let guess : Int := ((Nat.log2 i.value : Int) - Nat.log2 i.denominator) * 30103 / 100000
  let reaches (k : Int) : Bool := Nat.pow 10 k.toNat * i.denominator ≤ i.value * Nat.pow 10 (-k).toNat
  ([guess + 2, guess + 1, guess, guess - 1].find? reaches).getD (guess - 2)

/-- The decimal at one of the two grid points around the value that lies in the interval, with
`10 ^ unit` between the points. -/
def Interval.onGrid? (i : Interval) (tie : Tie) (unit : Int) : Option Digits :=
  let num := i.value * Nat.pow 10 (-unit).toNat
  let den := i.denominator * Nat.pow 10 unit.toNat
  let below : Digits := ⟨num / den, unit⟩
  let above : Digits := ⟨num / den + 1, unit⟩
  let rest := num % den
  let preferBelow := 2 * rest < den || (2 * rest == den && tie == .toEven && below.digits % 2 == 0)
  match i.holds below, i.holds above with
  | true, true => some (if preferBelow then below else above)
  | true, false => some below
  | false, true => some above
  | false, false => none

end Binary

/-- Drops final zeros. -/
def Digits.strip (fuel : Nat) (d : Digits) : Digits :=
  match fuel with
  | 0 => d
  | fuel + 1 =>
    if d.digits ≠ 0 ∧ d.digits % 10 = 0 then Digits.strip fuel ⟨d.digits / 10, d.exponent + 1⟩ else d

/-- The shortest decimal that reads back as the double with these bits.  Seventeen digits always
do. -/
def shortest (tie : Tie) (bits : Nat) : Digits :=
  let i := (Binary.ofBits bits).interval
  let top := i.magnitude
  let found := (List.range 17).findSome? fun (n : Nat) => i.onGrid? tie (top - n)
  (found.getD ⟨i.value / i.denominator, 0⟩).strip 20

end MetricsAgent.Decimal
