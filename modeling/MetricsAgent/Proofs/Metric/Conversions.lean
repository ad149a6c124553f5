import MetricsAgent.Metric.TimeUnit

/-!
# Durations in nanoseconds and in seconds

Nanoseconds are exact up to the largest number of 64 bits. Seconds are counted out of these nanoseconds, so that
they end where the nanoseconds do: a duration of more seconds is told as the last number of them that still fits,
even though the seconds alone would fit.
-/

namespace MetricsAgent.TimeUnit

/-- The whole seconds in so many units, for any number of them. -/
def secondsIn : TimeUnit → Nat → Nat
  | .nanoseconds, n => n / (1000 * 1000 * 1000)
  | .microseconds, n => n / (1000 * 1000)
  | .milliseconds, n => n / 1000
  | .seconds, n => n
  | .minutes, n => n * 60
  | .hours, n => n * 3600
  | .days, n => n * 86400

/-- The largest number of 64 bits. -/
def largest : Nat := UInt64.size - 1

/-- The whole seconds in as many nanoseconds as fit into 64 bits. -/
def mostSeconds : Nat := largest / seconds.nanos

example : mostSeconds = 18446744073 := by decide

theorem secondsIn_eq (u : TimeUnit) (n : Nat) : u.secondsIn n = n * u.nanos / seconds.nanos := by
  cases u with
  | nanoseconds => exact congrArg (· / seconds.nanos) (Nat.mul_one n).symm
  | microseconds | milliseconds | seconds | minutes | hours | days =>
      simp only [secondsIn, nanos]
      omega

theorem secondsIn_le_secondsIn (u : TimeUnit) {m n : Nat} (h : m ≤ n) : u.secondsIn m ≤ u.secondsIn n := by
  rw [secondsIn_eq, secondsIn_eq]
  exact Nat.div_le_div_right (Nat.mul_le_mul_right _ h)

theorem toNat_saturated (n : Nat) : (saturated n).toNat = min n largest :=
  UInt64.toNat_ofNat_of_lt' (Nat.lt_of_le_of_lt (Nat.min_le_right _ _) (by decide))

theorem toNat_toNanos (u : TimeUnit) (d : UInt64) : (u.toNanos d).toNat = min (d.toNat * u.nanos) largest :=
  toNat_saturated _

theorem toNat_toSeconds (u : TimeUnit) (d : UInt64) : (u.toSeconds d).toNat = min (u.secondsIn d.toNat) mostSeconds := by
  have hnanos : (UInt64.ofNat seconds.nanos).toNat = seconds.nanos := by decide
  -- Division keeps the order, so the smaller number has the smaller quotient.
  have hmin (m n k : Nat) : min m n / k = min (m / k) (n / k) := by
    rcases Nat.le_total m n with h | h
    · rw [Nat.min_eq_left h, Nat.min_eq_left (Nat.div_le_div_right h)]
    · rw [Nat.min_eq_right h, Nat.min_eq_right (Nat.div_le_div_right h)]
  rw [toSeconds, UInt64.toNat_div, toNat_toNanos, hnanos, hmin, secondsIn_eq, mostSeconds]

/-- Nanoseconds are exact up to the largest number of 64 bits, and seconds up to those of the largest number of
nanoseconds: beyond these, and only there, a number of seconds that fits into 64 bits is told as a smaller one.
Longer durations never give fewer seconds. -/
theorem conversions (u : TimeUnit) (d : UInt64) :
    (u.toNanos d).toNat = min (d.toNat * u.nanos) largest ∧
    (u.toSeconds d).toNat = min (u.secondsIn d.toNat) mostSeconds ∧
    ((u.toSeconds d).toNat = min (u.secondsIn d.toNat) largest ↔ u.secondsIn d.toNat ≤ mostSeconds) ∧
    (seconds.toSeconds d = d ↔ d.toNat ≤ mostSeconds) ∧
    ∀ e, d ≤ e → u.toSeconds d ≤ u.toSeconds e := by
  have hlt : mostSeconds < largest := by decide
  refine ⟨toNat_toNanos u d, toNat_toSeconds u d, ?_, ?_, fun e he => ?_⟩
  · rw [toNat_toSeconds]
    omega
  · rw [← UInt64.toNat_inj, toNat_toSeconds]
    show min d.toNat mostSeconds = d.toNat ↔ _
    omega
  · rw [UInt64.le_iff_toNat_le, toNat_toSeconds, toNat_toSeconds]
    have hle := u.secondsIn_le_secondsIn (UInt64.le_iff_toNat_le.mp he)
    omega

/-- One second more than the nanoseconds of 64 bits hold is not told as itself. -/
theorem seconds_beyond_nanoseconds :
    seconds.toSeconds 18446744074 = 18446744073 ∧
    min (seconds.secondsIn (18446744074 : UInt64).toNat) largest = 18446744074 := by
  decide

end MetricsAgent.TimeUnit
