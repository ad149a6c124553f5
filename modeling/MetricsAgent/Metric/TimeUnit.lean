import MetricsAgent.Rule.Basic

/-!
# Units of time

Rates and durations are reported in units that the user chooses.  Conversions saturate at the largest
64 bit number.
-/

namespace MetricsAgent

inductive TimeUnit where
  | nanoseconds | microseconds | milliseconds | seconds | minutes | hours | days
  deriving DecidableEq, Repr

namespace TimeUnit

def all : List TimeUnit :=
  [.nanoseconds, .microseconds, .milliseconds, .seconds, .minutes, .hours, .days]

def text : TimeUnit → String
  | .nanoseconds => "NANOSECONDS"
  | .microseconds => "MICROSECONDS"
  | .milliseconds => "MILLISECONDS"
  | .seconds => "SECONDS"
  | .minutes => "MINUTES"
  | .hours => "HOURS"
  | .days => "DAYS"

/-- Reads a unit in any letter case. -/
def ofText? (text : String) : Option TimeUnit :=
  all.find? (sameIgnoringCase text ·.text)

/-- The nanoseconds of one unit. -/
def nanos : TimeUnit → Nat
  | .nanoseconds => 1
  | .microseconds => 1000
  | .milliseconds => 1000 * 1000
  | .seconds => 1000 * 1000 * 1000
  | .minutes => 60 * 1000 * 1000 * 1000
  | .hours => 3600 * 1000 * 1000 * 1000
  | .days => 86400 * 1000 * 1000 * 1000

/-- The natural, or the largest 64 bit number if it is larger. -/
def saturated (n : Nat) : UInt64 :=
  UInt64.ofNat (min n 18446744073709551615)

/-- The whole nanoseconds of a duration. -/
def toNanos (u : TimeUnit) (duration : UInt64) : UInt64 :=
  saturated (duration.toNat * u.nanos)

/-- The whole seconds of a duration. -/
def toSeconds (u : TimeUnit) (duration : UInt64) : UInt64 :=
  u.toNanos duration / UInt64.ofNat seconds.nanos

end TimeUnit

end MetricsAgent
