import MetricsAgent.Settings.Basic

/-!
# The life of the daemon

What the rest of the agent asks of the daemon: to start, to stop, to read its upload configuration
again, and to tell whether it is well.  Failures show in the state that it is in afterwards.  Whatever
carries this out is a `Lifecycle` on its own kind of states.
-/

namespace MetricsAgent

inductive DaemonState where
  /-- Never started. -/
  | init
  /-- The last operation failed, and it is not clear what that left. -/
  | unknown
  /-- Alive when last looked at. -/
  | started
  | stopped
  /-- Not executable, or it never came up. -/
  | broken
  deriving DecidableEq, Repr

def DaemonState.text : DaemonState → String
  | .init => "INIT"
  | .unknown => "UNKNOWN"
  | .started => "STARTED"
  | .stopped => "STOPPED"
  | .broken => "BROKEN"

def DaemonState.ofText? (text : String) : Option DaemonState :=
  [DaemonState.init, .unknown, .started, .stopped, .broken].find? (·.text == text)

/-- The operations on a daemon with states `δ`. -/
structure Lifecycle (δ : Type) where
  /-- Starts the daemon with a socket. -/
  start : ByteArray → Settings → δ → DaemonState × δ
  check : δ → Bool × δ
  stop : δ → DaemonState × δ
  /-- Writes the upload configuration of a running daemon anew. -/
  reload : Settings → δ → DaemonState × δ

/-- Checks the daemon's health, and starts it again if it fails: whether it was well, the number of
failures so far, and the daemon. -/
def Lifecycle.tick {δ : Type} (life : Lifecycle δ) (socket : ByteArray) (settings : Settings)
    (failed : UInt64) (d : δ) : Bool × UInt64 × δ :=
  match life.check d with
  | (true, d) => (true, failed, d)
  | (false, d) => (false, failed + 1, (life.start socket settings d).2)

end MetricsAgent
