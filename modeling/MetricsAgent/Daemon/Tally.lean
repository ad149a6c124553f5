import MetricsAgent.Daemon.Lifecycle

/-!
# A daemon that only counts

A `Tally` stands in for a daemon where it matters what was asked of it, and not what it does.
-/

namespace MetricsAgent

/-- How often each operation was asked for, and what to answer. -/
structure Tally where
  starts : Nat := 0
  stops : Nat := 0
  reloads : Nat := 0
  healthy : Bool := true
  reloadState : DaemonState := .started
  deriving DecidableEq, Repr

def Tally.life : Lifecycle Tally where
  start _ _ t := (.started, { t with starts := t.starts + 1 })
  check t := (t.healthy, t)
  stop t := (.stopped, { t with stops := t.stops + 1 })
  reload _ t := (t.reloadState, { t with reloads := t.reloads + 1 })

end MetricsAgent
