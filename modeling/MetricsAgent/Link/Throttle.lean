/-!
# Throttled messages

Of messages that come in quick succession only one is logged in each window of time.
-/

namespace MetricsAgent

structure Throttle where
  /-- The least time between two messages. -/
  window : Nat
  /-- When the last message was logged. -/
  last : Option Nat
  deriving DecidableEq, Repr

namespace Throttle

def ofWindow (window : Nat) : Throttle := ⟨window, none⟩

/-- Whether a message at the time `now` is logged. -/
def admits (t : Throttle) (now : Nat) : Bool :=
  match t.last with
  | some last => t.window ≤ now - last
  | none => true

/-- Asks for a message at the time `now`: whether it is logged, and the throttle afterwards. -/
def ask (t : Throttle) (now : Nat) : Bool × Throttle :=
  if t.admits now then (true, { t with last := some now }) else (false, t)

/-- Asks for messages at some times. -/
def askAll (t : Throttle) : List Nat → List Bool
  | [] => []
  | now :: rest => (t.ask now).1 :: askAll (t.ask now).2 rest

end Throttle

end MetricsAgent
