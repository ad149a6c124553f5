/-!
# Water marks

A link to the daemon takes no more commands when too much is waiting to be written, and takes them
again when little is.  Two marks say how much that is, in bytes.
-/

namespace MetricsAgent

structure Marks where
  low : Nat
  high : Nat
  deriving DecidableEq, Repr

namespace Marks

def defaults : Marks := ⟨4096 * 1024, 8192 * 1024⟩

/-- Whether commands are taken once `pending` bytes are waiting, given whether they were before. -/
def writable (m : Marks) (before : Bool) (pending : Nat) : Bool :=
  if before then pending ≤ m.high else pending < m.low

/-- Whether less than a tenth of the room up to the high mark is left. -/
def nearlyFull (m : Marks) (pending : Nat) : Bool :=
  m.high - pending < m.high / 10

end Marks

end MetricsAgent
