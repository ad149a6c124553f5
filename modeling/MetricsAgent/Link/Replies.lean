/-!
# Replies

The daemon answers each command with a line.  The replies of a connection are counted.
-/

namespace MetricsAgent

structure Replies where
  successes : UInt64
  errors : UInt64
  deriving DecidableEq, Repr

namespace Replies

def none : Replies := ⟨0, 0⟩

/-- Whether a reply tells of a failure. -/
def isError (line : String) : Bool :=
  match line.toList with
  | '-' :: '1' :: _ => true
  | _ => false

/-- Counts a reply. -/
def record (r : Replies) (line : String) : Replies :=
  if isError line then { r with errors := r.errors + 1 } else { r with successes := r.successes + 1 }

/-- The complete lines of a text. -/
def completeLines (text : String) : List String :=
  (text.splitOn "\n").dropLast

/-- Counts the replies of a text. -/
def recordAll (r : Replies) (text : String) : Replies :=
  (completeLines text).foldl record r

end Replies

end MetricsAgent
