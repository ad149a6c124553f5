/-!
# Sets of characters

A set of characters as inclusive ranges of code points, written as text: `41-5a 5f` is the capital
letters and the underscore.
-/

namespace MetricsAgent.Unicode

/-- A set of characters: the union of inclusive code point ranges. -/
structure CodePoints where
  ranges : List (Nat × Nat)
  deriving DecidableEq, Repr

/-- The value of a hexadecimal digit. -/
def hexDigit? (c : Char) : Option Nat :=
  if '0' ≤ c ∧ c ≤ '9' then some (c.toNat - 48)
  else if 'a' ≤ c ∧ c ≤ 'f' then some (c.toNat - 87)
  else if 'A' ≤ c ∧ c ≤ 'F' then some (c.toNat - 55)
  else none

namespace CodePoints

/-- Reading a table, one character at a time: the ranges so far, the start of the open range, and
the digits read of the current number. -/
structure Scan where
  done : List (Nat × Nat)
  start : Option Nat
  value : Option Nat

/-- Ends the open range, if a number was read. -/
def Scan.close (s : Scan) : Scan :=
  match s.value with
  | none => s
  | some last => ⟨(s.start.getD last, last) :: s.done, none, none⟩

/-- A digit extends the number, a hyphen ends the first bound, all else ends the range. -/
def Scan.step (s : Scan) (c : Char) : Scan :=
  match hexDigit? c with
  | some d => { s with value := some (s.value.getD 0 * 16 + d) }
  | none => if c = '-' then { s with start := s.value, value := none } else s.close

/-- Reads a table of hexadecimal ranges that are separated by blanks. -/
def ofText (table : String) : CodePoints :=
  ⟨((table.toList.foldl Scan.step ⟨[], none, none⟩).close).done.reverse⟩

def contains (s : CodePoints) (c : Char) : Bool :=
  s.ranges.any fun r => r.1 ≤ c.toNat && c.toNat ≤ r.2

/-- The characters of either set. -/
def union (s t : CodePoints) : CodePoints :=
  ⟨s.ranges ++ t.ranges⟩

theorem contains_union (s t : CodePoints) (c : Char) :
    (s.union t).contains c = (s.contains c || t.contains c) := by
  simp [contains, union, List.any_append]

end CodePoints

end MetricsAgent.Unicode
