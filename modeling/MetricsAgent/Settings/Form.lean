/-!
# Forms of records

Settings come as trees of more than one data format.  A `Form` says how the trees of a format are
read: as records, lists, texts, truth values and numbers.
-/

namespace MetricsAgent

/-- How the trees of a data format are read. -/
structure Form (α : Type) where
  /-- The members of a record whose fields have these names, in the order of the tree. -/
  members? : List String → α → Option (List (String × α))
  items? : α → Option (List α)
  text? : α → Option String
  bool? : α → Option Bool
  uint64? : α → Option UInt64
  /-- Whether a value is there, where it may be missing. -/
  isPresent? : α → Option Bool

namespace Form

variable {α β : Type} (form : Form α)

/-- A value that may be missing. -/
def optional? (read : α → Option β) (a : α) : Option (Option β) := do
  if ← form.isPresent? a then (read a).map some else some none

/-- A list of values. -/
def list? (read : α → Option β) (a : α) : Option (List β) := do
  (← form.items? a).mapM read

/-- The members of a record that has no other fields than these, and none twice. -/
def record? (fields : List String) (a : α) : Option (List (String × α)) := do
  let members ← form.members? fields a
  if members.all (fields.contains ·.1) ∧ (members.map (·.1)).Nodup then some members else none

end Form

/-- The field of a record that must be there. -/
def field? {α β : Type} (members : List (String × α)) (name : String) (read : α → Option β) :
    Option β := do
  read (← members.lookup name)

/-- The field of a record that has a default. -/
def fieldOr? {α β : Type} (members : List (String × α)) (name : String) (default : β)
    (read : α → Option β) : Option β :=
  match members.lookup name with
  | none => some default
  | some a => read a

end MetricsAgent
