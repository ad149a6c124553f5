import MetricsAgent.Json.Value

/-!
# Records in JSON

A record is written as an object with its fields as members, or as an array of its fields in order.
Members that are no fields are passed over unread; a field is given once at most.
-/

namespace MetricsAgent.Json

/-- The members of an object by their keys; none if a key is no text. -/
def textKeys? (members : List (Content × Document)) : Option (List (String × Document)) :=
  members.mapM fun m => m.1.map (·, m.2)

/-- The values of one field among the members of an object. -/
def fieldValues (members : List (String × Document)) (field : String) : List Document :=
  (members.filter (·.1 == field)).map (·.2)

/-- The value of a field that is given once at most. -/
def atMostOne : List Document → Option (Option Document)
  | [] => some none
  | [d] => some (some d)
  | _ => none

/-- What a record gives for each of its fields, in their order. -/
def Document.fields? (fields : List String) : Document → Option (List (Option Document))
  | .object members => do
    let members ← textKeys? members
    fields.mapM fun f => atMostOne (fieldValues members f)
  | .array items =>
    if items.length ≤ fields.length then
      some (items.map some ++ List.replicate (fields.length - items.length) none)
    else none
  | _ => none

/-! ## Single values -/

def Document.text? : Document → Option String
  | .string s => s
  | _ => none

def Document.bool? : Document → Option Bool
  | .bool b => some b
  | _ => none

/-- An integer of 64 bits, signed or not. -/
def Document.integer? : Document → Option Int
  | .number n => n.integer?
  | _ => none

def Document.int64? (d : Document) : Option Int64 := do
  let n ← d.integer?
  if Int64.minValue.toInt ≤ n ∧ n ≤ Int64.maxValue.toInt then some (Int64.ofInt n) else none

def Document.uint64? (d : Document) : Option UInt64 := do
  let n ← d.integer?
  if 0 ≤ n then some (UInt64.ofNat n.toNat) else none

/-- A number as a double. -/
def Document.float? : Document → Option Float
  | .number n => n.number?.map fun
    | .integer i => Decimal.ofInteger i
    | .float x => x
  | _ => none

/-- A value that may be missing: `null` says so. -/
def Document.optional? {α : Type} (read : Document → Option α) : Document → Option (Option α)
  | .null => some none
  | d => (read d).map some

/-- An object whose values are texts, in the order of the keys. -/
def Document.texts? : Document → Option (List (String × String))
  | .object members => do
    let members ← textKeys? members
    let texts ← members.mapM fun m => m.2.text?.map (m.1, ·)
    return sortMembers texts
  | _ => none

/-- A double as a value.  What is not finite becomes `null`. -/
def Value.ofFloat (x : Float) : Value :=
  if x.isFinite then .number (.float x) else .null

def Value.ofInt (n : Int) : Value := .number (.integer n)

/-- The object with these members. -/
def Value.ofMembers (members : List (String × Value)) : Value :=
  .object (sortMembers members)

end MetricsAgent.Json
