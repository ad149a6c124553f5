import MetricsAgent.Json.Document
import MetricsAgent.Decimal.Layout

/-!
# JSON values

A value is a document that was understood: its numbers are 64 bit integers or doubles, its strings
are texts, and the members of its objects are sorted by key.  `write` gives the compact text of a
value.
-/

namespace MetricsAgent.Json

/-- A number with a meaning: an integer of 64 bits, signed or not, or a double. -/
inductive Number where
  | integer (n : Int)
  | float (x : Float)

inductive Value where
  | null
  | bool (b : Bool)
  | number (n : Number)
  | string (s : String)
  | array (items : List Value)
  /-- Members in the order of their keys, of which none occurs twice. -/
  | object (members : List (String × Value))

/-! ## Sorted members -/

/-- Puts a member where its key belongs; a member of the same key is replaced. -/
def insertMember {α : Type} (key : String) (value : α) : List (String × α) → List (String × α)
  | [] => [(key, value)]
  | (k, v) :: rest =>
    if key < k then (key, value) :: (k, v) :: rest
    else if key = k then (key, value) :: rest
    else (k, v) :: insertMember key value rest

/-- The members in the order of their keys; of a key that occurs twice the last value counts. -/
def sortMembers {α : Type} (members : List (String × α)) : List (String × α) :=
  members.foldl (fun sorted m => insertMember m.1 m.2 sorted) []

/-! ## From documents -/

def maxUnsigned : Int := 18446744073709551615

def minSigned : Int := -9223372036854775808

/-- The double nearest to a numeral. -/
def Numeral.toFloat (n : Numeral) : Float :=
  let (fraction, exponent) := n.fractional.getD ([], 0)
  Decimal.ofDecimal n.negative (Decimal.digitsValue n.whole fraction) (exponent - fraction.length)

/-- The integer that a numeral denotes, if it is written as one and fits into 64 bits.  A negative
zero does not denote an integer. -/
def Numeral.integer? (n : Numeral) : Option Int :=
  match n.fractional with
  | some _ => none
  | none =>
    if n.negative then
      if n.whole ≠ 0 ∧ minSigned ≤ -(n.whole : Int) then some (-n.whole) else none
    else if (n.whole : Int) ≤ maxUnsigned then some n.whole else none

/-- The number that a numeral denotes, unless it is too large for a double. -/
def Numeral.number? (n : Numeral) : Option Number :=
  match n.integer? with
  | some i => some (.integer i)
  | none => if n.toFloat.isInf then none else some (.float n.toFloat)

/-- How deep arrays and objects may be nested. -/
def depthLimit : Nat := 127

mutual
/-- The value of a document in which arrays and objects are nested at most `depth` deep. -/
def Document.value? (depth : Nat) : Document → Option Value
  | .null => some .null
  | .bool b => some (.bool b)
  | .number n => n.number?.map .number
  | .string s => s.map .string
  | .array items =>
    match depth with
    | 0 => none
    | depth + 1 => (Document.values? depth items).map .array
  | .object members =>
    match depth with
    | 0 => none
    | depth + 1 => (Document.memberValues? depth members).map fun ms => .object (sortMembers ms)

def Document.values? (depth : Nat) : List Document → Option (List Value)
  | [] => some []
  | d :: rest =>
    match d.value? depth, Document.values? depth rest with
    | some v, some vs => some (v :: vs)
    | _, _ => none

def Document.memberValues? (depth : Nat) :
    List (Content × Document) → Option (List (String × Value))
  | [] => some []
  | (key, d) :: rest =>
    match key, d.value? depth, Document.memberValues? depth rest with
    | some k, some v, some vs => some ((k, v) :: vs)
    | _, _, _ => none
end

/-! ## Texts -/

/-- The double notation of JSON: positional from `10 ^ -5` to below `10 ^ 16`, always with a
fraction or an exponent.  What is not finite has no number. -/
def layout : Decimal.Layout where
  positional e := -5 ≤ e && e ≤ 15
  integerSuffix := ".0"
  tie := .toEven
  notANumber := "null"
  infinity := "null"
  negativeInfinity := "null"

def Number.write : Number → String
  | .integer n => toString n
  | .float x => layout.write x

/-- One hexadecimal digit. -/
def hexDigit (n : Nat) : Char :=
  if n < 10 then Char.ofNat (48 + n) else Char.ofNat (87 + n)

/-- How a character stands in a string: quotes, backslashes and control characters are escaped. -/
def escapeChar (c : Char) : List Char :=
  if c = '"' then ['\\', '"']
  else if c = '\\' then ['\\', '\\']
  else if c = '\x08' then ['\\', 'b']
  else if c = '\x0c' then ['\\', 'f']
  else if c = '\n' then ['\\', 'n']
  else if c = '\r' then ['\\', 'r']
  else if c = '\t' then ['\\', 't']
  else if c.toNat < 32 then ['\\', 'u', '0', '0', hexDigit (c.toNat / 16), hexDigit (c.toNat % 16)]
  else [c]

/-- A string with its quotes. -/
def writeString (s : String) : String :=
  String.ofList ('"' :: s.toList.flatMap escapeChar ++ ['"'])

/-- Texts between commas. -/
def commaSeparated : List String → String
  | [] => ""
  | [s] => s
  | s :: t :: rest => s ++ "," ++ commaSeparated (t :: rest)

/-- The text of an object whose members have these texts. -/
def writeObject (members : List (String × String)) : String :=
  "\x7b" ++ commaSeparated (members.map fun m => writeString m.1 ++ ":" ++ m.2) ++ "\x7d"

mutual
/-- The compact text of a value. -/
def Value.write : Value → String
  | .null => "null"
  | .bool b => if b then "true" else "false"
  | .number n => n.write
  | .string s => writeString s
  | .array items => "[" ++ commaSeparated (Value.writeAll items) ++ "]"
  | .object members => writeObject (Value.writeMembers members)

def Value.writeAll : List Value → List String
  | [] => []
  | v :: rest => v.write :: Value.writeAll rest

def Value.writeMembers : List (String × Value) → List (String × String)
  | [] => []
  | (k, v) :: rest => (k, v.write) :: Value.writeMembers rest
end

end MetricsAgent.Json
