import MetricsAgent.Decimal.Reading
import MetricsAgent.Unicode.CodePoints

/-!
# JSON documents

A document is the tree that the grammar of JSON gives a text, before any number is rounded and any
string is checked: what a reader does not look at may hold numbers beyond all bounds and halves of
characters.  `read?` accepts exactly one value with blanks around it.
-/

namespace MetricsAgent.Json

/-- A number as written: an integer, and for a fractional number its fraction digits and exponent. -/
structure Numeral where
  negative : Bool
  whole : Nat
  fractional : Option (List Char × Int)
  deriving DecidableEq, Repr

/-- A text as written; `none` if it holds half of a character outside the basic plane. -/
abbrev Content := Option String

/-- The tree of a text.  Members of objects stand in the order written. -/
inductive Document where
  | null
  | bool (b : Bool)
  | number (n : Numeral)
  | string (s : Content)
  | array (items : List Document)
  | object (members : List (Content × Document))

/-! ## Strings -/

/-- A character of a string, or one code unit that was written as an escape. -/
inductive Piece where
  | char (c : Char)
  | unit (n : Nat)

def isHighHalf (n : Nat) : Bool := 0xd800 ≤ n && n < 0xdc00

def isLowHalf (n : Nat) : Bool := 0xdc00 ≤ n && n < 0xe000

/-- The characters of a string; two halves in a row make one. -/
def joinPieces (done : List Char) : List Piece → Option (List Char)
  | [] => some done.reverse
  | .char c :: rest => joinPieces (c :: done) rest
  | .unit n :: .unit m :: rest =>
    if isHighHalf n then
      if isLowHalf m then
        joinPieces (Char.ofNat (0x10000 + (n - 0xd800) * 0x400 + (m - 0xdc00)) :: done) rest
      else none
    else if isLowHalf n then none
    else joinPieces (Char.ofNat n :: done) (.unit m :: rest)
  | .unit n :: rest =>
    if isHighHalf n || isLowHalf n then none else joinPieces (Char.ofNat n :: done) rest

/-- What a letter after a backslash stands for. -/
def escaped? : Char → Option Char
  | '"' => some '"'
  | '\\' => some '\\'
  | '/' => some '/'
  | 'b' => some '\x08'
  | 'f' => some '\x0c'
  | 'n' => some '\n'
  | 'r' => some '\r'
  | 't' => some '\t'
  | _ => none

/-- The value of four hexadecimal digits. -/
def codeUnit? (a b c d : Char) : Option Nat := do
  return (((← Unicode.hexDigit? a) * 16 + (← Unicode.hexDigit? b)) * 16 + (← Unicode.hexDigit? c)) * 16
    + (← Unicode.hexDigit? d)

/-- The pieces of a string after its opening quote, and what follows the closing one.  Control
characters do not stand for themselves. -/
def readPieces (done : List Piece) : List Char → Option (List Piece × List Char)
  | [] => none
  | '"' :: rest => some (done.reverse, rest)
  | '\\' :: 'u' :: a :: b :: c :: d :: rest =>
    match codeUnit? a b c d with
    | some n => readPieces (.unit n :: done) rest
    | none => none
  | '\\' :: c :: rest =>
    match escaped? c with
    | some e => readPieces (.char e :: done) rest
    | none => none
  | c :: rest => if c.toNat < 32 then none else readPieces (.char c :: done) rest

theorem readPieces_codeUnit {a b c d : Char} {n : Nat} (h : codeUnit? a b c d = some n) (done : List Piece)
    (rest : List Char) :
    readPieces done ('\\' :: 'u' :: a :: b :: c :: d :: rest) = readPieces (.unit n :: done) rest := by
  rw [readPieces, h]

/-- A string after its opening quote. -/
def readString (cs : List Char) : Option (Content × List Char) :=
  (readPieces [] cs).map fun (pieces, rest) => ((joinPieces [] pieces).map String.ofList, rest)

/-! ## Numbers -/

/-- The exponent of a number, if one stands here. -/
def readExponent (cs : List Char) : Option (Option Int × List Char) :=
  match cs with
  | [] => some (none, [])
  | c :: rest =>
    if c = 'e' ∨ c = 'E' then
      let (negative, rest) := Decimal.spanSign rest
      let (digits, rest) := Decimal.spanDigits rest
      if digits = [] then none
      else
        let n : Int := Decimal.digitsValue 0 digits
        some (some (if negative then -n else n), rest)
    else some (none, c :: rest)

/-- The fraction digits of a number, if a point stands here. -/
def readFraction (cs : List Char) : Option (Option (List Char) × List Char) :=
  match cs with
  | '.' :: rest =>
    let (digits, rest) := Decimal.spanDigits rest
    if digits = [] then none else some (some digits, rest)
  | cs => some (none, cs)

/-- A number.  Its integer part has no needless zero. -/
def readNumeral (cs : List Char) : Option (Numeral × List Char) := do
  let (negative, cs) := match cs with
    | '-' :: rest => (true, rest)
    | cs => (false, cs)
  let (whole, cs) := Decimal.spanDigits cs
  guard (whole ≠ [] ∧ (whole.head? = some '0' → whole.length = 1))
  let (fraction, cs) ← readFraction cs
  let (exponent, cs) ← readExponent cs
  let fractional := match fraction, exponent with
    | none, none => none
    | fraction, exponent => some (fraction.getD [], exponent.getD 0)
  return (⟨negative, Decimal.digitsValue 0 whole, fractional⟩, cs)

/-! ## Values -/

/-- The blanks of JSON. -/
def isBlank (c : Char) : Bool :=
  c == ' ' || c == '\n' || c == '\t' || c == '\r'

def skipBlanks (cs : List Char) : List Char :=
  cs.dropWhile isBlank

/-- What follows `word`, if the text starts with it. -/
def afterWord? (word cs : List Char) : Option (List Char) :=
  if word.isPrefixOf cs then some (cs.drop word.length) else none

mutual
/-- A value, with no blanks before it. -/
def readValue (fuel : Nat) (cs : List Char) : Option (Document × List Char) :=
  match fuel with
  | 0 => none
  | fuel + 1 =>
    match cs with
    | '"' :: rest => (readString rest).map fun (s, rest) => (.string s, rest)
    | '[' :: rest =>
      match skipBlanks rest with
      | ']' :: rest => some (.array [], rest)
      | rest => readItems fuel [] rest
    | '\x7b' :: rest =>
      match skipBlanks rest with
      | '\x7d' :: rest => some (.object [], rest)
      | rest => readMembers fuel [] rest
    | 'n' :: rest => (afterWord? ['u', 'l', 'l'] rest).map (.null, ·)
    | 't' :: rest => (afterWord? ['r', 'u', 'e'] rest).map (.bool true, ·)
    | 'f' :: rest => (afterWord? ['a', 'l', 's', 'e'] rest).map (.bool false, ·)
    | cs => (readNumeral cs).map fun (n, rest) => (.number n, rest)

/-- The items of an array from the next one on; `done` are those before it, last first. -/
def readItems (fuel : Nat) (done : List Document) (cs : List Char) : Option (Document × List Char) :=
  match fuel with
  | 0 => none
  | fuel + 1 =>
    match readValue fuel cs with
    | none => none
    | some (item, cs) =>
      match skipBlanks cs with
      | ',' :: rest => readItems fuel (item :: done) (skipBlanks rest)
      | ']' :: rest => some (.array (item :: done).reverse, rest)
      | _ => none

/-- The members of an object from the next one on. -/
def readMembers (fuel : Nat) (done : List (Content × Document)) (cs : List Char) :
    Option (Document × List Char) :=
  match fuel with
  | 0 => none
  | fuel + 1 =>
    match cs with
    | '"' :: rest =>
      match readString rest with
      | none => none
      | some (key, cs) =>
        match skipBlanks cs with
        | ':' :: rest =>
          match readValue fuel (skipBlanks rest) with
          | none => none
          | some (value, cs) =>
            match skipBlanks cs with
            | ',' :: rest => readMembers fuel ((key, value) :: done) (skipBlanks rest)
            | '\x7d' :: rest => some (.object ((key, value) :: done).reverse, rest)
            | _ => none
        | _ => none
    | _ => none
end

/-- Reads a text that holds one value. -/
def Document.read? (text : String) : Option Document := do
  let cs := text.toList
  let (d, rest) ← readValue (2 * cs.length + 2) (skipBlanks cs)
  guard (skipBlanks rest = [])
  return d

end MetricsAgent.Json
