import MetricsAgent.Pattern.Form
import MetricsAgent.Pattern.PropertyName

/-!
# Reading patterns

The text of a pattern is read from left to right into a `Form`; `none` stands for every kind of
mistake, since all of them make a rule invalid alike.  Loops are bounded by the length of the text.
-/

namespace MetricsAgent.Pattern

/-! ## The place of reading -/

/-- What is left to read, whether blanks and comments are skipped, and the names of groups so far. -/
structure Cursor where
  rest : List Char
  verbose : Bool
  names : List (List Char)

/-- White space, as Unicode has it. -/
def isBlank (c : Char) : Bool := Unicode.whiteSpace.contains c

/-- Skips blanks, and comments up to the end of their line; `comment` tells whether one is open. -/
def skipBlanks (comment : Bool) : List Char → List Char
  | [] => []
  | c :: rest =>
    if comment then skipBlanks (c != '\n') rest
    else if isBlank c then skipBlanks false rest
    else if c = '#' then skipBlanks true rest
    else c :: rest

namespace Cursor

/-- Skips what does not count. -/
def skip (k : Cursor) : Cursor :=
  if k.verbose then { k with rest := skipBlanks false k.rest } else k

/-- Goes past `n` characters and what does not count after them. -/
def past (k : Cursor) (n : Nat) : Cursor :=
  { k with rest := k.rest.drop n }.skip

/-- Goes past `n` characters. -/
def drop (k : Cursor) (n : Nat) : Cursor :=
  { k with rest := k.rest.drop n }

end Cursor

/-! ## Numbers -/

/-- A decimal number with blanks around it, of 32 bits at most. -/
def readDecimal (k : Cursor) : Option (Nat × Cursor) :=
  let rest := k.rest.dropWhile isBlank
  let k := { k with rest := rest }
  let rec go (fuel : Nat) (k : Cursor) (value : Option Nat) : Option Nat × Cursor :=
    match fuel, k.rest with
    | fuel + 1, c :: _ =>
      if c.isDigit then go fuel (k.past 1) (some (value.getD 0 * 10 + (c.toNat - 48))) else (value, k)
    | _, _ => (value, k)
  let (value, k) := go rest.length k none
  match value with
  | none => none
  | some n => if n < Nat.pow 2 32 then some (n, { k with rest := k.rest.dropWhile isBlank }) else none

/-- The character with a code, if there is one. -/
def charOf? (n : Nat) : Option Char :=
  if n.isValidChar then some (Char.ofNat n) else none

def hexValue? (digits : List Char) : Option Nat :=
  digits.foldlM (fun n c => (Unicode.hexDigit? c).map (n * 16 + ·)) 0

/-- Up to `n` hexadecimal digits, blanks between them not counting. -/
def takeDigits (n : Nat) (k : Cursor) : Option (List Char × Cursor) :=
  match n with
  | 0 => some ([], k)
  | n + 1 =>
    match k.rest with
    | [] => none
    | c :: _ =>
      if (Unicode.hexDigit? c).isSome then do
        let (digits, k) ← takeDigits n (k.past 1)
        return (c :: digits, k)
      else none

/-- Characters up to a closing brace. -/
def takeBraced (fuel : Nat) (k : Cursor) : Option (List Char × Cursor) :=
  match fuel, k.rest with
  | fuel + 1, c :: _ =>
    if c = '\x7d' then some ([], k)
    else do
      let (cs, k) ← takeBraced fuel (k.past 1)
      return (c :: cs, k)
  | _, _ => none

/-- A character by its code: `n` digits, or any number of them in braces.  Tells whether it was
written as a byte. -/
def readCode (n : Nat) (k : Cursor) : Option (Char × Bool × Cursor) :=
  match k.rest with
  | [] => none
  | c :: rest =>
    if c = '\x7b' then do
      let (digits, k) ← takeBraced (rest.length + 1) (k.past 1)
      guard (digits ≠ [])
      let c ← charOf? (← hexValue? digits)
      return (c, false, k.past 1)
    else do
      let (digits, k) ← takeDigits n k
      let c ← charOf? (← hexValue? digits)
      return (c, n == 2, k)

/-! ## Escapes -/

/-- What an escape stands for. -/
inductive Escape where
  | char (c : Char) (byte : Bool)
  | anchor (a : Anchor)
  | escape (negated : Bool) (name : ClassName)
  | property (negated : Bool) (set : CharSet)

/-- The name of a property in braces: alone, or with a value after `=`, `:` or `!=`. -/
def readPropertyName (name : List Char) : Option (Bool × CharSet) :=
  let before (p : Char → Bool) := String.ofList (name.takeWhile (!p ·))
  let after (p : Char → Bool) := String.ofList ((name.dropWhile (!p ·)).drop 1)
  let value (p : Char → Bool) := (propertyValue? (before p) (after p)).map (false, ·)
  match splitAtNotEqual? name with
  | some (left, right) => (propertyValue? (String.ofList left) (String.ofList right)).map (true, ·)
  | none =>
    if name.contains ':' then value (· == ':')
    else if name.contains '=' then value (· == '=')
    else (propertyNamed? (String.ofList name)).map (false, ·)
where
  splitAtNotEqual? : List Char → Option (List Char × List Char)
    | '!' :: '=' :: rest => some ([], rest)
    | c :: rest => (splitAtNotEqual? rest).map fun (left, right) => (c :: left, right)
    | [] => none

/-- A property after `\p` or `\P`. -/
def readProperty (negated : Bool) (k : Cursor) : Option (Escape × Cursor) :=
  match k.rest with
  | [] => none
  | c :: rest =>
    if c = '\x7b' then do
      let (name, k) ← takeBraced (rest.length + 1) (k.past 1)
      let (unequal, set) ← readPropertyName name
      return (.property (negated != unequal) set, k.drop 1)
    else if c = '\\' then none
    else do
      let set ← propertyNamed? c.toString
      return (.property negated set, k.past 1)

/-- The characters of the names of word boundaries. -/
def isBoundaryNameChar (c : Char) : Bool := c.isAlpha || c == '-'

def takeBoundaryName (fuel : Nat) (k : Cursor) : List Char × Cursor :=
  match fuel, k.rest with
  | fuel + 1, c :: _ =>
    if isBoundaryNameChar c then
      let (cs, k) := takeBoundaryName fuel (k.past 1)
      (c :: cs, k)
    else ([], k)
  | _, _ => ([], k)

/-- A word boundary, perhaps with its kind in braces.  A brace that is no name starts a count. -/
def readBoundary (k : Cursor) : Option (Escape × Cursor) :=
  match k.rest with
  | '\x7b' :: rest =>
    let inner := k.past 1
    match inner.rest with
    | [] => none
    | c :: _ =>
      if isBoundaryNameChar c then
        let (name, k) := takeBoundaryName rest.length inner
        match k.rest with
        | '\x7d' :: _ =>
          let found : Option Anchor :=
            if name = "start".toList then some .wordStart
            else if name = "end".toList then some .wordEnd
            else if name = "start-half".toList then some .wordStartHalf
            else if name = "end-half".toList then some .wordEndHalf
            else none
          found.map fun a => (.anchor a, k.drop 1)
        | _ => none
      else some (.anchor .boundary, k)
  | _ => some (.anchor .boundary, k)

/-- The characters with a meaning of their own in patterns. -/
def metaCharacters : List Char :=
  ['\\', '.', '+', '*', '?', '(', ')', '|', '[', ']', '\x7b', '\x7d', '^', '$', '#', '&', '-', '~']

/-- Punctuation and other ASCII characters may be escaped without need. -/
def mayBeEscaped (c : Char) : Bool :=
  metaCharacters.contains c || (c.toNat < 128 && !c.isAlphanum && c != '<' && c != '>')

/-- An escape, at the character after the backslash. -/
def readEscape (k : Cursor) : Option (Escape × Cursor) :=
  match k.rest with
  | [] => none
  | c :: _ =>
    let char (c : Char) := some (Escape.char c false, k.drop 1)
    let anchor (a : Anchor) := some (Escape.anchor a, k.drop 1)
    let cls (negated : Bool) (name : ClassName) := some (Escape.escape negated name, k.drop 1)
    let code (n : Nat) := (readCode n (k.past 1)).map fun (c, byte, k) => (Escape.char c byte, k)
    match c with
    | 'x' => code 2
    | 'u' => code 4
    | 'U' => code 8
    | 'p' => readProperty false (k.past 1)
    | 'P' => readProperty true (k.past 1)
    | 'd' => cls false .digit
    | 'D' => cls true .digit
    | 's' => cls false .blank
    | 'S' => cls true .blank
    | 'w' => cls false .word
    | 'W' => cls true .word
    | 'a' => char '\x07'
    | 'f' => char '\x0c'
    | 't' => char '\t'
    | 'n' => char '\n'
    | 'r' => char '\r'
    | 'v' => char '\x0b'
    | 'A' => anchor .textStart
    | 'z' => anchor .textEnd
    | 'b' => readBoundary (k.drop 1)
    | 'B' => anchor .noBoundary
    | '<' => anchor .wordStart
    | '>' => anchor .wordEnd
    | c => if mayBeEscaped c then char c else none

def Escape.form : Escape → Form
  | .char c byte => .char c byte
  | .anchor a => .anchor a
  | .escape negated name => .escape negated name
  | .property negated set => .property negated set

/-- An escape within brackets, where there is no place to assert anything about. -/
def Escape.setForm? : Escape → Option SetForm
  | .char c byte => some (.char c byte)
  | .anchor _ => none
  | .escape negated name => some (.escape negated name)
  | .property negated set => some (.property negated set)

/-! ## Brackets -/

/-- The named sets of ASCII characters. -/
def asciiSets : List (String × List (Char × Char)) := [
  ("alnum", [('0', '9'), ('A', 'Z'), ('a', 'z')]), ("alpha", [('A', 'Z'), ('a', 'z')]),
  ("ascii", [('\x00', '\x7f')]), ("blank", [('\t', '\t'), (' ', ' ')]),
  ("cntrl", [('\x00', '\x1f'), ('\x7f', '\x7f')]), ("digit", [('0', '9')]), ("graph", [('!', '~')]),
  ("lower", [('a', 'z')]), ("print", [(' ', '~')]),
  ("punct", [('!', '/'), (':', '@'), ('[', '\x60'), ('\x7b', '~')]),
  ("space", [('\t', '\r'), (' ', ' ')]), ("upper", [('A', 'Z')]),
  ("word", [('0', '9'), ('A', 'Z'), ('_', '_'), ('a', 'z')]),
  ("xdigit", [('0', '9'), ('A', 'F'), ('a', 'f')])]

/-- A named set such as `[:alpha:]` or `[:^alpha:]`, at its opening bracket. -/
def readAsciiSet? (k : Cursor) : Option (SetForm × Cursor) :=
  match k.rest with
  | '[' :: ':' :: rest =>
    let (negated, body) := match rest with
      | '^' :: body => (true, body)
      | _ => (false, rest)
    let name := String.ofList (body.takeWhile (· != ':'))
    match body.dropWhile (· != ':') with
    | ':' :: ']' :: rest =>
      (asciiSets.find? (·.1 == name)).map fun row => (.ascii negated row.2, { k with rest := rest })
    | _ => none
  | _ => none

/-- A single member of a bracket. -/
def readMember (k : Cursor) : Option (SetForm × Cursor) :=
  match k.rest with
  | [] => none
  | '\\' :: _ => do
    let (e, k) ← readEscape (k.drop 1)
    return (← e.setForm?, k)
  | c :: _ => some (.char c false, k.drop 1)

/-- A member of a bracket, or a range of characters. -/
def readRange (k : Cursor) : Option (SetForm × Cursor) := do
  let (first, k) ← readMember k
  let k := k.skip
  match k.rest with
  | [] => none
  | '-' :: _ =>
    let next := (k.past 1).rest.head?
    if next = some ']' ∨ next = some '-' then return (first, k)
    else
      guard next.isSome
      let (last, k) ← readMember (k.past 1)
      match first, last with
      | .char a _, .char b _ => if a ≤ b then return (.range a b, k) else none
      | _, _ => none
  | _ => return (first, k)

/-- The union of members, last first. -/
def unionOf : List SetForm → SetForm
  | [] => .empty
  | [s] => s
  | sets => .union sets.reverse

/-- The members read since the last operator, joined to what stands before that operator. -/
def joinLeft (left : Option (SetForm × SetOperator)) (members : List SetForm) : SetForm :=
  match left with
  | none => unionOf members
  | some (a, operator) => .combine operator a (unionOf members)

/-- Hyphens at the start of a bracket stand for themselves. -/
def leadingHyphens (fuel : Nat) (k : Cursor) (members : List SetForm) : List SetForm × Cursor :=
  match fuel, k.rest with
  | fuel + 1, '-' :: _ => leadingHyphens fuel (k.past 1) (.char '-' false :: members)
  | _, _ => (members, k)

/-- The start of a bracket after `[`: a negation, hyphens, or a closing bracket that stands for
itself. -/
def openBracket (k : Cursor) : Bool × List SetForm × Cursor :=
  let (negated, k) := match k.rest with
    | '^' :: _ => (true, k.past 1)
    | _ => (false, k)
  let (members, k) := leadingHyphens k.rest.length k []
  match members, k.rest with
  | [], ']' :: _ => (negated, [.char ']' false], k.past 1)
  | _, _ => (negated, members, k)

/-- The rest of a bracket, after the members read so far and the operand to their left. -/
def readBracket (fuel : Nat) (k : Cursor) (left : Option (SetForm × SetOperator))
    (members : List SetForm) : Option (SetForm × Cursor) :=
  match fuel with
  | 0 => none
  | fuel + 1 =>
    let k := k.skip
    let operation (operator : SetOperator) :=
      readBracket fuel (k.drop 2) (some (joinLeft left members, operator)) []
    match k.rest with
    | [] => none
    | '[' :: _ =>
      match readAsciiSet? k with
      | some (s, k) => readBracket fuel k left (s :: members)
      | none => do
        let (negated, inner, k) := openBracket (k.past 1)
        let (s, k) ← readBracket fuel k none inner
        readBracket fuel k left (.bracket negated s :: members)
    | ']' :: _ => some (joinLeft left members, k.drop 1)
    | '&' :: '&' :: _ => operation .inter
    | '-' :: '-' :: _ => operation .diff
    | '~' :: '~' :: _ => operation .symmDiff
    | _ => do
      let (s, k) ← readRange k
      readBracket fuel k left (s :: members)

/-! ## Groups and repetitions -/

def flagOf? : Char → Option Flag
  | 'i' => some .caseless
  | 'm' => some .multiline
  | 's' => some .dotAll
  | 'U' => some .lazy
  | 'u' => some .unicode
  | 'R' => some .crlf
  | 'x' => some .verbose
  | _ => none

/-- Flags up to a colon or a closing parenthesis, which is left.  No flag is named twice; a minus
sign, of which there is one at most, is not the last. -/
def readFlags (negated : Bool) (change : FlagChange) : List Char → Option (FlagChange × List Char)
  | [] => none
  | c :: rest =>
    if c = ':' ∨ c = ')' then some (change, c :: rest)
    else if c = '-' then
      if negated ∨ rest.head? = some ':' ∨ rest.head? = some ')' then none
      else readFlags true change rest
    else do
      let flag ← flagOf? c
      guard (!(change.map (·.1)).contains flag)
      readFlags negated (change ++ [(flag, !negated)]) rest

/-- What opens a group. -/
inductive Opening where
  /-- Flags for the rest of the group around. -/
  | flags (change : FlagChange)
  /-- A group with flags of its own. -/
  | group (change : FlagChange)

/-- A letter or digit of any script, as `char` groups them. -/
def isNameChar (first : Bool) (c : Char) : Bool :=
  let letter := c == '_' || Unicode.alphabetic.contains c
  letter || (!first && (c == '.' || c == '[' || c == ']'
    || ([.nd, .nl, .no] : List Unicode.Category).any (·.points.contains c)))

/-- The name of a group up to the closing angle bracket; names are not used twice. -/
def readGroupName (k : Cursor) : Option (Opening × Cursor) := do
  let name := k.rest.takeWhile (· != '>')
  let rest := k.rest.dropWhile (· != '>')
  let c ← name.head?
  guard (rest ≠ [] && isNameChar true c && name.all (isNameChar false) && !k.names.contains name)
  return (.group [], { k with rest := rest.drop 1, names := name :: k.names })

/-- What follows an opening parenthesis.  Looking around is not supported. -/
def readOpening (k : Cursor) : Option (Opening × Cursor) :=
  let k := (k.drop 1).skip
  match k.rest with
  | '?' :: 'P' :: '<' :: _ => readGroupName (k.drop 3)
  | '?' :: '=' :: _ | '?' :: '!' :: _ | '?' :: '<' :: '=' :: _ | '?' :: '<' :: '!' :: _ => none
  | '?' :: '<' :: _ => readGroupName (k.drop 2)
  | '?' :: rest => do
    let (change, rest) ← readFlags false [] rest
    let k := { k with rest := rest.drop 1 }
    if rest.head? = some ')' then
      guard (rest.length ≠ 0 && !change.isEmpty)
      return (.flags change, k)
    else return (.group change, k)
  | _ => some (.group [], k)

/-- Whether blanks are skipped after a change of flags. -/
def verboseAfter (verbose : Bool) (change : FlagChange) : Bool :=
  change.foldl (fun v x => if x.1 = .verbose then x.2 else v) verbose

/-- A form can be repeated unless it is empty or only sets flags. -/
def Form.repeatable : Form → Bool
  | .empty | .flags _ => false
  | _ => true

/-- A counted repetition, at its brace: the bounds, and what follows. -/
def readCount (k : Cursor) : Option (Nat × Option Nat × Cursor) := do
  let (least, k) ← readDecimal (k.past 1)
  let bound : Option (Option Nat × Cursor) := match k.rest with
    | ',' :: _ =>
      let k := k.past 1
      match k.rest with
      | '\x7d' :: _ => some (none, k)
      | _ => do
        let (most, k) ← readDecimal k
        return (some most, k)
    | _ => some (some least, k)
  let (most, k) ← bound
  match k.rest with
  | '\x7d' :: _ =>
    guard (most.all (least ≤ ·))
    return (least, most, k.past 1)
  | _ => none

/-- A question mark after a repetition asks for few matches, which changes nothing about whether
there is one. -/
def skipLazy (k : Cursor) : Cursor :=
  match k.rest with
  | '?' :: _ => k.drop 1
  | _ => k

/-- The forms of a sequence, last first. -/
def sequenceOf : List Form → Form
  | [] => .empty
  | [f] => f
  | fs => .sequence fs.reverse

/-- The alternatives before the last one, last first, and the sequence that ends them. -/
def alternativesOf (before : List Form) (items : List Form) : Form :=
  match before with
  | [] => sequenceOf items
  | _ => .alternatives (sequenceOf items :: before).reverse

/-! ## Patterns -/

/-- Reads alternatives up to a closing parenthesis, which is left, or to the end. -/
def readForm (fuel : Nat) (k : Cursor) (before items : List Form) : Option (Form × Cursor) :=
  match fuel with
  | 0 => none
  | fuel + 1 =>
    let k := k.skip
    let next (k : Cursor) (f : Form) := readForm fuel k before (f :: items)
    let repeated (k : Cursor) (least : Nat) (most : Option Nat) :=
      match items with
      | f :: rest =>
        if f.repeatable then readForm fuel (skipLazy k) before (.many f least most :: rest) else none
      | [] => none
    match k.rest with
    | [] => some (alternativesOf before items, k)
    | c :: _ =>
      match c with
      | ')' => some (alternativesOf before items, k)
      | '|' => readForm fuel (k.drop 1) (sequenceOf items :: before) []
      | '(' => do
        match ← readOpening k with
        | (.flags change, k) => next { k with verbose := verboseAfter k.verbose change } (.flags change)
        | (.group change, k) =>
          let (f, inner) ← readForm fuel { k with verbose := verboseAfter k.verbose change } [] []
          guard (inner.rest ≠ [])
          next { inner with rest := inner.rest.drop 1, verbose := k.verbose } (.group change f)
      | '[' => do
        let (negated, members, k) := openBracket (k.past 1)
        let (s, k) ← readBracket fuel k none members
        next k (.bracket negated s)
      | '?' => repeated (k.drop 1) 0 (some 1)
      | '*' => repeated (k.drop 1) 0 none
      | '+' => repeated (k.drop 1) 1 none
      | '\x7b' => do
        let (least, most, k) ← readCount k
        repeated k least most
      | '\\' => do
        let (e, k) ← readEscape (k.drop 1)
        next k e.form
      | '.' => next (k.drop 1) .dot
      | '^' => next (k.drop 1) (.anchor .lineStart)
      | '$' => next (k.drop 1) (.anchor .lineEnd)
      | c => next (k.drop 1) (.char c false)

/-- Reads a whole pattern. -/
def Form.read? (text : String) : Option Form := do
  let cs := text.toList
  let (f, k) ← readForm (cs.length + 1) ⟨cs, false, []⟩ [] []
  guard (k.rest = [] && f.depth ≤ depthLimit)
  return f

/-- The expression of a pattern's text, in which case does not matter unless the text says so. -/
def Expr.read? (text : String) : Option Expr := do
  let (e, _) ← (← Form.read? text).resolve ⟨true, false, false, true, false⟩
  guard (e.size ≤ Expr.sizeLimit)
  return e

end MetricsAgent.Pattern
