import MetricsAgent.Decimal.Reading
import MetricsAgent.Unicode.CodePoints
import MetricsAgent.Yaml.Text

/-!
# YAML scalars

A scalar is a text, written plain, between quotes or as an indented block.  Lines of the first two
are folded: one line end between words becomes a blank, further ones are kept.
-/

namespace MetricsAgent.Yaml

inductive Style where
  | plain | singleQuoted | doubleQuoted | literal | folded
  deriving DecidableEq, Repr

/-! ## Folding -/

/-- What was passed over since the last word. -/
inductive Gap where
  | blanks (chars : List Char)
  /-- The first line end, unless it was escaped, and the later ones. -/
  | breaks (first : Option Char) (later : List Char)

namespace Gap

def empty : Gap := .blanks []

def isEmpty : Gap → Bool
  | .blanks [] => true
  | _ => false

/-- Whether a new line has begun. -/
def isBroken : Gap → Bool
  | .blanks _ => false
  | .breaks _ _ => true

/-- Blanks after a line end do not count. -/
def add (g : Gap) (c : Char) : Gap :=
  match g, isBreak c with
  | .blanks chars, false => .blanks (chars ++ [c])
  | .blanks _, true => .breaks (some c) []
  | .breaks first later, true => .breaks first (later ++ [c])
  | .breaks first later, false => .breaks first later

/-- What stands for the gap between two words. -/
def fold : Gap → List Char
  | .blanks chars => chars
  | .breaks (some '\n') [] => [' ']
  | .breaks (some '\n') later => later
  | .breaks first later => first.toList ++ later

end Gap

/-- A text in reverse that goes on after a gap. -/
def Gap.joinTo (g : Gap) (acc : List Char) : List Char :=
  g.fold.reverse ++ acc

/-- A scalar that was read, the place after it, and whether that place is on a new line. -/
structure Reading where
  text : List Char
  style : Style
  after : Cursor
  newLine : Bool

/-! ## Plain scalars -/

/-- Reads a plain scalar, of which `acc` was read, in reverse.  In a flow collection brackets and
commas end it; outside, lines that are indented less than `indent` do. -/
def scanPlain (inFlow : Bool) (indent : Int) (acc : List Char) (gap : Gap) (m : Mark) :
    List Char → Option Reading
  | [] => some ⟨acc.reverse, .plain, ⟨[], m⟩, gap.isBroken⟩
  | c :: rest =>
    let stop := some ⟨acc.reverse, .plain, ⟨c :: rest, m⟩, gap.isBroken⟩
    if isBlank c ∨ isBreak c then
      if c = '\t' ∧ gap.isBroken ∧ (m.column : Int) < indent then none
      else scanPlain inFlow indent acc (gap.add c) (m.advance c) rest
    else if ¬gap.isEmpty ∧ (c = '#' ∨ (¬inFlow ∧ (m.column : Int) < indent)) then stop
    else if m.column = 0 ∧ (atDocumentStart (c :: rest) ∨ atDocumentEnd (c :: rest)) then stop
    else if inFlow ∧ c = ':' ∧ atAny ",?[]\x7b\x7d" rest then none
    else if (c = ':' ∧ atGap rest) ∨ (inFlow ∧ atAny ",[]\x7b\x7d" [c]) then stop
    else scanPlain inFlow indent (c :: gap.joinTo acc) .empty (m.advance c) rest

/-! ## Quoted scalars -/

/-- Whether a line that separates documents comes next, which must not stand between quotes. -/
def atSeparator (m : Mark) (rest : List Char) : Bool :=
  m.column = 0 && (atDocumentStart rest || atDocumentEnd rest)

/-- Reads the text after a single quote up to the next one; two in a row stand for one. -/
def scanSingleQuoted (acc : List Char) (gap : Gap) (m : Mark) : List Char → Option Reading
  | [] => none
  | '\'' :: '\'' :: rest =>
    scanSingleQuoted ('\'' :: gap.joinTo acc) .empty ((m.advance '\'').advance '\'') rest
  | c :: rest =>
    if isBlank c ∨ isBreak c then scanSingleQuoted acc (gap.add c) (m.advance c) rest
    else if atSeparator m (c :: rest) then none
    else if c = '\'' then some ⟨(gap.joinTo acc).reverse, .singleQuoted, ⟨rest, m.advance c⟩, false⟩
    else scanSingleQuoted (c :: gap.joinTo acc) .empty (m.advance c) rest

/-- The character with a number. -/
def charOfNat? (n : Nat) : Option Char :=
  if n.isValidChar then some (Char.ofNat n) else none

/-- The character that a number of hexadecimal digits denotes. -/
def hexChar? (count : Nat) (rest : List Char) : Option Char := do
  let digits ← (rest.take count).mapM Unicode.hexDigit?
  if digits.length = count then charOfNat? (digits.foldl (fun n d => n * 16 + d) 0) else none

/-- The character that is escaped after a backslash, and the length of the escape. -/
def escape? : List Char → Option (Char × Nat)
  | [] => none
  | c :: rest =>
    match c with
    | '0' => some ('\x00', 1)
    | 'a' => some ('\x07', 1)
    | 'b' => some ('\x08', 1)
    | 't' | '\t' => some ('\t', 1)
    | 'n' => some ('\n', 1)
    | 'v' => some ('\x0b', 1)
    | 'f' => some ('\x0c', 1)
    | 'r' => some ('\r', 1)
    | 'e' => some ('\x1b', 1)
    | ' ' | '"' | '/' | '\\' => some (c, 1)
    | 'N' => some ('\u0085', 1)
    | '_' => some ('\u00a0', 1)
    | 'L' => some ('\u2028', 1)
    | 'P' => some ('\u2029', 1)
    | 'x' => (hexChar? 2 rest).map (·, 3)
    | 'u' => (hexChar? 4 rest).map (·, 5)
    | 'U' => (hexChar? 8 rest).map (·, 9)
    | _ => none

/-- Reads the text after a double quote up to the next one, passing over the first characters,
which belong to an escape that was understood. -/
def scanDoubleQuoted (skip : Nat) (acc : List Char) (gap : Gap) (m : Mark) :
    List Char → Option Reading
  | [] => none
  | c :: rest =>
    match skip with
    | skip + 1 => scanDoubleQuoted skip acc gap (m.advance c) rest
    | 0 =>
      if isBlank c ∨ isBreak c then scanDoubleQuoted 0 acc (gap.add c) (m.advance c) rest
      else if atSeparator m (c :: rest) then none
      else if c = '"' then some ⟨(gap.joinTo acc).reverse, .doubleQuoted, ⟨rest, m.advance c⟩, false⟩
      else if c = '\\' then
        if rest ≠ [] ∧ atLineEnd rest then
          scanDoubleQuoted 1 (gap.joinTo acc) (.breaks none []) (m.advance c) rest
        else
          match escape? rest with
          | none => none
          | some (d, n) => scanDoubleQuoted n (d :: gap.joinTo acc) .empty (m.advance c) rest
      else scanDoubleQuoted 0 (c :: gap.joinTo acc) .empty (m.advance c) rest

/-! ## Block scalars -/

/-- What becomes of the line ends at the end of a block. -/
inductive Chomping where
  | strip | clip | keep
  deriving DecidableEq, Repr

/-- Passes over empty lines and indentation.  An `indent` of zero is not yet known; the widest
indentation is returned. -/
def scanMargin (indent widest : Nat) (breaks : List Char) (m : Mark) :
    List Char → Option (Nat × List Char × Cursor)
  | [] => some (max widest m.column, breaks, ⟨[], m⟩)
  | c :: rest =>
    let inMargin := indent = 0 ∨ m.column < indent
    if c = ' ' ∧ inMargin then scanMargin indent widest breaks (m.advance c) rest
    else if c = '\t' ∧ inMargin then none
    else if isBreak c then
      scanMargin indent (max widest m.column) (breaks ++ [c]) (m.advance c) rest
    else some (max widest m.column, breaks, ⟨c :: rest, m⟩)

/-- The lines of a block that were read. -/
structure BlockLines where
  /-- In reverse. -/
  text : List Char
  /-- The end of the last line that is not empty. -/
  lineEnd : Option Char
  /-- The empty lines after it. -/
  emptyLines : List Char
  /-- Whether that line begins with a blank. -/
  indented : Bool

/-- Adds the line ends before a line that begins with `c`, and that character. -/
def BlockLines.startLine (literal : Bool) (b : BlockLines) (c : Char) : BlockLines :=
  let joined :=
    if ¬literal ∧ b.lineEnd = some '\n' ∧ ¬b.indented ∧ ¬isBlank c then
      if b.emptyLines = [] then [' '] else b.emptyLines
    else b.lineEnd.toList ++ b.emptyLines
  ⟨c :: (joined.reverse ++ b.text), none, [], isBlank c⟩

/-- Reads the lines of a block. -/
def scanLines (literal : Bool) (indent : Nat) (inLine : Bool) (b : BlockLines) (m : Mark) :
    List Char → Option (BlockLines × Cursor)
  | [] => some (b, ⟨[], m⟩)
  | c :: rest =>
    if inLine then
      if isBreak c then
        scanLines literal indent false { b with lineEnd := some c } (m.advance c) rest
      else scanLines literal indent true { b with text := c :: b.text } (m.advance c) rest
    else if c = ' ' ∧ m.column < indent then scanLines literal indent false b (m.advance c) rest
    else if c = '\t' ∧ m.column < indent then none
    else if isBreak c then
      scanLines literal indent false { b with emptyLines := b.emptyLines ++ [c] } (m.advance c) rest
    else if m.column = indent then
      scanLines literal indent true (b.startLine literal c) (m.advance c) rest
    else some (b, ⟨c :: rest, m⟩)

/-- The text of a block after chomping. -/
def BlockLines.chomp (b : BlockLines) : Chomping → List Char
  | .strip => b.text.reverse
  | .clip => b.text.reverse ++ b.lineEnd.toList
  | .keep => b.text.reverse ++ b.lineEnd.toList ++ b.emptyLines

/-- An indentation indicator: a digit other than zero. -/
def indentation? (c : Char) : Option Nat :=
  if c.isDigit ∧ c ≠ '0' then some (c.toNat - '0'.toNat) else none

def chomping? (c : Char) : Option Chomping :=
  if c = '+' then some .keep else if c = '-' then some .strip else none

/-- The indicators after the one that begins a block, in either order. -/
def scanHeader (c : Cursor) : Chomping × Nat × Cursor :=
  match c.rest with
  | a :: b :: _ =>
    match chomping? a, indentation? b, indentation? a, chomping? b with
    | some k, some n, _, _ => (k, n, c.drop 2)
    | some k, none, _, _ => (k, 0, c.drop 1)
    | none, _, some n, some k => (k, n, c.drop 2)
    | none, _, some n, none => (.clip, n, c.drop 1)
    | none, _, none, _ => (.clip, 0, c)
  | [a] =>
    match chomping? a, indentation? a with
    | some k, _ => (k, 0, c.drop 1)
    | none, some n => (.clip, n, c.drop 1)
    | none, none => (.clip, 0, c)
  | [] => (.clip, 0, c)

/-- Reads a block scalar after the character that begins it, inside a collection that is indented
by `outer`. -/
def scanBlock (literal : Bool) (outer : Int) (c : Cursor) : Option Reading := do
  let (chomping, increment, c) := scanHeader c
  let c ← c.finishLine?
  let given := if increment = 0 then 0 else outer.toNat + increment
  let (widest, breaks, c) ← scanMargin given 0 [] c.mark c.rest
  let indent := if given = 0 then max widest (max (outer + 1).toNat 1) else given
  let (lines, c) ← scanLines literal indent false ⟨[], none, breaks, false⟩ c.mark c.rest
  return ⟨lines.chomp chomping, if literal then .literal else .folded, c, true⟩

end MetricsAgent.Yaml
