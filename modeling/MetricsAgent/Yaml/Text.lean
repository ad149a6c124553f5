/-!
# YAML texts

A YAML text holds printable characters only.  Its lines end in one of several ways, most of which
count as a line feed.  A `Cursor` is a place in such a text, with the rest from there on.
-/

namespace MetricsAgent.Yaml

/-- Whether a character may stand in a YAML text. -/
def isPrintable (c : Char) : Bool :=
  let n := c.toNat
  n = 0x09 || n = 0x0A || n = 0x0D || (0x20 ≤ n && n ≤ 0x7E) || n = 0x85
    || (0xA0 ≤ n && n ≤ 0xD7FF) || (0xE000 ≤ n && n ≤ 0xFFFD) || 0x10000 ≤ n

/-- Writes each end of a line that counts as a line feed as one. -/
def foldLineEnds : List Char → List Char
  | '\r' :: '\n' :: rest => '\n' :: foldLineEnds rest
  | '\r' :: rest => '\n' :: foldLineEnds rest
  | '\u0085' :: rest => '\n' :: foldLineEnds rest
  | c :: rest => c :: foldLineEnds rest
  | [] => []

/-- The characters to read in a text, if all of them are printable. -/
def characters? (text : String) : Option (List Char) :=
  if text.toList.all isPrintable then some (foldLineEnds text.toList) else none

/-! ## Classes of characters -/

/-- The ends of lines; two of them are kept when lines are joined. -/
def isBreak (c : Char) : Bool :=
  c == '\n' || c == '\u2028' || c == '\u2029'

def isBlank (c : Char) : Bool :=
  c == ' ' || c == '\t'

/-- The characters of the names of anchors, directives and tag handles. -/
def isWordChar (c : Char) : Bool :=
  c.isAlphanum || c == '_' || c == '-'

/-- Whether a blank, a line end or the end of the text comes next. -/
def atGap : List Char → Bool
  | [] => true
  | c :: _ => isBlank c || isBreak c

/-- Whether the line ends here. -/
def atLineEnd : List Char → Bool
  | [] => true
  | c :: _ => isBreak c

def atBlank : List Char → Bool
  | [] => false
  | c :: _ => isBlank c

/-- Whether one of these characters comes next. -/
def atAny (chars : String) : List Char → Bool
  | [] => false
  | c :: _ => chars.toList.contains c

/-- The line that separates documents. -/
def atDocumentStart : List Char → Bool
  | '-' :: '-' :: '-' :: rest => atGap rest
  | _ => false

/-- The line that ends a document. -/
def atDocumentEnd : List Char → Bool
  | '.' :: '.' :: '.' :: rest => atGap rest
  | _ => false

/-! ## Places -/

structure Mark where
  line : Nat
  column : Nat
  deriving DecidableEq, Repr

/-- The place after a character. -/
def Mark.advance (m : Mark) (c : Char) : Mark :=
  if isBreak c then ⟨m.line + 1, 0⟩ else ⟨m.line, m.column + 1⟩

structure Cursor where
  rest : List Char
  mark : Mark

namespace Cursor

/-- Passes over a number of characters. -/
def drop : Nat → Cursor → Cursor
  | n + 1, ⟨c :: rest, m⟩ => drop n ⟨rest, m.advance c⟩
  | _, c => c

/-- Takes the characters that satisfy a condition. -/
def span (p : Char → Bool) (c : Cursor) : List Char × Cursor :=
  let taken := c.rest.takeWhile p
  (taken, c.drop taken.length)

def skipBlanks (c : Cursor) : Cursor :=
  (c.span isBlank).2

/-- Passes over blanks, a comment and the end of the line; nothing else may follow. -/
def finishLine? (c : Cursor) : Option Cursor :=
  let c := c.skipBlanks
  let c := if atAny "#" c.rest then (c.span (fun d => !isBreak d)).2 else c
  if atLineEnd c.rest then some (c.drop 1) else none

end Cursor

end MetricsAgent.Yaml
