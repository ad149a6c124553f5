import MetricsAgent.Yaml.Scalar

/-!
# YAML tokens

A YAML text is a sequence of tokens: indicators, scalars, and the starts and ends of block
collections, which the indentation shows.  That a scalar is the key of a mapping is seen only at the
colon after it, so a `Candidate` keeps the place where its tokens will go.
-/

namespace MetricsAgent.Yaml

inductive Token where
  | version (major minor : Nat)
  | tagHandle (handle meaning : String)
  | documentStart
  | documentEnd
  | blockListStart
  | blockMapStart
  | blockEnd
  | flowListStart
  | flowListEnd
  | flowMapStart
  | flowMapEnd
  | entry
  | comma
  | key
  | value
  | alias (name : String)
  | anchor (name : String)
  | tag (handle suffix : String)
  | scalar (text : String) (style : Style)
  deriving DecidableEq, Repr

/-- A place at which a key may have begun. -/
structure Candidate where
  /-- Whether nothing but a key may stand there. -/
  required : Bool
  /-- How many tokens come before it. -/
  position : Nat
  mark : Mark

/-- How long a key may be. -/
def maxKeyLength : Nat := 1024

/-- A text of which the beginning was split into tokens. -/
structure Scan where
  cursor : Cursor
  tokens : Array Token
  /-- The column of the innermost block collection, or `-1`. -/
  indent : Int
  outerIndents : List Int
  /-- Whether a key may begin here. -/
  keyAllowed : Bool
  candidate : Option Candidate
  /-- The candidates of the collections around each open flow collection. -/
  outerCandidates : List (Option Candidate)

namespace Scan

def ofText (chars : List Char) : Scan :=
  ⟨⟨chars, ⟨0, 0⟩⟩, #[], -1, [], true, none, []⟩

def inFlow (s : Scan) : Bool := !s.outerCandidates.isEmpty

def column (s : Scan) : Int := s.cursor.mark.column

def push (s : Scan) (t : Token) : Scan := { s with tokens := s.tokens.push t }

/-- Passes over an indicator of some characters. -/
def take (s : Scan) (count : Nat) (t : Token) : Scan :=
  { s.push t with cursor := s.cursor.drop count }

/-! ## Gaps -/

/-- Passes over blanks, line ends and comments.  Where a key may begin a tab does not count as a
blank, and a byte order mark may begin a line. -/
def skipGap (inFlow comment keyAllowed : Bool) (m : Mark) : List Char → Bool × Cursor
  | [] => (keyAllowed, ⟨[], m⟩)
  | c :: rest =>
    if isBreak c then skipGap inFlow false (keyAllowed || !inFlow) (m.advance c) rest
    else if comment then skipGap inFlow true keyAllowed (m.advance c) rest
    else if c = '#' then skipGap inFlow true keyAllowed (m.advance c) rest
    else if c = ' ' ∨ (c = '\t' ∧ (inFlow ∨ ¬keyAllowed)) ∨ (c = '\ufeff' ∧ m.column = 0) then
      skipGap inFlow false keyAllowed (m.advance c) rest
    else (keyAllowed, ⟨c :: rest, m⟩)

/-- Moves to the next token. -/
def advance (s : Scan) : Scan :=
  let (keyAllowed, cursor) := skipGap s.inFlow false s.keyAllowed s.cursor.mark s.cursor.rest
  { s with keyAllowed, cursor }

/-! ## Keys -/

/-- Gives up a candidate, unless a key is required there. -/
def giveUp? : Option Candidate → Option Unit
  | some c => if c.required then none else some ()
  | none => some ()

/-- Whether a key that began at a candidate cannot end at a mark: it would be too long. -/
def Candidate.isStale (c : Candidate) (m : Mark) : Bool :=
  c.mark.line < m.line || c.mark.column + maxKeyLength < m.column

def dropStale? (m : Mark) (c : Option Candidate) : Option (Option Candidate) :=
  match c with
  | none => some none
  | some k => if Candidate.isStale k m then (giveUp? c).map fun _ => none else some c

/-- Gives up the candidates whose keys would be too long. -/
def dropAllStale? (s : Scan) : Option Scan := do
  return { s with
    candidate := ← dropStale? s.cursor.mark s.candidate
    outerCandidates := ← s.outerCandidates.mapM (dropStale? s.cursor.mark) }

def removeCandidate? (s : Scan) : Option Scan := do
  giveUp? s.candidate
  return { s with candidate := none }

/-- Notes that a key may begin here. -/
def saveCandidate? (s : Scan) : Option Scan :=
  if s.keyAllowed then do
    giveUp? s.candidate
    let required := !s.inFlow && s.indent == s.column
    return { s with candidate := some ⟨required, s.tokens.size, s.cursor.mark⟩ }
  else some s

/-! ## Indentation -/

/-- Opens a block collection if the column is to the right of the innermost one; its first token
goes to a position. -/
def openBlock (s : Scan) (column : Int) (position : Nat) (t : Token) : Scan :=
  if !s.inFlow ∧ s.indent < column then
    { s with
      indent := column
      outerIndents := s.indent :: s.outerIndents
      tokens := s.tokens.insertIdxIfInBounds position t }
  else s

def closeBlocks (column indent : Int) (tokens : Array Token) :
    List Int → Int × List Int × Array Token
  | [] => (indent, [], tokens)
  | outer :: rest =>
    if column < indent then closeBlocks column outer (tokens.push .blockEnd) rest
    else (indent, outer :: rest, tokens)

/-- Closes the block collections to the right of a column. -/
def closeTo (s : Scan) (column : Int) : Scan :=
  if s.inFlow then s
  else
    let (indent, outerIndents, tokens) := closeBlocks column s.indent s.tokens s.outerIndents
    { s with indent, outerIndents, tokens }

/-! ## Indicators -/

/-- Closes all blocks before a token of a document. -/
def leaveBlocks? (s : Scan) : Option Scan := do
  let s ← (s.closeTo (-1)).removeCandidate?
  return { s with keyAllowed := false }

def documentMark? (s : Scan) (t : Token) : Option Scan := do
  return (← s.leaveBlocks?).take 3 t

def openFlow? (s : Scan) (t : Token) : Option Scan := do
  let s ← s.saveCandidate?
  return { s.take 1 t with
    candidate := none, outerCandidates := s.candidate :: s.outerCandidates, keyAllowed := true }

def closeFlow? (s : Scan) (t : Token) : Option Scan := do
  let s ← s.removeCandidate?
  let s := match s.outerCandidates with
    | c :: outer => { s with candidate := c, outerCandidates := outer }
    | [] => s
  return { s.take 1 t with keyAllowed := false }

def comma? (s : Scan) : Option Scan := do
  return { (← s.removeCandidate?).take 1 .comma with keyAllowed := true }

def entry? (s : Scan) : Option Scan := do
  if !s.inFlow && !s.keyAllowed then none
  let s := s.openBlock s.column s.tokens.size .blockListStart
  return { (← s.removeCandidate?).take 1 .entry with keyAllowed := true }

def key? (s : Scan) : Option Scan := do
  if !s.inFlow && !s.keyAllowed then none
  let s := s.openBlock s.column s.tokens.size .blockMapStart
  return { (← s.removeCandidate?).take 1 .key with keyAllowed := !s.inFlow }

def value? (s : Scan) : Option Scan :=
  match s.candidate with
  | some c =>
    let s := { s with
      tokens := s.tokens.insertIdxIfInBounds c.position .key, candidate := none, keyAllowed := false }
    some ((s.openBlock c.mark.column c.position .blockMapStart).take 1 .value)
  | none =>
    if !s.inFlow && !s.keyAllowed then none
    else
      let s := s.openBlock s.column s.tokens.size .blockMapStart
      some { s.take 1 .value with keyAllowed := !s.inFlow }

/-! ## Anchors and tags -/

/-- The name after the indicator of an anchor or an alias. -/
def name? (c : Cursor) : Option (String × Cursor) :=
  let (name, c) := (c.drop 1).span isWordChar
  if name ≠ [] ∧ (atGap c.rest ∨ atAny "?:,]\x7d%@`" c.rest) then some (String.ofList name, c)
  else none

def named? (s : Scan) (token : String → Token) : Option Scan := do
  let s ← s.saveCandidate?
  let (name, cursor) ← name? s.cursor
  return { s.push (token name) with cursor, keyAllowed := false }

/-- The characters of a tag; some flow indicators are allowed between angle brackets alone. -/
def isTagChar (verbatim : Bool) (c : Char) : Bool :=
  isWordChar c || ";/?:@&=+$.!~*'()%".toList.contains c || (verbatim && ",[]".toList.contains c)

/-- How many bytes a character has that begins with this byte. -/
def sizeOfFirstByte (b : Nat) : Nat :=
  if b < 0x80 then 1
  else if b / 0x20 = 0x06 then 2
  else if b / 0x10 = 0x0E then 3
  else if b / 0x08 = 0x1E then 4
  else 0

/-- Undoes percent signs in a tag, `more` being how many bytes a character still lacks.  Tags are
compared with ASCII texts alone, so other characters are kept as their bytes. -/
def unescapeTag? (more : Nat) : List Char → Option (List Char)
  | '%' :: a :: b :: rest => do
    let byte := 16 * (← Unicode.hexDigit? a) + (← Unicode.hexDigit? b)
    if more = 0 then
      if sizeOfFirstByte byte = 0 then none
      else return Char.ofNat byte :: (← unescapeTag? (sizeOfFirstByte byte - 1) rest)
    else if byte / 0x40 = 0x02 then return Char.ofNat byte :: (← unescapeTag? (more - 1) rest)
    else none
  | '%' :: _ => none
  | [] => if more = 0 then some [] else none
  | c :: rest => if more = 0 then (unescapeTag? 0 rest).map (c :: ·) else none

/-- The rest of a tag after its beginning, which must not be empty as a whole. -/
def tagText? (verbatim : Bool) (beginning : List Char) (c : Cursor) : Option (String × Cursor) := do
  let (text, c) := c.span (isTagChar verbatim)
  if beginning.isEmpty && text.isEmpty then none
  return (String.ofList (beginning.drop 1 ++ (← unescapeTag? 0 text)), c)

/-- A handle: a word between exclamation marks, of which the second may be missing. -/
def tagHandle? (c : Cursor) : Option (List Char × Cursor) :=
  if atAny "!" c.rest then
    let (name, c) := (c.drop 1).span isWordChar
    if atAny "!" c.rest then some ('!' :: name ++ ['!'], c.drop 1) else some ('!' :: name, c)
  else none

/-- A tag: its handle and the text after it. -/
def tag? (c : Cursor) : Option (String × String × Cursor) :=
  match c.rest with
  | '!' :: '<' :: _ => do
    let (text, c) ← tagText? true [] (c.drop 2)
    if atAny ">" c.rest then some ("", text, c.drop 1) else none
  | _ => do
    let (handle, c) ← tagHandle? c
    if 1 < handle.length ∧ handle.getLast? = some '!' then
      let (text, c) ← tagText? false [] c
      return (String.ofList handle, text, c)
    else
      let (text, c) ← tagText? false handle c
      return if text.isEmpty then ("", "!", c) else ("!", text, c)

def tagged? (s : Scan) : Option Scan := do
  let s ← s.saveCandidate?
  let (handle, suffix, cursor) ← tag? s.cursor
  if atGap cursor.rest || (s.inFlow && atAny "," cursor.rest) then
    return { s.push (.tag handle suffix) with cursor, keyAllowed := false }
  else none

/-! ## Directives -/

/-- How many digits a number in a version may have. -/
def maxVersionDigits : Nat := 9

def versionNumber? (c : Cursor) : Option (Nat × Cursor) :=
  let (digits, c) := c.span Char.isDigit
  if digits ≠ [] ∧ digits.length ≤ maxVersionDigits then some (Decimal.digitsValue 0 digits, c)
  else none

def version? (c : Cursor) : Option (Token × Cursor) := do
  let (major, c) ← versionNumber? c.skipBlanks
  if !atAny "." c.rest then none
  let (minor, c) ← versionNumber? (c.drop 1)
  return (.version major minor, c)

def handleMeaning? (c : Cursor) : Option (Token × Cursor) := do
  let (handle, c) ← tagHandle? c.skipBlanks
  if (handle ≠ ['!'] ∧ (handle.length < 2 ∨ handle.getLast? ≠ some '!')) ∨ !atBlank c.rest then none
  let (meaning, c) ← tagText? true [] c.skipBlanks
  if atGap c.rest then some (.tagHandle (String.ofList handle) meaning, c) else none

def directive? (s : Scan) : Option Scan := do
  let s ← s.leaveBlocks?
  let (name, c) := (s.cursor.drop 1).span isWordChar
  if !atGap c.rest then none
  let (t, c) ← match String.ofList name with
    | "YAML" => version? c
    | "TAG" => handleMeaning? c
    | _ => none
  return { s.push t with cursor := ← c.finishLine? }

/-! ## Scalars -/

def quoted? (s : Scan) (read : Mark → List Char → Option Reading) : Option Scan := do
  let s ← s.saveCandidate?
  let c := s.cursor.drop 1
  let r ← read c.mark c.rest
  return { s.push (.scalar (String.ofList r.text) r.style) with cursor := r.after, keyAllowed := false }

def plain? (s : Scan) : Option Scan := do
  let s ← s.saveCandidate?
  let r ← scanPlain s.inFlow (s.indent + 1) [] .empty s.cursor.mark s.cursor.rest
  return { s.push (.scalar (String.ofList r.text) r.style) with
    cursor := r.after, keyAllowed := r.newLine }

def block? (s : Scan) (literal : Bool) : Option Scan := do
  let s ← s.removeCandidate?
  let r ← scanBlock literal s.indent (s.cursor.drop 1)
  return { s.push (.scalar (String.ofList r.text) r.style) with cursor := r.after, keyAllowed := true }

/-- Whether a plain scalar may begin with these characters. -/
def startsPlain (inFlow : Bool) (c : Char) (rest : List Char) : Bool :=
  !(isBlank c || isBreak c || atAny "-?:,[]\x7b\x7d#&*!|>'\"%@`" [c])
    || (c == '-' && !atBlank rest)
    || (!inFlow && atAny "?:" [c] && !atGap rest)

/-! ## All tokens -/

/-- Reads the token that begins with `c`. -/
def step? (s : Scan) (c : Char) (rest : List Char) : Option Scan :=
  if s.column = 0 ∧ c = '%' then s.directive?
  else if s.column = 0 ∧ atDocumentStart (c :: rest) then s.documentMark? .documentStart
  else if s.column = 0 ∧ atDocumentEnd (c :: rest) then s.documentMark? .documentEnd
  else if c = '[' then s.openFlow? .flowListStart
  else if c = '\x7b' then s.openFlow? .flowMapStart
  else if c = ']' then s.closeFlow? .flowListEnd
  else if c = '\x7d' then s.closeFlow? .flowMapEnd
  else if c = ',' then s.comma?
  else if c = '-' ∧ atGap rest then s.entry?
  else if c = '?' ∧ (s.inFlow ∨ atGap rest) then s.key?
  else if c = ':' ∧ (s.inFlow ∨ atGap rest) then s.value?
  else if c = '*' then s.named? .alias
  else if c = '&' then s.named? .anchor
  else if c = '!' then s.tagged?
  else if c = '|' ∧ ¬s.inFlow then s.block? true
  else if c = '>' ∧ ¬s.inFlow then s.block? false
  else if c = '\'' then s.quoted? (scanSingleQuoted [] .empty)
  else if c = '"' then s.quoted? (scanDoubleQuoted 0 [] .empty)
  else if startsPlain s.inFlow c rest then s.plain?
  else none

/-- Reads all tokens.  Every step passes over at least one character, which bounds their number. -/
def run? : Nat → Scan → Option (Array Token)
  | 0, _ => none
  | fuel + 1, s => do
    let s ← s.advance.dropAllStale?
    let s := s.closeTo s.column
    match s.cursor.rest with
    | [] => return (← s.leaveBlocks?).tokens
    | c :: rest => run? fuel (← s.step? c rest)

end Scan

/-- The tokens of a YAML text. -/
def tokens? (text : String) : Option (List Token) := do
  let chars ← characters? text
  return (← (Scan.ofText chars).run? (chars.length + 1)).toList

end MetricsAgent.Yaml
