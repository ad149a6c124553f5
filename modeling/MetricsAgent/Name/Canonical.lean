import MetricsAgent.Unicode.Case

/-!
# Canonical metric names

Producers name metrics in many ways; the wire knows one.  `canonical` turns a name into lowercase
words that are joined by underscores and grouped by dots.  Names of the virtual machine's own
metrics keep their scheme: only separators of paths and the case change.
-/

namespace MetricsAgent.Name

/-- White space, as Unicode has it. -/
def isBlank (c : Char) : Bool :=
  Unicode.whiteSpace.contains c

def isUpper (c : Char) : Bool := 'A' ≤ c && c ≤ 'Z'

def isLower (c : Char) : Bool := 'a' ≤ c && c ≤ 'z'

/-- The characters that a name keeps: letters, digits, dot and underscore. -/
def isKept (c : Char) : Bool :=
  isUpper c || isLower c || ('0' ≤ c && c ≤ '9') || c == '.' || c == '_'

/-! ## Passes -/

/-- Every maximal run of characters that satisfy `p` becomes one `mark`. -/
def squeeze (p : Char → Bool) (mark : Char) : List Char → List Char
  | [] => []
  | c :: rest =>
    if p c then
      if rest.head?.any p then squeeze p mark rest else mark :: squeeze p mark rest
    else c :: squeeze p mark rest

@[simp] theorem squeeze_nil (p : Char → Bool) (mark : Char) : squeeze p mark [] = [] := rfl

theorem squeeze_cons (p : Char → Bool) (mark c : Char) (rest : List Char) :
    squeeze p mark (c :: rest) =
      if p c then
        if rest.head?.any p then squeeze p mark rest else mark :: squeeze p mark rest
      else c :: squeeze p mark rest := rfl

/-- Drops the blanks that lead up to a comma. -/
def dropBlanksBeforeComma : List Char → List Char
  | [] => []
  | c :: rest =>
    if isBlank c && (rest.dropWhile isBlank).head? == some ',' then dropBlanksBeforeComma rest
    else c :: dropBlanksBeforeComma rest

theorem dropBlanksBeforeComma_cons (c : Char) (rest : List Char) :
    dropBlanksBeforeComma (c :: rest) =
      if isBlank c && (rest.dropWhile isBlank).head? == some ',' then dropBlanksBeforeComma rest
      else c :: dropBlanksBeforeComma rest := rfl

/-- Drops the blanks that follow a comma; `afterComma` tells whether one was just passed. -/
def dropBlanksAfterComma (afterComma : Bool) : List Char → List Char
  | [] => []
  | c :: rest =>
    if afterComma && isBlank c then dropBlanksAfterComma true rest
    else c :: dropBlanksAfterComma (c == ',') rest

theorem dropBlanksAfterComma_cons (afterComma : Bool) (c : Char) (rest : List Char) :
    dropBlanksAfterComma afterComma (c :: rest) =
      if afterComma && isBlank c then dropBlanksAfterComma true rest
      else c :: dropBlanksAfterComma (c == ',') rest := rfl

/-- Slashes of both kinds separate words. -/
def separateSlashes (name : List Char) : List Char :=
  name.map fun c => if c = '\\' ∨ c = '/' then '_' else c

/-- Puts an underscore before each capital that starts a word: one that follows something else than
a capital, or that a small letter follows. -/
def splitWords (previous : Option Char) : List Char → List Char
  | [] => []
  | c :: rest =>
    if isUpper c && previous.any (fun b => !isUpper b || rest.head?.any isLower) then
      '_' :: c :: splitWords (some c) rest
    else c :: splitWords (some c) rest

@[simp] theorem splitWords_nil (previous : Option Char) : splitWords previous [] = [] := rfl

theorem splitWords_cons (previous : Option Char) (c : Char) (rest : List Char) :
    splitWords previous (c :: rest) =
      if isUpper c && previous.any (fun b => !isUpper b || rest.head?.any isLower) then
        '_' :: c :: splitWords (some c) rest
      else c :: splitWords (some c) rest := rfl

/-- A group does not start with an underscore. -/
def dropUnderscoreAfterDot : List Char → List Char
  | '.' :: '_' :: rest => '.' :: dropUnderscoreAfterDot rest
  | c :: rest => c :: dropUnderscoreAfterDot rest
  | [] => []

theorem dropUnderscoreAfterDot_sublist (l : List Char) : (dropUnderscoreAfterDot l).Sublist l := by
  fun_induction dropUnderscoreAfterDot l with
  | case1 rest ih => exact (ih.cons _).cons_cons _
  | case2 c rest _ ih => exact ih.cons_cons _
  | case3 => exact .slnil

/-! ## The canonical name -/

/-- Blanks, separators and all characters that a name does not keep become underscores and dots,
one for each run. -/
def separate (name : List Char) : List Char :=
  let blanksRemoved := dropBlanksAfterComma false (dropBlanksBeforeComma name)
  let words := separateSlashes (squeeze isBlank '_' blanksRemoved)
  squeeze (· == '_') '_' (squeeze (· == '.') '.' (squeeze (!isKept ·) '.' words))

/-- Splits compound words and writes all of them in lowercase. -/
def joinWords (name : List Char) : List Char :=
  (squeeze (· == '_') '_' (dropUnderscoreAfterDot (splitWords none name))).map Char.toLower

/-- How the names of metrics of the virtual machine start. -/
def machineStart : String := "jvm"

/-- The one form of a metric name that goes over the wire. -/
def canonical (name : String) : String :=
  if name.startsWith machineStart then
    Unicode.lowercase (name.map fun c => if c = '-' ∨ c = '/' then '_' else c)
  else String.ofList (joinWords (separate name.toList))

end MetricsAgent.Name
