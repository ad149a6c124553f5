import MetricsAgent.Pattern.Expr

/-!
# Patterns as written

`Form` is the tree of a pattern's text.  Flags take effect where they stand until the end of their
group, so a form is turned into an expression from left to right, with the flags in force carried
along; a few forms that could match half a character are refused on the way.
-/

namespace MetricsAgent.Pattern

/-! ## Forms -/

inductive Flag where
  | caseless | multiline | dotAll | lazy | unicode | crlf | verbose
  deriving DecidableEq, Repr

/-- Flags in the order written, each switched on or off. -/
abbrev FlagChange := List (Flag × Bool)

/-- The classes with an escape of their own. -/
inductive ClassName where
  | digit | blank | word
  deriving DecidableEq, Repr

/-- The kinds of assertions, before flags say what a line or a word is. -/
inductive Anchor where
  | lineStart | lineEnd | textStart | textEnd
  | boundary | noBoundary | wordStart | wordEnd | wordStartHalf | wordEndHalf
  deriving DecidableEq, Repr

/-- How two sets of a bracket are combined. -/
inductive SetOperator where
  | inter | diff | symmDiff
  deriving DecidableEq, Repr

/-- The contents of a bracket. -/
inductive SetForm where
  | empty
  /-- A character; `byte` if it was written as a two digit code. -/
  | char (c : Char) (byte : Bool)
  | range (first last : Char)
  /-- A set over ASCII that has a name, as in `[:alpha:]`. -/
  | ascii (negated : Bool) (ranges : List (Char × Char))
  | escape (negated : Bool) (name : ClassName)
  | property (negated : Bool) (set : CharSet)
  | bracket (negated : Bool) (set : SetForm)
  | union (sets : List SetForm)
  | combine (operator : SetOperator) (a b : SetForm)

/-- The tree of a pattern's text. -/
inductive Form where
  | empty
  | flags (change : FlagChange)
  | char (c : Char) (byte : Bool)
  | dot
  | anchor (a : Anchor)
  | escape (negated : Bool) (name : ClassName)
  | property (negated : Bool) (set : CharSet)
  | bracket (negated : Bool) (set : SetForm)
  | many (f : Form) (least : Nat) (most : Option Nat)
  | group (change : FlagChange) (f : Form)
  | alternatives (forms : List Form)
  | sequence (forms : List Form)

/-! ## Depth -/

mutual
/-- How deep brackets and operations on sets are nested. -/
def SetForm.depth : SetForm → Nat
  | .bracket _ s => s.depth + 1
  | .union sets => SetForm.depthAll sets + 1
  | .combine _ a b => max a.depth b.depth + 1
  | _ => 0

def SetForm.depthAll : List SetForm → Nat
  | [] => 0
  | s :: rest => max s.depth (SetForm.depthAll rest)
end

mutual
/-- How deep a pattern is nested. -/
def Form.depth : Form → Nat
  | .bracket _ s => s.depth + 1
  | .many f _ _ | .group _ f => f.depth + 1
  | .alternatives fs | .sequence fs => Form.depthAll fs + 1
  | _ => 0

def Form.depthAll : List Form → Nat
  | [] => 0
  | f :: rest => max f.depth (Form.depthAll rest)
end

/-- The deepest nesting that is accepted. -/
def depthLimit : Nat := 250

/-! ## Flags in force -/

/-- The flags that bear on what a form matches. -/
structure Flags where
  caseless : Bool
  multiline : Bool
  dotAll : Bool
  unicode : Bool
  crlf : Bool
  deriving DecidableEq, Repr

def Flags.set (f : Flags) : Flag × Bool → Flags
  | (.caseless, b) => { f with caseless := b }
  | (.multiline, b) => { f with multiline := b }
  | (.dotAll, b) => { f with dotAll := b }
  | (.unicode, b) => { f with unicode := b }
  | (.crlf, b) => { f with crlf := b }
  | (.lazy, _) | (.verbose, _) => f

def Flags.change (f : Flags) (changes : FlagChange) : Flags :=
  changes.foldl Flags.set f

/-! ## Character sets -/

/-- The set with the case variants of its members, if case is not to matter. -/
def Flags.fold (f : Flags) (s : CharSet) : CharSet :=
  if f.caseless then .caseless (!f.unicode) s else s

def negateIf (negated : Bool) (s : CharSet) : CharSet :=
  if negated then .compl s else s

/-- The members of a named class. -/
def ClassName.set (unicode : Bool) : ClassName → CharSet
  | .digit => if unicode then .category .nd else .range 48 57
  | .blank => if unicode then .property .whiteSpace else .union (.range 9 13) (.range 32 32)
  | .word =>
    if unicode then .property .word
    else .ofList [.range 48 57, .range 65 90, .range 95 95, .range 97 122]

/-- Without Unicode a set may hold ASCII characters only: others would be matched byte by byte, as
would be the complement of a set. -/
def Flags.allows (f : Flags) (negated : Bool) (largest : Char) : Bool :=
  f.unicode || (!negated && largest.toNat < 128)

mutual
def SetForm.resolve (f : Flags) : SetForm → Option CharSet
  | .empty => some .empty
  | .char c _ => if f.allows false c then some (.single c) else none
  | .range a b => if f.allows false b then some (.range a.toNat b.toNat) else none
  | .ascii negated ranges =>
    if f.allows negated 'a' then
      some (negateIf negated (f.fold (.ofList (ranges.map fun r => .range r.1.toNat r.2.toNat))))
    else none
  | .escape negated name =>
    if f.allows negated 'a' then some (negateIf negated (name.set f.unicode)) else none
  | .property negated s => if f.unicode then some (negateIf negated (f.fold s)) else none
  | .bracket negated s =>
    if f.allows negated 'a' then do
      return negateIf negated (f.fold (← s.resolve f))
    else none
  | .union sets => do return .ofList (← SetForm.resolveAll f sets)
  | .combine operator a b => do
    let s := f.fold (← a.resolve f)
    let t := f.fold (← b.resolve f)
    return match operator with
      | .inter => .inter s t
      | .diff => .diff s t
      | .symmDiff => .symmDiff s t

def SetForm.resolveAll (f : Flags) : List SetForm → Option (List CharSet)
  | [] => some []
  | s :: rest => do return (← s.resolve f) :: (← SetForm.resolveAll f rest)
end

/-! ## Expressions -/

def Anchor.look (f : Flags) : Anchor → Look
  | .lineStart => if f.multiline then .lineStart f.crlf else .textStart
  | .lineEnd => if f.multiline then .lineEnd f.crlf else .textEnd
  | .textStart => .textStart
  | .textEnd => .textEnd
  | .boundary => .boundary (!f.unicode)
  | .noBoundary => .noBoundary (!f.unicode)
  | .wordStart => .wordStart (!f.unicode)
  | .wordEnd => .wordEnd (!f.unicode)
  | .wordStartHalf => .wordStartHalf (!f.unicode)
  | .wordEndHalf => .wordEndHalf (!f.unicode)

/-- The characters that a dot matches: not those that end lines, unless asked for. -/
def Flags.dot (f : Flags) : CharSet :=
  if f.dotAll then .property .any
  else if f.crlf then .compl (.union (.single '\n') (.single '\r'))
  else .compl (.single '\n')

mutual
/-- The expression of a form under the flags in force, and the flags in force after it. -/
def Form.resolve (f : Flags) : Form → Option (Expr × Flags)
  | .empty => some (.blank, f)
  | .flags change => some (.blank, f.change change)
  | .char c byte =>
    if !f.unicode && byte && 127 < c.toNat then none else some (.one (f.fold (.single c)), f)
  | .dot => if f.unicode then some (.one f.dot, f) else none
  | .anchor a => some (.look (a.look f), f)
  | .escape negated name =>
    if f.allows negated 'a' then some (.one (negateIf negated (name.set f.unicode)), f) else none
  | .property negated s => if f.unicode then some (.one (negateIf negated (f.fold s)), f) else none
  | .bracket negated s => do
    let set ← (SetForm.bracket negated s).resolve f
    return (.one set, f)
  | .many e least most => do
    let (e, f) ← e.resolve f
    return (.many e least most, f)
  | .group change e => do
    let (e, _) ← e.resolve (f.change change)
    return (e, f)
  | .alternatives forms => Form.resolveEach f forms
  | .sequence forms => Form.resolveAll f forms

/-- The forms one after the other. -/
def Form.resolveAll (f : Flags) : List Form → Option (Expr × Flags)
  | [] => some (.blank, f)
  | e :: rest => do
    let (a, f) ← e.resolve f
    let (b, f) ← Form.resolveAll f rest
    return (a.andThen b, f)

/-- The forms as alternatives; the flags that one sets hold for those after it. -/
def Form.resolveEach (f : Flags) : List Form → Option (Expr × Flags)
  | [] => some (.one .empty, f)
  | e :: rest => do
    let (a, f) ← e.resolve f
    let (b, f) ← Form.resolveEach f rest
    return (.alt a b, f)
end

end MetricsAgent.Pattern
