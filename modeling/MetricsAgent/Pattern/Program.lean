import MetricsAgent.Pattern.Expr

/-!
# Searching for matches

An expression is compiled to a program: instructions that consume a character, test a place, or go on
in two ways.  A search follows all ways at once and keeps the set of instructions that wait for the
next character, so that it takes time in proportion to the text and the program.
-/

namespace MetricsAgent.Pattern

/-- One step of a match.  Targets are places in the program. -/
inductive Instruction where
  /-- Consumes a character of the set. -/
  | one (set : CharSet) (next : Nat)
  | look (test : Look) (next : Nat)
  /-- Goes on both ways. -/
  | fork (a b : Nat)
  /-- The match is complete. -/
  | done

abbrev Program := Array Instruction

/-! ## Compilation -/

/-- `f` applied `n` times. -/
def repeated {α : Type} (f : α → α) : Nat → α → α
  | 0, a => a
  | n + 1, a => repeated f n (f a)

/-- Adds instructions to the program that match `e` and go on at `next`; gives the place where they
start. -/
def Expr.compile (e : Expr) (state : Program × Nat) : Program × Nat :=
  let (code, next) := state
  match e with
  | .blank => (code, next)
  | .one s => (code.push (.one s next), code.size)
  | .look t => (code.push (.look t next), code.size)
  | .cat a b => a.compile (b.compile (code, next))
  | .alt a b =>
    let (code, left) := a.compile (code, next)
    let (code, right) := b.compile (code, next)
    (code.push (.fork left right), code.size)
  | .many e least most =>
    let loop := match most with
      | none =>
        let place := code.size
        let (code, body) := e.compile (code.push .done, place)
        (code.setIfInBounds place (.fork body next), place)
      | some most =>
        repeated (fun state =>
          let (code, body) := e.compile state
          (code.push (.fork body next), code.size)) (most - least) (code, next)
    repeated e.compile least loop

/-- The program of an expression, and where it starts. -/
def Expr.program (e : Expr) : Program × Nat :=
  e.compile (#[.done], 0)

/-! ## Search -/

/-- The instructions that are reached at one place of the text. -/
structure Front where
  seen : Array Bool
  /-- Those that wait for a character, with its set and their target. -/
  waiting : List (CharSet × Nat)
  /-- Whether a match is complete. -/
  complete : Bool

/-- Goes on from the instructions of a list until all that is reached waits for a character.  Each
instruction is followed once. -/
def Program.advance (code : Program) (p : Place) (fuel : Nat) (work : List Nat) (f : Front) : Front :=
  match fuel, work with
  | fuel + 1, pc :: work =>
    if f.seen.getD pc true then code.advance p fuel work f
    else
      let f := { f with seen := f.seen.setIfInBounds pc true }
      match code[pc]? with
      | none => code.advance p fuel work f
      | some (.one s next) => code.advance p fuel work { f with waiting := (s, next) :: f.waiting }
      | some (.look t next) => code.advance p fuel (if t.holds p then next :: work else work) f
      | some (.fork a b) => code.advance p fuel (a :: b :: work) f
      | some .done => code.advance p fuel work { f with complete := true }
  | _, _ => f

/-- What is reached at a place from a list of instructions. -/
def Program.front (code : Program) (p : Place) (work : List Nat) : Front :=
  code.advance p (2 * code.size + work.length + 1) work ⟨Array.replicate code.size false, [], false⟩

/-- Whether a match that starts in the text, or one that waits in `pending`, is completed in it. -/
def Program.search (code : Program) (start : Nat) (before : Option Char) (pending : List Nat) :
    List Char → Bool
  | [] => (code.front ⟨before, none⟩ (start :: pending)).complete
  | c :: rest =>
    let f := code.front ⟨before, some c⟩ (start :: pending)
    let variants := Unicode.caseVariants c
    f.complete
      || code.search start (some c) ((f.waiting.filter (·.1.holds variants c)).map (·.2)) rest

/-- Whether the expression matches somewhere in the text. -/
def Expr.occurs (e : Expr) (text : String) : Bool :=
  let (code, start) := e.program
  code.search start none [] text.toList

end MetricsAgent.Pattern
