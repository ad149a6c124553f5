import MetricsAgent.Pattern.CharSet

/-!
# Pattern expressions and their matches

`Expr` is a pattern with all flags resolved.  `Matches` says which stretches of a text an expression
matches, given the characters around them.
-/

namespace MetricsAgent.Pattern

/-- What an assertion tests at a place of the text. -/
inductive Look where
  | textStart | textEnd
  /-- The start of a line; lines end with a line feed, or if `crlf` also with a carriage return. -/
  | lineStart (crlf : Bool)
  | lineEnd (crlf : Bool)
  /-- Tests of the word characters on both sides, of which there are more than the ASCII ones
  unless `ascii`. -/
  | boundary (ascii : Bool) | noBoundary (ascii : Bool)
  | wordStart (ascii : Bool) | wordEnd (ascii : Bool)
  | wordStartHalf (ascii : Bool) | wordEndHalf (ascii : Bool)
  deriving DecidableEq, Repr

/-- A place in a text: the characters on its two sides. -/
structure Place where
  before : Option Char
  after : Option Char

def isAsciiWord (c : Char) : Bool :=
  c.isAlphanum || c == '_'

def isWord (ascii : Bool) (side : Option Char) : Bool :=
  side.any fun c => if ascii then isAsciiWord c else Property.word.holds c

def Look.holds (p : Place) : Look → Bool
  | .textStart => p.before.isNone
  | .textEnd => p.after.isNone
  | .lineStart crlf =>
    p.before.isNone || p.before == some '\n'
      || (crlf && p.before == some '\r' && p.after != some '\n')
  | .lineEnd crlf =>
    if crlf then
      p.after.isNone || p.after == some '\r' || (p.after == some '\n' && p.before != some '\r')
    else p.after.isNone || p.after == some '\n'
  | .boundary ascii => isWord ascii p.before != isWord ascii p.after
  | .noBoundary ascii => isWord ascii p.before == isWord ascii p.after
  | .wordStart ascii => !isWord ascii p.before && isWord ascii p.after
  | .wordEnd ascii => isWord ascii p.before && !isWord ascii p.after
  | .wordStartHalf ascii => !isWord ascii p.before
  | .wordEndHalf ascii => !isWord ascii p.after

/-- A pattern. -/
inductive Expr where
  | blank
  | one (set : CharSet)
  | look (test : Look)
  | cat (a b : Expr)
  | alt (a b : Expr)
  /-- At least `least` and, if there is a bound, at most `most` matches in a row. -/
  | many (e : Expr) (least : Nat) (most : Option Nat)
  deriving DecidableEq, Repr

/-! ## Matches -/

/-- `Matches e before text after`: the expression matches `text` where the characters `before`, last
first, precede it and `after` follow. -/
inductive Matches : Expr → List Char → List Char → List Char → Prop where
  | blank {l r} : Matches .blank l [] r
  | one {s c l r} : s.contains c = true → Matches (.one s) l [c] r
  | look {t l r} : t.holds ⟨l.head?, r.head?⟩ = true → Matches (.look t) l [] r
  | cat {a b l x y r} : Matches a l x (y ++ r) → Matches b (x.reverse ++ l) y r →
      Matches (.cat a b) l (x ++ y) r
  | left {a b l x r} : Matches a l x r → Matches (.alt a b) l x r
  | right {a b l x r} : Matches b l x r → Matches (.alt a b) l x r
  | done {e most l r} : Matches (.many e 0 most) l [] r
  | more {e least most l x y r} : most ≠ some 0 → Matches e l x (y ++ r) →
      Matches (.many e (least - 1) (most.map (· - 1))) (x.reverse ++ l) y r →
      Matches (.many e least most) l (x ++ y) r

namespace Expr

/-- `a` and then `b`, without a needless blank. -/
def andThen : Expr → Expr → Expr
  | .blank, b => b
  | a, b => .cat a b

/-! ## Size -/

/-- The limit on `size`: ten mebibytes of compiled states. -/
def sizeLimit : Nat := 10 * Nat.pow 2 20

/-- What the states of a character set weigh, by its ranges. -/
def setSize : CharSet → Nat
  | .range first last => if last < 128 then 32 else 160 + 8 * (last - first).log2
  | .property .word => 20000
  | .property _ => 10000
  | .category _ => 5000
  | .script _ => 500
  | .union s t | .inter s t => setSize s + setSize t
  | .compl s => 400 + setSize s
  | .caseless _ (.range first last) =>
    let extra := (Unicode.caseVariants (Char.ofNat first)).any (127 < ·.toNat)
    if 127 < last || extra then 168 else 48
  | .caseless _ s => setSize s

/-- What the states that an expression compiles to weigh, in bytes.  A bounded repetition is
compiled as often as it may occur. -/
def size : Expr → Nat
  | .blank => 32
  | .one s => setSize s
  | .look _ => 32
  | .cat a b => a.size + b.size
  | .alt a b => a.size + b.size + 48
  | .many e least most => (most.getD (least + 1)) * (e.size + 8) + 40

end Expr

end MetricsAgent.Pattern
