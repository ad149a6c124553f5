import MetricsAgent.Pattern.Program
import MetricsAgent.Pattern.Reader

/-!
# Patterns

A pattern is a text that reads as an expression, together with that expression.  Two patterns are
equal as soon as their texts are.
-/

namespace MetricsAgent

/-- A text that reads as a pattern. -/
structure Pattern where
  source : String
  expr : Pattern.Expr
  read_source : Pattern.Expr.read? source = some expr

namespace Pattern

theorem ext_source {p q : Pattern} (h : p.source = q.source) : p = q := by
  obtain ⟨s, e, he⟩ := p
  obtain ⟨t, f, hf⟩ := q
  subst h
  have : e = f := Option.some.inj (he.symm.trans hf)
  subst this
  rfl

instance : DecidableEq Pattern := fun p q =>
  if h : p.source = q.source then isTrue (ext_source h) else isFalse fun e => h (e ▸ rfl)

/-- The pattern of a text. -/
def ofText? (source : String) : Option Pattern :=
  match h : Expr.read? source with
  | some expr => some ⟨source, expr, h⟩
  | none => none

theorem ofText?_source (p : Pattern) : ofText? p.source = some p := by
  unfold ofText?
  split
  · next e h => exact congrArg some (ext_source rfl)
  · next h => simp [p.read_source] at h

theorem source_of_ofText? {source : String} {p : Pattern} (h : ofText? source = some p) :
    p.source = source := by
  unfold ofText? at h
  split at h
  · injection h with h
    subst h
    rfl
  · simp at h

/-- Whether the pattern matches somewhere in the text. -/
def occursIn (p : Pattern) (text : String) : Bool :=
  p.expr.occurs text

/-- The pattern that matches everything. -/
def everything : Pattern where
  source := ".*"
  expr := .many (.one (.compl (.range 10 10))) 0 none
  read_source := by decide +kernel

end Pattern

end MetricsAgent
