import MetricsAgent.Rule.Basic
import MetricsAgent.Name.Canonical

/-!
# The rule that governs a name

Of the rules that match a name, one governs it: a deny rule before an allow rule, then a global one
before a restricted one, then a later one before an earlier one.  A name has two forms, as reported
and canonical; each form has its verdict, and `reconcile` chooses between them.

Everything is stated for an arbitrary way in which rules match names.
-/

namespace MetricsAgent

/-- Which rule matches which name. -/
abbrev Matching := Rule → String → Bool

/-- The rule that governs a name, with its place in the list of rules.  The canonical rules have
none. -/
structure Verdict where
  rule : Rule
  index : Option Nat
  deriving DecidableEq

namespace Verdict

def isAllowed (v : Verdict) : Bool := v.rule.isAllow

def channel (v : Verdict) : Channel := v.rule.channel

end Verdict

namespace Rule

/-- Whether a match of `r` replaces an earlier match. -/
def replaces (r earlier : Rule) : Bool :=
  r.isGlobal || !earlier.isGlobal

/-- The rule to prefer after `r`, at the place `index`, was looked at. -/
def prefer (fires : Rule → Bool) (policy : Policy) (best : Option (Rule × Nat)) (r : Rule)
    (index : Nat) : Option (Rule × Nat) :=
  if r.policy = policy ∧ fires r then
    match best with
    | none => some (r, index)
    | some (earlier, i) => if r.replaces earlier then some (r, index) else some (earlier, i)
  else best

/-- The rule of one policy that is preferred among those that fire, with its place. -/
def best (fires : Rule → Bool) (policy : Policy) (rules : List Rule) : Option (Rule × Nat) :=
  rules.zipIdx.foldl (fun b x => prefer fires policy b x.1 x.2) none

/-- What holds for names that no rule matches: all is allowed unless some rule allows. -/
def unmatched (rules : List Rule) : Rule :=
  if rules.all (·.policy = .deny) then allowedGlobally else deniedGlobally

/-- The verdict on one form of a name. -/
def governing (m : Matching) (rules : List Rule) (name : String) : Verdict :=
  match best (m · name) .deny rules with
  | some (r, i) => ⟨r, some i⟩
  | none =>
    match best (m · name) .allow rules with
    | some (r, i) => ⟨r, some i⟩
    | none => ⟨unmatched rules, none⟩

end Rule

namespace Verdict

/-- Whether the place `i` comes after the place `j`; no place comes before all. -/
def later (i j : Option Nat) : Bool :=
  match i, j with
  | some i, some j => j < i
  | some _, none => true
  | none, _ => false

/-- Chooses between the verdicts on the two forms of a name: the later rule counts, then a denial,
then a global rule. -/
def reconcile (raw cleaned : Verdict) : Verdict :=
  if raw.index ≠ cleaned.index then
    if later raw.index cleaned.index then raw else cleaned
  else if raw.isAllowed ≠ cleaned.isAllowed then
    if raw.isAllowed then cleaned else raw
  else if raw.rule.isGlobal ≠ cleaned.rule.isGlobal then
    if raw.rule.isGlobal then raw else cleaned
  else raw

end Verdict

namespace Rule

/-- The verdict on a name, in its reported and its canonical form. -/
def verdict (m : Matching) (rules : List Rule) (name : String) : Verdict :=
  (governing m rules name).reconcile (governing m rules (Name.canonical name))

/-- Where the values of a name go. -/
def route (m : Matching) (rules : List Rule) (name : String) : Channel :=
  (verdict m rules name).channel

end Rule

end MetricsAgent
