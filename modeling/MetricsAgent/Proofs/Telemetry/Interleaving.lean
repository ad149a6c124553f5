import Mathlib.Logic.Relation
import MetricsAgent.Proofs.Telemetry.Sessions

/-!
# Calls in steps

Threads register and remove metrics and replace the settings at the same time. Each call is a sequence of steps,
between which others may come: a step reads the settings or replaces them, or it looks at one channel or changes
one (`Task.step`). A call that no other comes between does what the operation of telemetry does at once.
-/

namespace MetricsAgent

/-- Erasing a name that is not there changes nothing. -/
theorem Roster.eraseOn_eq_self {ε : Type} (r : Roster ε) {name : String} {c : Channel}
    (h : r.at? name c = none) : r.eraseOn name c = r := by
  have he : (r.on c).erase name = r.on c := by
    refine NameMap.ext_get? fun n => ?_
    rw [NameMap.get?_erase]
    split
    · rename_i hn
      exact hn ▸ h.symm
    · rfl
  rw [eraseOn, he]
  cases c <;> rfl

namespace Telemetry

variable {ε δ : Type} {m : Matching} {life : Lifecycle δ}

/-- What a thread may call. -/
inductive Call (ε : Type) where
  | register (name : String) (e : ε)
  | remove (name : String)
  | reconfigure (old new : Settings)
  deriving DecidableEq

/-- What is still to be done of a call. -/
inductive Task (ε : Type) where
  | done
  /-- The rules were not read yet. -/
  | register (name : String) (e : ε)
  /-- The name is taken off some channels, and then put on the target. -/
  | place (name : String) (e : ε) (others : List Channel) (target : Channel)
  /-- The name is looked for on some channels. -/
  | remove (name : String) (channels : List Channel)
  /-- The metric was taken off its channel. -/
  | retire (e : ε) (c : Channel)
  /-- What waits for its final report is forgotten unless a session is open. -/
  | settle
  /-- The settings were not replaced yet. -/
  | reconfigure (old new : Settings)
  /-- Some channels are still to be listed. -/
  | list (new : Settings) (channels : List Channel)
  /-- Some names that were listed on the source are still to be moved, before other channels are listed. -/
  | move (new : Settings) (source : Channel) (names : List String) (channels : List Channel)
  /-- A metric was taken off the source, and then goes to the channel of its name. -/
  | put (new : Settings) (name : String) (e : ε) (source : Channel) (names : List String)
    (channels : List Channel)
  /-- The daemon was not asked yet to read its settings again. -/
  | ask (new : Settings)
  deriving DecidableEq

/-- A call of which nothing was done yet. -/
def Call.task : Call ε → Task ε
  | .register name e => .register name e
  | .remove name => .remove name Channel.all
  | .reconfigure old new => .reconfigure old new

namespace Task

/-- One step of a call: telemetry, and what is still to be done. -/
def step (m : Matching) (life : Lifecycle δ) (t : Telemetry ε δ) : Task ε → Telemetry ε δ × Task ε
  | .done => (t, .done)
  | .register name e =>
    (t, .place name e (Channel.all.filter (· ≠ t.route m name)) (t.route m name))
  | .place name e [] target => ({ t with roster := t.roster.insertOn name e target }, .done)
  | .place name e (c :: others) target =>
    ({ t with roster := t.roster.eraseOn name c }, .place name e others target)
  | .remove _ [] => (t, .settle)
  | .remove name (c :: channels) =>
    match t.roster.at? name c with
    | none => (t, .remove name channels)
    | some e => ({ t with roster := t.roster.eraseOn name c }, .retire e c)
  | .retire e c =>
    let retired := t.roster.retired ++ Roster.finalOf (some (e, c))
    ({ t with roster := { t.roster with retired } }, .settle)
  | .settle => ({ t with roster := if t.isStarted then t.roster else t.roster.clearRetired }, .done)
  | .reconfigure old new =>
    ({ t with settings := new }, if old.rules = new.rules then .ask new else .list new Channel.all)
  | .list new [] => (t, .ask new)
  | .list new (c :: channels) => (t, .move new c (t.roster.on c).names channels)
  | .move new _ [] channels => (t, .list new channels)
  | .move new c (name :: names) channels =>
    if Rule.route m new.rules name = c then (t, .move new c names channels)
    else
      match t.roster.at? name c with
      | none => (t, .move new c names channels)
      | some e => ({ t with roster := t.roster.eraseOn name c }, .put new name e c names channels)
  | .put new name e c names channels =>
    ({ t with roster := t.roster.insertOn name e (Rule.route m new.rules name) }, .move new c names channels)
  | .ask new => (t.askReload life new, .done)

/-- A name that is looked for on a channel is taken off it, or is not there. -/
theorem step_remove (m : Matching) (life : Lifecycle δ) (t : Telemetry ε δ) (name : String) (c : Channel)
    (channels : List Channel) :
    (∃ e, t.roster.at? name c = some e ∧ step m life t (.remove name (c :: channels)) =
      ({ t with roster := t.roster.eraseOn name c }, .retire e c)) ∨
    t.roster.at? name c = none ∧
      step m life t (.remove name (c :: channels)) = (t, .remove name channels) := by
  cases h : t.roster.at? name c with
  | none => exact .inr ⟨rfl, by simp only [step, h]⟩
  | some e => exact .inl ⟨e, rfl, by simp only [step, h]⟩

/-- A name that was listed on the source is taken off it if it goes elsewhere, and passed over if it stays or is
not there any more. -/
theorem step_move (m : Matching) (life : Lifecycle δ) (t : Telemetry ε δ) (new : Settings) (c : Channel)
    (name : String) (names : List String) (channels : List Channel) :
    (Rule.route m new.rules name ≠ c ∧ ∃ e, t.roster.at? name c = some e ∧
      step m life t (.move new c (name :: names) channels) =
        ({ t with roster := t.roster.eraseOn name c }, .put new name e c names channels)) ∨
    (Rule.route m new.rules name = c ∨ t.roster.at? name c = none) ∧
      step m life t (.move new c (name :: names) channels) = (t, .move new c names channels) := by
  by_cases hr : Rule.route m new.rules name = c
  · exact .inr ⟨.inl hr, by simp only [step, if_pos hr]⟩
  · cases h : t.roster.at? name c with
    | none => exact .inr ⟨.inr rfl, by simp only [step, if_neg hr, h]⟩
    | some e => exact .inl ⟨hr, e, rfl, by simp only [step, if_neg hr, h]⟩

/-! ## Calls that run alone -/

/-- Some steps that nothing comes between. -/
def Leads (m : Matching) (life : Lifecycle δ) : Telemetry ε δ × Task ε → Telemetry ε δ × Task ε → Prop :=
  Relation.ReflTransGen fun x y => x.2.step m life x.1 = y

theorem Leads.refl (x : Telemetry ε δ × Task ε) : Leads m life x x := Relation.ReflTransGen.refl

theorem Leads.trans {x y z : Telemetry ε δ × Task ε} (h : Leads m life x y) (h' : Leads m life y z) :
    Leads m life x z :=
  Relation.ReflTransGen.trans h h'

theorem Leads.step {t t' : Telemetry ε δ} {task task' : Task ε} {y : Telemetry ε δ × Task ε}
    (hs : task.step m life t = (t', task')) (h : Leads m life (t', task') y) : Leads m life (t, task) y :=
  Relation.ReflTransGen.head hs h

theorem place_leads (name : String) (e : ε) (target : Channel) (others : List Channel) (t : Telemetry ε δ) :
    Leads m life (t, .place name e others target)
      ({ t with roster := (others.foldl (fun r c => r.eraseOn name c) t.roster).insertOn name e target }, .done) := by
  induction others generalizing t with
  | nil => exact .step rfl (.refl _)
  | cons c others ih => exact .step rfl (ih _)

theorem register_leads (name : String) (e : ε) (t : Telemetry ε δ) :
    Leads m life (t, .register name e) (t.register m name e, .done) :=
  .step rfl (place_leads name e (t.route m name) _ t)

theorem retire_leads (e : ε) (c : Channel) (t : Telemetry ε δ) :
    let roster := { t.roster with retired := t.roster.retired ++ Roster.finalOf (some (e, c)) }
    Leads m life (t, .retire e c)
      ({ t with roster := if t.isStarted then roster else roster.clearRetired }, .done) :=
  .step rfl (.step rfl (.refl _))

theorem remove_leads (name : String) (t : Telemetry ε δ) :
    Leads m life (t, .remove name Channel.all) (t.remove name, .done) := by
  have miss {c : Channel} {channels : List Channel} {y : Telemetry ε δ × Task ε} (h : t.roster.at? name c = none)
      (hl : Leads m life (t, .remove name channels) y) : Leads m life (t, .remove name (c :: channels)) y :=
    .step (by simp only [step, h]) hl
  have hit {c : Channel} {channels : List Channel} {e : ε} (h : t.roster.at? name c = some e)
      (hr : t.roster.remove name = { t.roster.eraseOn name c with
        retired := t.roster.retired ++ Roster.finalOf (some (e, c)) }) :
      Leads m life (t, .remove name (c :: channels)) (t.remove name, .done) := by
    refine .step (by simp only [step, h]; rfl) ?_
    rw [Telemetry.remove, hr]
    cases c <;> exact retire_leads e _ _
  -- The first channel that has the name ends the search, in the order of `Channel.all`.
  cases hu : t.roster.at? name .unrestricted with
  | some e => exact hit hu (by rw [Roster.remove, show t.roster.unrestricted.get? name = some e from hu]; rfl)
  | none =>
      have hu' : t.roster.unrestricted.get? name = none := hu
      refine miss hu ?_
      cases hr : t.roster.at? name .restricted with
      | some e =>
          exact hit hr (by rw [Roster.remove, hu', show t.roster.restricted.get? name = some e from hr]; rfl)
      | none =>
          have hremove : t.roster.remove name = t.roster.eraseOn name .denied := by
            rw [Roster.remove, hu', show t.roster.restricted.get? name = none from hr]
          refine miss hr ?_
          cases hd : t.roster.at? name .denied with
          | some e => exact hit hd (by rw [hremove, Roster.finalOf, List.append_nil]; rfl)
          | none =>
              refine miss hd (.step rfl (.step rfl ?_))
              rw [Telemetry.remove, hremove, t.roster.eraseOn_eq_self hd]
              exact .refl _

/-! ### New settings -/

theorem move_leads (new : Settings) (c : Channel) (names : List String) (channels : List Channel)
    (t : Telemetry ε δ) :
    Leads m life (t, .move new c names channels)
      ({ t with roster := names.foldl (fun r name => if Rule.route m new.rules name = c then r
          else r.move name c (Rule.route m new.rules name)) t.roster }, .list new channels) := by
  induction names generalizing t with
  | nil => exact .step rfl (.refl _)
  | cons name names ih =>
      rw [List.foldl_cons]
      rcases step_move m life t new c name names channels with ⟨hr, e, he, hs⟩ | ⟨hstay, hs⟩
      · rw [if_neg hr, Roster.move, show (t.roster.on c).get? name = some e from he]
        exact .step hs (.step rfl (ih _))
      · refine .step hs ?_
        by_cases hr : Rule.route m new.rules name = c
        · rw [if_pos hr]
          exact ih t
        · have he : (t.roster.on c).get? name = none := hstay.resolve_left hr
          rw [if_neg hr, Roster.move, he]
          exact ih t

theorem list_leads (new : Settings) (channels : List Channel) (t : Telemetry ε δ) :
    Leads m life (t, .list new channels)
      ({ t with roster := channels.foldl (Roster.refreshChannel (Rule.route m new.rules)) t.roster }, .ask new) := by
  induction channels generalizing t with
  | nil => exact .step rfl (.refl _)
  | cons c channels ih => exact .step rfl ((move_leads new c _ channels t).trans (ih _))

theorem reconfigure_leads (old new : Settings) (t : Telemetry ε δ) :
    Leads m life (t, .reconfigure old new) (t.reconfigure m life old new, .done) := by
  rw [reconfigure_eq_askReload, rerouted]
  by_cases hr : old.rules = new.rules
  · rw [if_pos hr]
    exact .step (by simp only [step, if_pos hr]; rfl) (.step rfl (.refl _))
  · rw [if_neg hr]
    refine .step (by simp only [step, if_neg hr]; rfl) ((list_leads new Channel.all _).trans ?_)
    exact .step rfl (.refl _)

end Task

/-- What a call does when no other comes between its steps. -/
def Call.operation : Call ε → Operation ε
  | .register name e => .register name e
  | .remove name => .remove name
  | .reconfigure old new => .reconfigure old new

/-- The steps of a call amount to the operation, if no other steps come between them. -/
theorem Call.leads_alone (m : Matching) (life : Lifecycle δ) (c : Call ε) (t : Telemetry ε δ) :
    Task.Leads m life (t, c.task) (t.perform m life c.operation, .done) := by
  cases c with
  | register name e => exact Task.register_leads name e t
  | remove name => exact Task.remove_leads name t
  | reconfigure old new => exact Task.reconfigure_leads old new t

end Telemetry

end MetricsAgent
