import MetricsAgent.Proofs.Roster.Channels
import MetricsAgent.Rule.Verdict

/-!
# The roster as its history tells it

A history lists what was done with a roster, the latest first. It tells of each name which metric was
registered last and to which channel the name was routed last (`standing`), and which metrics wait for
their final report (`finals`); the roster holds exactly that. Hence new rules leave nothing of the old
ones, and lose no metric.
-/

namespace MetricsAgent.Roster

variable {ε : Type} {m : Matching}

/-- What is done with a roster; each registration and each refreshment comes with the rules of its time. -/
inductive Operation (ε : Type) where
  | register (rules : List Rule) (name : String) (e : ε)
  | remove (name : String)
  | refresh (rules : List Rule)
  | cycle (size tick every : Nat)

def perform (m : Matching) (r : Roster ε) : Operation ε → Roster ε
  | .register rules name e => r.register (Rule.route m rules) name e
  | .remove name => r.remove name
  | .refresh rules => r.refresh (Rule.route m rules)
  | .cycle _ _ _ => r.clearRetired

/-- The roster after a history. -/
def after (m : Matching) : List (Operation ε) → Roster ε
  | [] => .empty
  | o :: earlier => (after m earlier).perform m o

/-! ## What a history tells -/

/-- The metric of a name and its channel. -/
def standing (m : Matching) (name : String) : List (Operation ε) → Option (ε × Channel)
  | [] => none
  | .register rules n e :: earlier =>
    if name = n then some (e, Rule.route m rules name) else standing m name earlier
  | .remove n :: earlier => if name = n then none else standing m name earlier
  | .refresh rules :: earlier => (standing m name earlier).map fun x => (x.1, Rule.route m rules name)
  | .cycle _ _ _ :: earlier => standing m name earlier

/-- The final report of a metric that is removed from a channel, if it was reported there. -/
def finalOf : Option (ε × Channel) → List (ε × Occasion)
  | some (e, .unrestricted) => [(e, .final false)]
  | some (e, .restricted) => [(e, .final true)]
  | some (_, .denied) | none => []

/-- The final reports of the metrics that were removed since the last cycle, in the order of removal. -/
def finals (m : Matching) : List (Operation ε) → List (ε × Occasion)
  | [] => []
  | .remove name :: earlier => finals m earlier ++ finalOf (standing m name earlier)
  | .cycle _ _ _ :: _ => []
  | .register _ _ _ :: earlier | .refresh _ :: earlier => finals m earlier

/-- The registrations and removals, without the rules: for each name the metric, or none. -/
def edits : List (Operation ε) → List (String × Option ε)
  | [] => []
  | .register _ name e :: earlier => (name, some e) :: edits earlier
  | .remove name :: earlier => (name, none) :: edits earlier
  | .refresh _ :: earlier | .cycle _ _ _ :: earlier => edits earlier

/-- The metric that was registered last under a name, unless the name was removed since. -/
def lastRegistered (name : String) (history : List (Operation ε)) : Option ε :=
  ((edits history).lookup name).join

@[simp] theorem lastRegistered_register (name : String) (rules : List Rule) (n : String) (e : ε)
    (earlier : List (Operation ε)) : lastRegistered name (.register rules n e :: earlier) =
      if name = n then some e else lastRegistered name earlier := by
  rw [lastRegistered, edits, NameMap.lookup_cons]
  split <;> rfl

@[simp] theorem lastRegistered_remove (name n : String) (earlier : List (Operation ε)) :
    lastRegistered name (.remove n :: earlier) = if name = n then none else lastRegistered name earlier := by
  rw [lastRegistered, edits, NameMap.lookup_cons]
  split <;> rfl

@[simp] theorem lastRegistered_refresh (name : String) (rules : List Rule) (earlier : List (Operation ε)) :
    lastRegistered name (.refresh rules :: earlier) = lastRegistered name earlier := rfl

theorem map_fst_standing (m : Matching) (name : String) (history : List (Operation ε)) :
    (standing m name history).map Prod.fst = lastRegistered name history := by
  induction history with
  | nil => rfl
  | cons o earlier ih =>
      cases o with
      | register rules n e =>
          rw [standing, lastRegistered_register]
          split
          · rfl
          · exact ih
      | remove n =>
          rw [standing, lastRegistered_remove]
          split
          · rfl
          · exact ih
      | refresh rules => rw [standing, lastRegistered_refresh, Option.map_map, ← ih]; rfl
      | cycle size tick every => exact ih

/-! ## What the channels hold -/

/-- What a channel holds of a name with this standing. -/
def placed : Option (ε × Channel) → Channel → Option ε
  | none, _ => none
  | some (e, c), k => if k = c then some e else none

/-- Moving through all channels ends on the target, also when a metric is met again. -/
theorem moved_placed (x : Option (ε × Channel)) (target : Channel) :
    moved (moved (moved (placed x) .unrestricted target) .restricted target) .denied target
      = placed (x.map fun y => (y.1, target)) := by
  funext k
  match x with
  | none => simp [moved, placed]
  | some (e, c) => cases c <;> cases target <;> cases k <;> rfl

theorem placed_eq_some_iff {x : Option (ε × Channel)} {c : Channel} {e : ε} :
    placed x c = some e ↔ x = some (e, c) := by
  match x with
  | none => simp [placed]
  | some (e', k) =>
      simp only [placed, Option.ite_none_right_eq_some, Option.some.injEq, Prod.mk.injEq]
      exact ⟨fun ⟨hc, he⟩ => ⟨he, hc.symm⟩, fun ⟨he, hc⟩ => ⟨hc.symm, he⟩⟩

theorem exists_placed_eq (x : Option (ε × Channel)) :
    ∃ c, placed x c = x.map Prod.fst ∧ ∀ k, k ≠ c → placed x k = none := by
  match x with
  | none => exact ⟨.denied, rfl, fun _ _ => rfl⟩
  | some (e, c) => exact ⟨c, by simp [placed], fun k hk => by simp [placed, hk]⟩

theorem separate_of_placed {r : Roster ε} {standing : String → Option (ε × Channel)}
    (h : ∀ name, r.at? name = placed (standing name)) : r.Separate := by
  intro name c k hc hk
  rw [h, Option.isSome_iff_exists] at hc hk
  obtain ⟨e, hc⟩ := hc
  obtain ⟨e', hk⟩ := hk
  rw [placed_eq_some_iff] at hc hk
  cases hc.symm.trans hk
  rfl

theorem at?_after (m : Matching) (history : List (Operation ε)) (name : String) :
    (after m history).at? name = placed (standing m name history) := by
  induction history generalizing name with
  | nil => funext c; simp [after, standing, placed]
  | cons o earlier ih =>
      funext k
      cases o with
      | register rules n e =>
          simp only [after, perform, register, at?_place, standing]
          split
          · rename_i hn; subst hn; rfl
          · rw [ih]
      | remove n =>
          simp only [after, perform, at?_remove (separate_of_placed ih), standing]
          split
          · rfl
          · rw [ih]
      | refresh rules =>
          simp only [after, perform, refresh, Channel.all, List.foldl_cons, List.foldl_nil, standing,
            at?_refreshChannel]
          rw [ih, moved_placed]
      | cycle size tick every => simp only [after, perform, at?_clearRetired, standing, ih]

theorem get?_on_after (m : Matching) (history : List (Operation ε)) (name : String) (c : Channel) :
    ((after m history).on c).get? name = placed (standing m name history) c :=
  congrFun (at?_after m history name) c

/-! ## What waits for its final report -/

@[simp] theorem retired_setOn (r : Roster ε) (c : Channel) (n : NameMap ε) :
    (r.setOn c n).retired = r.retired := by
  cases c <;> rfl

@[simp] theorem retired_eraseOn (r : Roster ε) (name : String) (c : Channel) :
    (r.eraseOn name c).retired = r.retired := retired_setOn ..

@[simp] theorem retired_insertOn (r : Roster ε) (name : String) (e : ε) (c : Channel) :
    (r.insertOn name e c).retired = r.retired := retired_setOn ..

theorem retired_place (r : Roster ε) (name : String) (e : ε) (c : Channel) :
    (r.place name e c).retired = r.retired := by
  cases c <;> simp [place, Channel.all]

theorem retired_move (r : Roster ε) (name : String) (source target : Channel) :
    (r.move name source target).retired = r.retired := by
  unfold move
  split <;> simp

theorem retired_refreshChannel (route : String → Channel) (r : Roster ε) (c : Channel) :
    (r.refreshChannel route c).retired = r.retired := by
  unfold refreshChannel
  induction (r.on c).names generalizing r with
  | nil => rfl
  | cons name names ih =>
      rw [List.foldl_cons, ih]
      split
      · rfl
      · exact retired_move ..

theorem retired_refresh (route : String → Channel) (r : Roster ε) :
    (r.refresh route).retired = r.retired := by
  simp only [refresh, Channel.all, List.foldl_cons, List.foldl_nil, retired_refreshChannel]

theorem retired_remove {r : Roster ε} {name : String} {x : Option (ε × Channel)}
    (h : r.at? name = placed x) : (r.remove name).retired = r.retired ++ finalOf x := by
  have hu : r.unrestricted.get? name = placed x .unrestricted := congrFun h .unrestricted
  have hr : r.restricted.get? name = placed x .restricted := congrFun h .restricted
  unfold remove
  rw [hu, hr]
  match x with
  | none => simp [placed, finalOf]
  | some (e, .unrestricted) => simp [placed, finalOf, retire]
  | some (e, .restricted) => simp [placed, finalOf, retire]
  | some (e, .denied) => simp [placed, finalOf]

theorem retired_after (m : Matching) (history : List (Operation ε)) :
    (after m history).retired = finals m history := by
  induction history with
  | nil => rfl
  | cons o earlier ih =>
      cases o with
      | register rules n e => rw [after, perform, register, retired_place, ih, finals]
      | remove n => rw [after, perform, retired_remove (at?_after m earlier n), ih, finals]
      | refresh rules => rw [after, perform, retired_refresh, ih, finals]
      | cycle size tick every => rfl

/-! ## Other rules -/

theorem at?_refresh_after (m : Matching) (history : List (Operation ε)) (rules : List Rule)
    (name : String) (c : Channel) :
    ((after m history).refresh (Rule.route m rules)).at? name c =
      if c = Rule.route m rules name then lastRegistered name history else none := by
  have h := congrFun (at?_after m (.refresh rules :: history) name) c
  rw [after, perform] at h
  rw [h, standing, ← map_fst_standing m]
  cases standing m name history with
  | none => simp [placed]
  | some x => rfl

/-- After any history a name stands on one channel at most, with the metric that was registered last
under it. Other rules put each name on the channel to which they route it, keep its metric and what waits
for its final report, and lead to the same channels whatever rules there were before. -/
theorem refresh_after (m : Matching) (history : List (Operation ε)) (rules : List Rule) :
    let r := after m history
    let r' := r.refresh (Rule.route m rules)
    (∀ name, ∃ c, r.at? name c = lastRegistered name history ∧ ∀ k, k ≠ c → r.at? name k = none) ∧
    r'.retired = r.retired ∧
    (∀ name c, r'.at? name c =
      if c = Rule.route m rules name then lastRegistered name history else none) ∧
    (∀ history', edits history' = edits history → ∀ c,
      ((after m history').refresh (Rule.route m rules)).on c = r'.on c) := by
  intro r r'
  refine ⟨fun name => ?_, retired_refresh .., at?_refresh_after m history rules,
    fun history' he c => ?_⟩
  · rw [← map_fst_standing m, at?_after]
    exact exists_placed_eq _
  · refine NameMap.ext_get? fun name => ?_
    have h := at?_refresh_after m history' rules name c
    -- Only the edits of a history tell what is registered.
    rw [lastRegistered, he] at h
    exact h.trans (at?_refresh_after m history rules name c).symm

/-- A metric that was denied for a while ends where one does that was always allowed. -/
theorem refresh_after_reads :
    let m : Matching := fun _ _ => true
    let denied : List (Operation Nat) :=
      [.refresh [.deniedGlobally], .remove "Writes", .register [] "Reads" 0]
    let allowed : List (Operation Nat) := [.remove "Writes", .register [.allowedGlobally] "Reads" 0]
    edits denied = edits allowed ∧ ∀ c, ((after m denied).refresh (Rule.route m [])).on c =
      ((after m allowed).refresh (Rule.route m [])).on c := by
  intro m denied allowed
  have he : edits denied = edits allowed := rfl
  exact ⟨he, (refresh_after m allowed []).2.2.2 denied he⟩

end MetricsAgent.Roster
