import Mathlib.Data.List.Induction
import MetricsAgent.Catalog.Basic

/-!
# Listeners know the catalog

The notices that were told at one place, applied in order to an empty map, give the metrics of the catalog
(`Informed`), whenever the listener came. Somebody who listens at several places hears the notices of all of
them, and of a name the last notice is the same at each place that mentions it. So whatever order they come in
between the places, they give the same map.
-/

namespace MetricsAgent

variable {μ ι : Type}

namespace Notice

/-- What a notice says of a name, if anything: its metric, or that there is none any more. -/
def about (name : String) : Notice μ → Option (Option μ)
  | .added n metric => if name = n then some (some metric) else none
  | .removed n => if name = n then some none else none

/-- What the last notice on a name says of it. -/
def latest (name : String) : List (Notice μ) → Option (Option μ)
  | [] => none
  | n :: notices => (latest name notices).or (n.about name)

theorem get?_apply (m : NameMap μ) (n : Notice μ) (name : String) :
    (Notice.apply m n).get? name = (n.about name).getD (m.get? name) := by
  cases n with
  | added k metric => by_cases h : name = k <;> simp [Notice.apply, about, h]
  | removed k => by_cases h : name = k <;> simp [Notice.apply, about, h]

theorem get?_foldl_apply (notices : List (Notice μ)) (m : NameMap μ) (name : String) :
    (notices.foldl Notice.apply m).get? name = (latest name notices).getD (m.get? name) := by
  induction notices generalizing m with
  | nil => rfl
  | cons n notices ih =>
      rw [List.foldl_cons, ih, get?_apply, latest]
      cases latest name notices <;> rfl

/-- Notices of metrics with different names say of each name what the list holds. -/
theorem latest_added {es : List (String × μ)} (h : (es.map (·.1)).Nodup) (name : String) :
    latest name (es.map fun e => .added e.1 e.2) = (es.lookup name).map some := by
  induction es with
  | nil => rfl
  | cons e es ih =>
      obtain ⟨k, metric⟩ := e
      obtain ⟨hk, hes⟩ := List.nodup_cons.mp h
      rw [List.map_cons, latest, ih hes, NameMap.lookup_cons]
      by_cases hn : name = k
      · subst hn
        have hnone : es.lookup name = none := by
          rw [List.lookup_eq_none_iff]
          intro e he
          exact bne_iff_ne.mpr fun hname => hk (List.mem_map.mpr ⟨e, he, hname.symm⟩)
        simp [hnone, about]
      · simp [hn, about]

end Notice

/-! ## Notices from several places -/

/-- The list runs through each of the lists in its order, and through nothing else. -/
inductive Interleaves {α : Type} : List (List α) → List α → Prop
  | done {lists} (h : ∀ l ∈ lists, l = []) : Interleaves lists []
  | next (before) {l after a merged} (h : Interleaves (before ++ l :: after) merged) :
      Interleaves (before ++ (a :: l) :: after) (a :: merged)

/-- What the merged notices say last of a name is what one of the lists says last. -/
theorem Interleaves.latest {lists : List (List (Notice μ))} {merged : List (Notice μ)}
    (h : Interleaves lists merged) (name : String) :
    (∀ x, Notice.latest name merged = some x → ∃ l ∈ lists, Notice.latest name l = some x) ∧
    (Notice.latest name merged = none → ∀ l ∈ lists, Notice.latest name l = none) := by
  induction h with
  | done h =>
      refine ⟨fun x hx => ?_, fun _ l hl => ?_⟩
      · simp [Notice.latest] at hx
      · rw [h l hl]
        rfl
  | @next before l after n merged _ ih =>
      simp only [List.perm_middle.mem_iff, List.mem_cons, exists_eq_or_imp, forall_eq_or_imp] at ih ⊢
      obtain ⟨hsome, hnone⟩ := ih
      cases hm : Notice.latest name merged with
      | some y =>
          simp only [Notice.latest, hm, Option.some_or]
          refine ⟨fun x hx => ?_, fun hx => by cases hx⟩
          cases hx
          rcases hsome y hm with hl | hothers
          · exact .inl (by rw [hl, Option.some_or])
          · exact .inr hothers
      | none =>
          obtain ⟨hl, hothers⟩ := hnone hm
          simp only [Notice.latest, hm, hl, Option.none_or]
          exact ⟨fun x hx => .inl hx, fun hx => ⟨hx, hothers⟩⟩

/-- Lists of notices that give one map give it also when they are merged. -/
theorem Interleaves.foldl_apply {lists : List (List (Notice μ))} {merged : List (Notice μ)}
    (h : Interleaves lists merged) {m : NameMap μ} (hne : lists ≠ [])
    (hm : ∀ l ∈ lists, l.foldl Notice.apply .empty = m) : merged.foldl Notice.apply .empty = m := by
  refine NameMap.ext_get? fun name => ?_
  have hget : ∀ l ∈ lists, (Notice.latest name l).getD none = m.get? name := by
    intro l hl
    rw [← hm l hl, Notice.get?_foldl_apply]
    rfl
  obtain ⟨hsome, hnone⟩ := h.latest name
  rw [Notice.get?_foldl_apply, NameMap.get?_empty]
  cases hx : Notice.latest name merged with
  | some x =>
      obtain ⟨l, hl, hlx⟩ := hsome x hx
      rw [← hget l hl, hlx]
  | none =>
      obtain ⟨l, hl⟩ := List.exists_mem_of_ne_nil lists hne
      rw [← hget l hl, hnone hx l hl]

namespace Catalog

/-! ## Histories -/

/-- What is done with a catalog. A listener may be added more than once. -/
inductive Operation (ι μ : Type) where
  | register (name : String) (metric : μ)
  | remove (name : String)
  | listen (who : ι)

def perform (c : Catalog μ) : Operation ι μ → Catalog μ
  | .register name metric => c.register name metric
  | .remove name => (c.remove name).2
  | .listen _ => c.listen

/-- The catalog after some operations. -/
def after (operations : List (Operation ι μ)) : Catalog μ := operations.foldl perform .empty

/-- Who was added, in order. -/
def listeners (operations : List (Operation ι μ)) : List ι :=
  operations.filterMap fun
    | .listen who => some who
    | .register _ _ | .remove _ => none

/-- What a listener was told, at each of its places. -/
def toldTo [DecidableEq ι] (who : ι) (operations : List (Operation ι μ)) : List (List (Notice μ)) :=
  ((listeners operations).zip (after operations).told).filterMap fun x =>
    if x.1 = who then some x.2 else none

/-- The metric of a name after an operation, given the one before. -/
def hold (name : String) (held : Option μ) : Operation ι μ → Option μ
  | .register n metric => if name = n then some metric else held
  | .remove n => if name = n then none else held
  | .listen _ => held

theorem after_concat (operations : List (Operation ι μ)) (o : Operation ι μ) :
    after (operations ++ [o]) = (after operations).perform o := by
  simp [after]

/-! ## What is told at each place -/

/-- The notices at each place give the metrics of the catalog. -/
def Informed (c : Catalog μ) : Prop := ∀ notices ∈ c.told, notices.foldl Notice.apply .empty = c.metrics

variable {c : Catalog μ}

theorem foldl_apply_replay (c : Catalog μ) : c.replay.foldl Notice.apply .empty = c.metrics := by
  refine NameMap.ext_get? fun name => ?_
  rw [Notice.get?_foldl_apply, replay, Notice.latest_added c.metrics.nodup_names]
  show _ = c.metrics.entries.lookup name
  cases c.metrics.entries.lookup name <;> rfl

namespace Informed

theorem tell (h : Informed c) (n : Notice μ) :
    Informed ({ c with metrics := Notice.apply c.metrics n }.tell n) := by
  intro notices hn
  obtain ⟨earlier, he, rfl⟩ := List.mem_map.mp hn
  rw [List.foldl_append, h earlier he]
  rfl

theorem listen (h : Informed c) : Informed c.listen := by
  intro notices hn
  rcases List.mem_append.mp hn with hn | hn
  · exact h notices hn
  · cases List.mem_singleton.mp hn
    exact foldl_apply_replay c

theorem perform (h : Informed c) (o : Operation ι μ) : Informed (c.perform o) := by
  cases o with
  | register name metric => exact h.tell (.added name metric)
  | remove name =>
      show Informed (c.remove name).2
      unfold Catalog.remove
      split
      · exact h.tell (.removed name)
      · exact h
  | listen who => exact h.listen

theorem after (operations : List (Operation ι μ)) : Informed (Catalog.after operations) := by
  induction operations using List.reverseRecOn with
  | nil => intro notices hn; cases hn
  | append_singleton operations o ih => rw [after_concat]; exact ih.perform o

end Informed

theorem get?_perform (c : Catalog μ) (o : Operation ι μ) (name : String) :
    (c.perform o).metrics.get? name = hold name (c.metrics.get? name) o := by
  cases o with
  | register n metric => exact NameMap.get?_insert c.metrics n metric name
  | remove n =>
      simp only [perform, remove, hold]
      split
      · exact NameMap.get?_erase c.metrics n name
      · -- A name that is not there is not erased.
        rename_i hc
        split
        · rename_i hn; subst hn; simpa [NameMap.contains] using hc
        · rfl
  | listen who => rfl

theorem length_told_perform (c : Catalog μ) (o : Operation ι μ) :
    (c.perform o).told.length = c.told.length + (listeners [o]).length := by
  cases o with
  | register n metric => simp [perform, register, tell, listeners]
  | remove n =>
      simp only [perform, remove]
      split <;> simp [tell, listeners]
  | listen who => simp [perform, listen, listeners]

theorem length_told_after (operations : List (Operation ι μ)) :
    (after operations).told.length = (listeners operations).length := by
  induction operations using List.reverseRecOn with
  | nil => rfl
  | append_singleton operations o ih =>
      rw [after_concat, length_told_perform, ih, listeners, listeners, listeners, List.filterMap_append,
        List.length_append]

theorem get?_after (operations : List (Operation ι μ)) (name : String) :
    (after operations).metrics.get? name = operations.foldl (hold name) none := by
  induction operations using List.reverseRecOn with
  | nil => rfl
  | append_singleton operations o ih =>
      rw [after_concat, get?_perform, ih, List.foldl_append]
      rfl

/-! ## What a listener knows -/

section Listener

variable [DecidableEq ι]

theorem toldTo_ne_nil {who : ι} {operations : List (Operation ι μ)} (h : who ∈ listeners operations) :
    toldTo who operations ≠ [] := by
  obtain ⟨i, hi, he⟩ := List.mem_iff_getElem.mp h
  have hi' : i < (after operations).told.length := length_told_after operations ▸ hi
  have hz : (who, (after operations).told[i]) ∈ (listeners operations).zip (after operations).told :=
    List.mem_iff_getElem.mpr ⟨i, by simp only [List.length_zip]; omega, by simp [he]⟩
  exact List.ne_nil_of_mem (List.mem_filterMap.mpr ⟨_, hz, if_pos rfl⟩)

theorem mem_told_of_mem_toldTo {who : ι} {operations : List (Operation ι μ)} {notices : List (Notice μ)}
    (h : notices ∈ toldTo who operations) : notices ∈ (after operations).told := by
  obtain ⟨x, hx, he⟩ := List.mem_filterMap.mp h
  split at he
  · cases he
    exact (List.of_mem_zip hx).2
  · cases he

/-- After any operations the catalog holds of each name the metric that was registered last, unless the name
was removed since; and whoever was added as a listener, however often and whenever, has been told just what
gives the metrics of the catalog. Removing succeeds exactly for a name that is there, and else nobody is told
and nothing changes. -/
theorem notices_rebuild (operations : List (Operation ι μ)) :
    let c := after operations
    (∀ name, c.metrics.get? name = operations.foldl (hold name) none) ∧
    (∀ who ∈ listeners operations, ∀ heard, Interleaves (toldTo who operations) heard →
      heard.foldl Notice.apply .empty = c.metrics) ∧
    ∀ name, ((c.remove name).1 = true ↔ c.metrics.contains name = true) ∧
      ((c.remove name).1 = false → (c.remove name).2 = c) := by
  intro c
  refine ⟨get?_after operations, fun who hwho heard hh => ?_, fun name => ?_⟩
  · refine hh.foldl_apply (toldTo_ne_nil hwho) fun notices hn => ?_
    exact Informed.after operations notices (mem_told_of_mem_toldTo hn)
  · unfold remove
    cases hc : c.metrics.contains name <;> simp

/-- A listener that is added twice hears of each change twice. -/
theorem notices_rebuild_twice :
    let operations : List (Operation String Nat) :=
      [.register "Reads" 7, .listen "log", .listen "log", .remove "Reads", .register "Writes" 5]
    let heard : List (Notice Nat) := [.added "Reads" 7, .added "Reads" 7, .removed "Reads", .removed "Reads",
      .added "Writes" 5, .added "Writes" 5]
    "log" ∈ listeners operations ∧ Interleaves (toldTo "log" operations) heard ∧
      heard.foldl Notice.apply .empty = (after operations).metrics := by
  intro operations heard
  have hwho : "log" ∈ listeners operations := List.mem_cons_self
  have hheard : Interleaves (toldTo "log" operations) heard := by
    refine .next [] (.next [_] ?_)
    refine .next [] (.next [_] ?_)
    exact .next [] (.next [_] (.done (by simp)))
  exact ⟨hwho, hheard, (notices_rebuild operations).2.1 "log" hwho heard hheard⟩

end Listener

end Catalog

end MetricsAgent
