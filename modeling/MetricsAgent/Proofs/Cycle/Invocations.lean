import Mathlib.Data.List.Nodup
import Mathlib.Data.List.Pairwise
import MetricsAgent.Cycle.Basic
import MetricsAgent.Proofs.Roster.History

/-!
# Every metric is reported once

A cycle reports the metrics that its roster has due, each once and in order, and the roster's history tells
which these are. When no metric is registered twice, a metric whose name was removed has no name any more
(`Gone`), so after its final report it is never due again.
-/

namespace MetricsAgent

theorem Batch.writeAll_eq_mapM {ε : Type} (report : ε → Occasion → Except Fault Report) (b : Batch)
    (due : List (ε × Occasion)) :
    b.writeAll report due = (due.mapM fun x => report x.1 x.2).map fun reports =>
      reports.foldl Batch.write b := by
  induction due generalizing b with
  | nil => rfl
  | cons x due ih =>
      obtain ⟨e, o⟩ := x
      rw [Batch.writeAll, List.mapM_cons]
      cases report e o with
      | error f => rfl
      | ok r =>
          show (b.write r).writeAll report due = _
          rw [ih]
          cases due.mapM fun x => report x.1 x.2 <;> rfl

theorem Occasion.ofTick_eq (tick every : Nat) :
    Occasion.ofTick tick every = if max every 1 ∣ tick then .sample else .withheldSample := by
  simp only [Occasion.ofTick, Nat.dvd_iff_mod_eq_zero]

namespace Roster

variable {ε : Type} {m : Matching} {history : List (Operation ε)} {e : ε}

/-! ## What is due -/

/-- The names on a channel with their metrics, each name once. -/
structure Lists (m : Matching) (history : List (Operation ε)) (c : Channel) (xs : List (String × ε)) :
    Prop where
  nodup : (xs.map (·.1)).Nodup
  mem_iff : ∀ name e, (name, e) ∈ xs ↔ standing m name history = some (e, c)

theorem lists_entries (m : Matching) (history : List (Operation ε)) (c : Channel) :
    Lists m history c ((after m history).on c).entries where
  nodup := NameMap.nodup_names _
  mem_iff := by
    intro name e
    rw [NameMap.mem_entries_iff, get?_on_after, placed_eq_some_iff]

theorem due_after (m : Matching) (history : List (Operation ε)) (tick every : Nat) :
    (after m history).due tick every = finals m history
      ++ ((after m history).on .unrestricted).entries.map (fun x => (x.2, .ofTick tick every))
      ++ ((after m history).on .restricted).entries.map (fun x => (x.2, .withheldSample)) := by
  simp only [due, retired_after, NameMap.values, List.map_map]
  rfl

theorem cycle_eq_mapM (report : ε → Occasion → Except Fault Report) (size tick every : Nat)
    (r : Roster ε) :
    r.cycle report size tick every = ((r.due tick every).mapM fun x => report x.1 x.2).map fun reports =>
      ((reports.foldl Batch.write (.ofSize size)).finish.2, r.clearRetired) := by
  rw [cycle, Batch.writeAll_eq_mapM]
  cases (r.due tick every).mapM fun x => report x.1 x.2 <;> rfl

/-! ## Metrics without a name -/

/-- The metrics that were registered, the latest first. -/
def registered (history : List (Operation ε)) : List ε := (edits history).filterMap (·.2)

theorem mem_edits_of_lastRegistered {name : String} (h : lastRegistered name history = some e) :
    (name, some e) ∈ edits history := by
  rw [lastRegistered, Option.join_eq_some_iff] at h
  obtain ⟨l₁, l₂, he, _⟩ := List.lookup_eq_some_iff.mp h
  rw [he]
  exact List.mem_append_right _ List.mem_cons_self

theorem mem_registered_of_lastRegistered {name : String} (h : lastRegistered name history = some e) :
    e ∈ registered history :=
  List.mem_filterMap.mpr ⟨_, mem_edits_of_lastRegistered h, rfl⟩

/-- A metric that was registered once has one name at most. -/
theorem eq_of_lastRegistered (hd : (registered history).Nodup) {name name' : String}
    (h : lastRegistered name history = some e) (h' : lastRegistered name' history = some e) :
    name = name' := by
  by_contra hne
  let Apart (x y : String × Option ε) : Prop := ∀ b, x.2 = some b → ∀ b', y.2 = some b' → b ≠ b'
  have : Std.Symm Apart := ⟨fun x y hxy b hb b' hb' he => hxy b' hb' b hb he.symm⟩
  have hp : Apart (name, some e) (name', some e) := (List.pairwise_filterMap.mp hd).forall
    (mem_edits_of_lastRegistered h) (mem_edits_of_lastRegistered h') (by simpa using hne)
  exact hp e rfl e rfl rfl

/-- The metric was registered, and no name has it any more. -/
structure Gone (history : List (Operation ε)) (e : ε) : Prop where
  registered : e ∈ registered history
  no_name : ∀ name, lastRegistered name history ≠ some e

theorem nodup_registered_of_cons {o : Operation ε} (hd : (registered (o :: history)).Nodup) :
    (registered history).Nodup := by
  cases o with
  | register rules n e => exact (List.nodup_cons.mp hd).2
  | remove n => exact hd
  | refresh rules => exact hd
  | cycle size tick every => exact hd

theorem Gone.cons (h : Gone history e) {o : Operation ε} (hd : (Roster.registered (o :: history)).Nodup) :
    Gone (o :: history) e := by
  cases o with
  | register rules n e' =>
      refine ⟨List.mem_cons_of_mem _ h.registered, fun name hn => ?_⟩
      rw [lastRegistered_register] at hn
      split at hn
      · cases hn; exact (List.nodup_cons.mp hd).1 h.registered
      · exact h.no_name name hn
  | remove n =>
      refine ⟨h.registered, fun name hn => ?_⟩
      rw [lastRegistered_remove] at hn
      split at hn
      · cases hn
      · exact h.no_name name hn
  | refresh rules => exact ⟨h.registered, h.no_name⟩
  | cycle size tick every => exact ⟨h.registered, h.no_name⟩

/-! ## Final reports -/

theorem standing_of_mem_finalOf {x : Option (ε × Channel)} {o : Occasion} (h : (e, o) ∈ finalOf x) :
    ∃ c, x = some (e, c) := by
  match x, h with
  | some (e', .unrestricted), h =>
      simp only [finalOf, List.mem_singleton, Prod.mk.injEq] at h
      exact ⟨_, by rw [h.1]⟩
  | some (e', .restricted), h =>
      simp only [finalOf, List.mem_singleton, Prod.mk.injEq] at h
      exact ⟨_, by rw [h.1]⟩

theorem lastRegistered_of_standing {name : String} {c : Channel}
    (h : standing m name history = some (e, c)) : lastRegistered name history = some e := by
  rw [← map_fst_standing m, h]
  rfl

theorem gone_of_mem_finals (hd : (registered history).Nodup) (h : e ∈ (finals m history).map (·.1)) :
    Gone history e := by
  induction history with
  | nil => cases h
  | cons o earlier ih =>
      have hd' := nodup_registered_of_cons hd
      cases o with
      | register rules n e' => exact (ih hd' h).cons hd
      | remove n =>
          rw [finals, List.map_append, List.mem_append] at h
          rcases h with h | h
          · exact (ih hd' h).cons hd
          · obtain ⟨⟨_, o⟩, ho, rfl⟩ := List.mem_map.mp h
            obtain ⟨c, hc⟩ := standing_of_mem_finalOf ho
            have hn := lastRegistered_of_standing hc
            have hr : _ ∈ registered earlier := mem_registered_of_lastRegistered hn
            -- The name that is removed was the only one of its metric.
            refine ⟨hr, fun name hname => ?_⟩
            rw [lastRegistered_remove] at hname
            split at hname
            · cases hname
            · rename_i hne; exact hne (eq_of_lastRegistered hd' hname hn)
      | refresh rules => exact (ih hd' h).cons hd
      | cycle size tick every => cases h

theorem Gone.ne_of_mem_finalOf (h : Gone history e) {name : String} {x : ε × Occasion}
    (hx : x ∈ finalOf (standing m name history)) : x.1 ≠ e := by
  rintro rfl
  obtain ⟨c, hc⟩ := standing_of_mem_finalOf hx
  exact h.no_name name (lastRegistered_of_standing hc)

theorem Gone.not_mem_finals_cons (h : Gone history e) (hf : e ∉ (finals m history).map (·.1))
    (o : Operation ε) : e ∉ (finals m (o :: history)).map (·.1) := by
  cases o with
  | register rules n e' => exact hf
  | remove n =>
      rw [finals, List.map_append, List.mem_append]
      rintro (hx | hx)
      · exact hf hx
      · obtain ⟨x, hx, he⟩ := List.mem_map.mp hx
        exact h.ne_of_mem_finalOf hx he
  | refresh rules => exact hf
  | cycle size tick every => simp [finals]

theorem Gone.append (h : Gone history e) (hf : e ∉ (finals m history).map (·.1))
    {later : List (Operation ε)} (hd : (Roster.registered (later ++ history)).Nodup) :
    Gone (later ++ history) e ∧ e ∉ (finals m (later ++ history)).map (·.1) := by
  induction later with
  | nil => exact ⟨h, hf⟩
  | cons o later ih =>
      obtain ⟨h, hf⟩ := ih (nodup_registered_of_cons hd)
      exact ⟨h.cons hd, h.not_mem_finals_cons hf o⟩

theorem nodup_finalOf (x : Option (ε × Channel)) : ((finalOf x).map (·.1)).Nodup := by
  unfold finalOf
  split <;> simp

theorem nodup_finals (hd : (registered history).Nodup) : ((finals m history).map (·.1)).Nodup := by
  induction history with
  | nil => exact .nil
  | cons o earlier ih =>
      have hd' := nodup_registered_of_cons hd
      cases o with
      | register rules n e' => exact ih hd'
      | remove n =>
          rw [finals, List.map_append, List.nodup_append]
          refine ⟨ih hd', ?_, fun x hx y hy => ?_⟩
          · exact nodup_finalOf _
          · obtain ⟨z, hz, rfl⟩ := List.mem_map.mp hy
            exact ((gone_of_mem_finals hd' hx).ne_of_mem_finalOf hz).symm
      | refresh rules => exact ih hd'
      | cycle size tick every => exact .nil

/-! ## Once for each metric -/

theorem Lists.lastRegistered_eq {c : Channel} {xs : List (String × ε)} (h : Lists m history c xs)
    {x : String × ε} (hx : x ∈ xs) : lastRegistered x.1 history = some x.2 :=
  lastRegistered_of_standing ((h.mem_iff x.1 x.2).mp hx)

theorem Gone.not_mem_snd (h : Gone history e) {c : Channel} {xs : List (String × ε)}
    (hl : Lists m history c xs) : e ∉ xs.map (·.2) := by
  intro he
  obtain ⟨x, hx, rfl⟩ := List.mem_map.mp he
  exact h.no_name x.1 (hl.lastRegistered_eq hx)

theorem Lists.nodup_snd {c : Channel} {xs : List (String × ε)} (h : Lists m history c xs)
    (hd : (registered history).Nodup) : (xs.map (·.2)).Nodup := by
  refine List.Nodup.map_on (fun x hx y hy he => ?_) (List.Nodup.of_map _ h.nodup)
  have hx' := h.lastRegistered_eq hx
  rw [he] at hx'
  exact Prod.ext (eq_of_lastRegistered hd hx' (h.lastRegistered_eq hy)) he

theorem Lists.ne_of_mem {c c' : Channel} {xs xs' : List (String × ε)} (h : Lists m history c xs)
    (h' : Lists m history c' xs') (hc : c ≠ c') (hd : (registered history).Nodup) {x y : String × ε}
    (hx : x ∈ xs) (hy : y ∈ xs') : x.2 ≠ y.2 := by
  intro he
  have hx' := (h.mem_iff x.1 x.2).mp hx
  have hn := eq_of_lastRegistered hd (h.lastRegistered_eq hx) (he ▸ h'.lastRegistered_eq hy)
  have hy' := (h'.mem_iff y.1 y.2).mp hy
  rw [← hn, ← he, hx'] at hy'
  cases hy'
  exact hc rfl

theorem map_fst_due_after (m : Matching) (history : List (Operation ε)) (tick every : Nat) :
    ((after m history).due tick every).map (·.1) = (finals m history).map (·.1)
      ++ ((after m history).on .unrestricted).entries.map (·.2)
      ++ ((after m history).on .restricted).entries.map (·.2) := by
  simp only [due_after, List.map_append, List.map_map]
  rfl

theorem nodup_due_after (hd : (registered history).Nodup) (tick every : Nat) :
    (((after m history).due tick every).map (·.1)).Nodup := by
  have hopen := lists_entries m history .unrestricted
  have hlimited := lists_entries m history .restricted
  rw [map_fst_due_after, List.append_assoc, List.nodup_append, List.nodup_append]
  refine ⟨nodup_finals hd, ⟨hopen.nodup_snd hd, hlimited.nodup_snd hd, fun e he e' he' => ?_⟩,
    fun e he e' he' => ?_⟩
  · obtain ⟨x, hx, rfl⟩ := List.mem_map.mp he
    obtain ⟨y, hy, rfl⟩ := List.mem_map.mp he'
    exact hopen.ne_of_mem hlimited (by simp) hd hx hy
  · have hgone := gone_of_mem_finals hd he
    rintro rfl
    rcases List.mem_append.mp he' with he' | he'
    · exact hgone.not_mem_snd hopen he'
    · exact hgone.not_mem_snd hlimited he'

theorem Gone.not_mem_due (h : Gone history e) (hf : e ∉ (finals m history).map (·.1)) (tick every : Nat) :
    e ∉ ((after m history).due tick every).map (·.1) := by
  rw [map_fst_due_after, List.mem_append, List.mem_append]
  rintro ((he | he) | he)
  · exact hf he
  · exact h.not_mem_snd (lists_entries m history .unrestricted) he
  · exact h.not_mem_snd (lists_entries m history .restricted) he

/-- A cycle after any history reports first, in the order of removal, the metrics that were removed since
the last cycle while they were reported, then each metric on the unrestricted and then each on the restricted
channel, and nothing else. When no metric was registered twice, no metric is reported twice in a cycle, and
none after its final report. -/
theorem cycle_after (m : Matching) (report : ε → Occasion → Except Fault Report)
    (history : List (Operation ε)) (size tick every : Nat) :
    ∃ opens limited, Lists m history .unrestricted opens ∧ Lists m history .restricted limited ∧
      let due := finals m history
        ++ opens.map (fun x => (x.2, if max every 1 ∣ tick then .sample else .withheldSample))
        ++ limited.map (fun x => (x.2, .withheldSample))
      let next := Operation.cycle size tick every :: history
      ((after m history).cycle report size tick every = do
        let reports ← due.mapM fun x => report x.1 x.2
        return ((reports.foldl Batch.write (.ofSize size)).finish.2, after m next)) ∧
      ((registered history).Nodup → (due.map (·.1)).Nodup ∧
        ∀ x ∈ finals m history, ∀ later, (registered (later ++ next)).Nodup → ∀ tick' every',
          x.1 ∉ ((after m (later ++ next)).due tick' every').map (·.1)) := by
  have hdue := due_after m history tick every
  rw [Occasion.ofTick_eq] at hdue
  refine ⟨_, _, lists_entries m history .unrestricted, lists_entries m history .restricted, ?_⟩
  intro due next
  refine ⟨?_, fun hd => ⟨?_, fun x hx later hd' tick' every' => ?_⟩⟩
  · rw [cycle_eq_mapM, hdue]
    cases due.mapM fun x => report x.1 x.2 <;> rfl
  · have hn := nodup_due_after (m := m) hd tick every
    rwa [hdue] at hn
  · have hgone := gone_of_mem_finals hd (List.mem_map.mpr ⟨x, hx, rfl⟩)
    have hnext : Gone next x.1 := ⟨hgone.registered, hgone.no_name⟩
    obtain ⟨hlater, hf⟩ := hnext.append (m := m) (by simp [next, finals]) hd'
    exact hlater.not_mem_due hf tick' every'

/-- A name that is registered again has another metric, and the old one is not reported again. -/
theorem cycle_after_reads :
    let m : Matching := fun _ _ => true
    let history : List (Operation Nat) :=
      [.remove "Reads", .register [] "Writes" 1, .register [] "Reads" 0]
    let next := Operation.cycle 256 0 1 :: history
    let later : List (Operation Nat) := [.register [] "Reads" 2]
    (registered history).Nodup ∧ (registered (later ++ next)).Nodup ∧
      (0, .final false) ∈ finals m history ∧
      0 ∉ ((after m (later ++ next)).due 1 1).map (·.1) := by
  intro m history next later
  obtain ⟨_, _, _, _, _, h⟩ := cycle_after m (fun _ _ => .ok .empty) history 256 0 1
  have hd : (registered history).Nodup := by decide
  have hd' : (registered (later ++ next)).Nodup := by decide
  have hf : (0, .final false) ∈ finals m history := List.mem_singleton.mpr rfl
  exact ⟨hd, hd', hf, (h hd).2 _ hf later hd' 1 1⟩

end Roster

end MetricsAgent
