import MetricsAgent.Daemon.Tally
import MetricsAgent.Proofs.Cycle.Invocations
import MetricsAgent.Proofs.Report.Marking
import MetricsAgent.Proofs.Telemetry.Routing
import MetricsAgent.Proofs.Telemetry.Sessions

/-!
# Names that are kept quiet

As long as whoever changes the settings knows the rules in force, every name that is held stands on the channel
that these rules choose (`Faithful`), so that a cycle samples no denied name and marks what it writes of the
restricted ones. What waits for its final report follows the rules that were in force when it was removed.
-/

namespace MetricsAgent

/-! ## What a cycle samples -/

/-- What a cycle reports of the registered names, each with its metric and the occasion. -/
def Roster.samples {ε : Type} (r : Roster ε) (tick every : Nat) : List (String × ε × Occasion) :=
  r.unrestricted.entries.map (fun x => (x.1, x.2, .ofTick tick every))
    ++ r.restricted.entries.map (fun x => (x.1, x.2, .withheldSample))

theorem Roster.due_eq {ε : Type} (r : Roster ε) (tick every : Nat) :
    r.due tick every = r.retired ++ (r.samples tick every).map (·.2) := by
  simp [due, samples, NameMap.values, Function.comp_def]

theorem Roster.at?_of_mem_samples {ε : Type} {r : Roster ε} {tick every : Nat} {name : String} {e : ε}
    {o : Occasion} (h : (name, e, o) ∈ r.samples tick every) :
    ∃ c, r.at? name c = some e ∧ c ≠ .denied ∧ (c = .restricted → o = .withheldSample) := by
  rcases List.mem_append.mp h with h | h
  · obtain ⟨x, hx, he⟩ := List.mem_map.mp h
    cases he
    exact ⟨.unrestricted, NameMap.mem_entries_iff.mp hx, by simp, by simp⟩
  · obtain ⟨x, hx, he⟩ := List.mem_map.mp h
    cases he
    exact ⟨.restricted, NameMap.mem_entries_iff.mp hx, by simp, by simp⟩

namespace Telemetry

variable {ε δ : Type} {m : Matching} {life : Lifecycle δ} {t t' : Telemetry ε δ}

/-! ## The rules in force -/

/-- Every name that is held stands on the channel that the rules in force choose. -/
def Faithful (m : Matching) (t : Telemetry ε δ) : Prop :=
  ∃ known, t.roster.Routed (t.route m) known

/-- Old rules that equal the new ones are those in force. -/
def Operation.Knows (t : Telemetry ε δ) : Operation ε → Prop
  | .reconfigure old new => old.rules = new.rules → t.settings.rules = new.rules
  | _ => True

/-- Each operation of a run knows the rules that are in force when its turn comes. -/
def Informed (run : List (Operation ε) → Telemetry ε δ) (operations : List (Operation ε)) : Prop :=
  ∀ before o later, operations = before ++ o :: later → o.Knows (run before)

theorem Informed.before {run : List (Operation ε) → Telemetry ε δ} {before later : List (Operation ε)}
    (h : Informed run (before ++ later)) : Informed run before := by
  intro first o rest he
  exact h first o (rest ++ later) (by simp [he])

namespace Faithful

theorem eq_route (h : Faithful m t) {name : String} {c : Channel} {e : ε}
    (he : t.roster.at? name c = some e) : c = t.route m name := by
  obtain ⟨known, h⟩ := h
  have hn := h name c
  rw [he] at hn
  simpa using (Bool.and_eq_true_iff.mp hn.symm).2

theorem keep (h : Faithful m t) (hk : t.KeepsRouting t') : Faithful m t' := by
  obtain ⟨known, h⟩ := h
  have hroute : t'.route m = t.route m := by
    funext name
    rw [route, hk.settings_eq, route]
  exact ⟨known, hroute ▸ h.of_at?_eq hk.at?_eq⟩

theorem remove (h : Faithful m t) (name : String) : Faithful m (t.remove name) := by
  obtain ⟨known, h⟩ := h
  refine ⟨fun n => n != name && known n, ?_⟩
  change Roster.Routed (if t.isStarted then _ else _) _ _
  split
  · exact h.remove name
  · exact (h.remove name).of_at?_eq (Roster.at?_clearRetired _)

theorem reconfigure (h : Faithful m t) (life : Lifecycle δ) {old new : Settings}
    (ho : old.rules = new.rules → t.settings.rules = new.rules) : Faithful m (t.reconfigure m life old new) := by
  refine keep ?_ (reconfigure_keepsRouting m life old new t)
  obtain ⟨known, h⟩ := h
  refine ⟨known, ?_⟩
  change Roster.Routed _ (Rule.route m new.rules) known
  split
  · rename_i hr
    rw [← ho hr]
    exact h
  · exact h.refresh _

theorem perform (h : Faithful m t) (life : Lifecycle δ) {o : Operation ε} (ho : o.Knows t) :
    Faithful m (t.perform m life o) := by
  cases o with
  | start answer => exact h.keep (start_keepsRouting life answer t)
  | close answers => exact h.keep (close_keepsRouting life answers t)
  | register name e =>
      obtain ⟨known, h⟩ := h
      exact ⟨_, h.register name e⟩
  | remove name => exact h.remove name
  | reconfigure old new => exact h.reconfigure life ho
  | reportEvent i => exact h.keep (reportEvent_keepsRouting t i)
  | sample report now answers =>
      rw [Telemetry.perform]
      split
      · rename_i hs
        exact h.keep (sample_keepsRouting hs)
      · exact h
  | writeEvent answers => exact h.keep (writeEvent_keepsRouting answers t)
  | receive text => exact h.keep (receive_keepsRouting t text)

theorem after (h : Faithful m t) {operations : List (Operation ε)}
    (hi : Informed (after m life t) operations) : Faithful m (after m life t operations) := by
  induction operations using List.reverseRecOn with
  | nil => exact h
  | append_singleton operations o ih =>
      rw [after_concat]
      exact (ih hi.before).perform life (hi operations o [] rfl)

end Faithful

/-! ## Cycles -/

/-- The metric was removed, and the rules in force then let it be reported on this occasion. -/
def RemovedThen (m : Matching) (run : List (Operation ε) → Telemetry ε δ) (operations : List (Operation ε))
    (x : ε × Occasion) : Prop :=
  ∃ before name later e, operations = before ++ .remove name :: later ∧
    (run before).roster.at? name ((run before).route m name) = some e ∧
    x ∈ Roster.finalOf (some (e, (run before).route m name))

theorem removedThen_of_mem_retired (hf : Faithful m t) (hs : Settled t) (hnone : t.roster.retired = [])
    {operations : List (Operation ε)} (hi : Informed (after m life t) operations) {x : ε × Occasion}
    (hx : x ∈ (after m life t operations).roster.retired) :
    RemovedThen m (after m life t) operations x := by
  obtain ⟨before, name, later, e, c, rfl, he, hfinal, -⟩ :=
    removedInSession_of_mem_retired m life hs hnone operations hx
  have hc := (hf.after hi.before).eq_route he
  exact ⟨before, name, later, e, rfl, hc ▸ he, hc ▸ hfinal⟩

/-- After any operations that know the rules in force, a cycle reports first what waits for its final report and
then the registered names. Of these it reports none that the rules in force deny, and the restricted ones are
withheld. What waits was removed, and is reported as the rules in force then have it. The report of what is
withheld has only marked values. -/
theorem quiet_after (m : Matching) (life : Lifecycle δ) (setup : Setup) (settings : Settings) (d : δ)
    (operations : List (Operation Reporter))
    (h : Informed (after m life (create setup settings d)) operations) :
    let run := after m life (create setup settings d)
    let t := run operations
    ∀ (c : Context) (size tick every : Nat),
      (t.roster.cycle (fun e o => e.report c o) size tick every = do
        let reports ← (t.roster.retired ++ (t.roster.samples tick every).map (·.2)).mapM fun x => x.1.report c x.2
        return ((reports.foldl Batch.write (.ofSize size)).finish.2, t.roster.clearRetired)) ∧
      (∀ name e o, (name, e, o) ∈ t.roster.samples tick every →
        t.roster.at? name (t.route m name) = some e ∧ t.route m name ≠ .denied ∧
          (t.route m name = .restricted → o = .withheldSample)) ∧
      (∀ x ∈ t.roster.retired, RemovedThen m run operations x) ∧
      ∀ (e : Reporter) o report, e.report c o = .ok report → o.isWithheld = true → report.Withholds := by
  intro run t c size tick every
  have hcreate : Faithful m (create setup settings d : Telemetry Reporter δ) :=
    ⟨_, Roster.Routed.of_empty _⟩
  refine ⟨?_, fun name e o hx => ?_, fun x hx => ?_, fun e o report hr => (Report.obeys_report hr).withholds⟩
  · rw [Roster.cycle_eq_mapM, Roster.due_eq]
    cases (t.roster.retired ++ (t.roster.samples tick every).map (·.2)).mapM fun x => x.1.report c x.2 <;> rfl
  · obtain ⟨k, he, hk⟩ := Roster.at?_of_mem_samples hx
    have hroute : k = t.route m name := (hcreate.after h).eq_route he
    exact hroute ▸ ⟨he, hk⟩
  · exact removedThen_of_mem_retired hcreate (fun _ => rfl) rfl h hx

/-- A name that is denied after it was registered is not sampled any more. -/
theorem quiet_after_denial :
    let m : Matching := fun _ _ => true
    let denying : Settings := { Settings.defaults with rules := [.deniedGlobally] }
    let setup := Setup.ofSocket .empty ⟨"node", "datacenter", "rack", "cluster"⟩
    let operations : List (Operation Reporter) := [
      .start .refused, .register "Table.Reads" ⟨"table.reads", .counter 3⟩,
      .reconfigure .defaults denying]
    let run := after m Tally.life (create setup .defaults ({} : Tally))
    Informed run operations ∧ (run operations).roster.at? "Table.Reads" .denied ≠ none ∧
      (run operations).route m "Table.Reads" = .denied ∧
      ∀ e o, ("Table.Reads", e, o) ∉ (run operations).roster.samples 0 1 := by
  intro m denying setup operations run
  have hroute : (run operations).route m "Table.Reads" = .denied := rfl
  have hi : Informed run operations := by
    intro before o later he
    cases o with
    | reconfigure old new =>
        have hmem : Operation.reconfigure old new ∈ operations := by simp [he]
        have hnew : old = .defaults ∧ new = denying := by simpa [operations] using hmem
        intro hr
        rw [hnew.1, hnew.2] at hr
        cases hr
    | _ => trivial
  have hq := quiet_after m Tally.life setup .defaults ({} : Tally) operations hi
    ⟨"node", 30, .seconds, .microseconds, [], 0⟩ 256 0 1
  exact ⟨hi, by decide, hroute, fun e o hx => (hq.2.1 _ e o hx).2.1 hroute⟩

/-- Denying rules that are taken for the old ones are not applied. -/
example :
    let m : Matching := fun _ _ => true
    let denying : Settings := { Settings.defaults with rules := [.deniedGlobally] }
    let setup := Setup.ofSocket .empty ⟨"node", "datacenter", "rack", "cluster"⟩
    let t := after m Tally.life (create setup .defaults ({} : Tally)) [
      .register "Table.Reads" 0, .reconfigure denying denying]
    t.route m "Table.Reads" = .denied ∧ t.roster.samples 0 1 = [("Table.Reads", 0, .sample)] := by
  decide +kernel

/-- A metric that was removed before its name was denied still has an unmarked final report. -/
theorem final_report_of_denied_name :
    let m : Matching := fun _ _ => true
    let denying : Settings := { Settings.defaults with rules := [.deniedGlobally] }
    let setup := Setup.ofSocket .empty ⟨"node", "datacenter", "rack", "cluster"⟩
    let reads : Reporter := ⟨"table.reads", .counter 3⟩
    let removed := after m Tally.life (create setup .defaults ({} : Tally)) [
      .start .refused, .register "Table.Reads" reads, .remove "Table.Reads"]
    let t := removed.reconfigure m Tally.life .defaults denying
    removed.settings = .defaults ∧ t.route m "Table.Reads" = .denied ∧ (reads, .final false) ∈ t.roster.due 0 1 ∧
      ∀ c, ∃ v, (reads.report c (.final false)).map (·.items) = .ok [.values v] ∧ v.tags = "" := by
  intro m denying setup reads removed t
  have hretired : t.roster.retired = [(reads, .final false)] := by
    rw [(reconfigure_frame m Tally.life .defaults denying removed).2.1, retired_rerouted]
    rfl
  refine ⟨rfl, rfl, ?_, fun c => ⟨_, rfl, rfl⟩⟩
  rw [Roster.due_eq, hretired]
  exact List.mem_cons_self

end Telemetry

end MetricsAgent
