import Mathlib.Algebra.Order.Floor.Div
import MetricsAgent.Proofs.Cycle.Invocations
import MetricsAgent.Proofs.Report.Marking

/-!
# Batches of commands

The flushes of a batch divide the reports that are written through it into groups. Each group but the last has
enough commands to fill the batch, and has them only with its last report; what is left is flushed at the end.
A report that is one command has no flush of its own, so the flushes of such reports are those of the batch
alone, and can be counted.
-/

namespace MetricsAgent

namespace Report

variable {c : Context} {name : String} {o : Occasion} {r : Report}

/-- The number of commands of some reports. -/
def commands (rs : List Report) : Nat := (rs.flatMap outputs).countP Output.isCommand

theorem commands_append (rs ss : List Report) : commands (rs ++ ss) = commands rs + commands ss := by
  simp [commands]

theorem Counts.commands_singleton (h : r.Counts) : commands [r] = r.sent := by
  rw [h, commands, List.flatMap_singleton]

theorem commands_eq_length {rs : List Report} (h : ∀ r ∈ rs, commands [r] = 1) :
    commands rs = rs.length := by
  induction rs with
  | nil => rfl
  | cons r rs ih =>
      rw [← List.singleton_append, commands_append, h r (by simp), ih fun s hs => h s (by simp [hs]),
        List.length_append, List.length_singleton]

/-! ## Reports of one command -/

/-- The report has a value list before anything else. -/
def Begins (r : Report) : Prop := r.items = [] ∨ ∃ v rest, r.items = .values v :: rest

theorem begins_report {m : Metric} (h : m.report c name o = .ok r) : Begins r := by
  cases isComposed_report h with
  | empty => exact .inl rfl
  | plain => exact .inr ⟨_, _, rfl⟩
  | marked lists hl =>
      obtain ⟨first, rest, rfl⟩ := List.exists_cons_of_ne_nil hl
      exact .inr ⟨_, _, rfl⟩

theorem flush_not_mem_of_marked {x : ReportItem} (h : x.IsMarked) : x ≠ .flush := by
  cases h
  simp

/-- A flush comes with an insight. -/
theorem Obeys.insight_mem_of_flush_mem (h : Obeys o r) (hf : .flush ∈ r.items) :
    ∃ i, .insight i ∈ r.items := by
  cases ho : o.isWithheld with
  | true => exact absurd rfl (flush_not_mem_of_marked (h.withholds ho _ hf))
  | false =>
      rcases h.reaches ho with he | ⟨before, part, after, he, hp, hm⟩
      · simp [he] at hf
      · rw [he, List.append_assoc, List.mem_append, List.mem_append] at hf
        rcases hf with hf | hf | hf
        · exact absurd rfl (flush_not_mem_of_marked (hm _ (List.mem_append_left _ hf)))
        · cases hp with
          | values => simp at hf
          | insight i => exact ⟨i, by simp [he]⟩
        · exact absurd rfl (flush_not_mem_of_marked (hm _ (List.mem_append_right _ hf)))

/-- A metric that sends one command does not flush. -/
theorem flush_not_mem_outputs {m : Metric} (h : m.report c name o = .ok r) (hone : commands [r] = 1) :
    .flush ∉ r.outputs := by
  have hobeys := obeys_report h
  intro hf
  obtain ⟨x, hx, hxo⟩ := List.mem_map.mp hf
  have hx : .flush ∈ r.items := by
    cases x with
    | flush => exact hx
    | values v => cases hxo
    | insight i => cases hxo
  obtain ⟨i, hi⟩ := hobeys.insight_mem_of_flush_mem hx
  rcases begins_report h with he | ⟨v, rest, he⟩
  · simp [he] at hi
  · -- The value list and the insight are two commands.
    have hi : .insight i ∈ rest := by simpa [he] using hi
    have hrest : 0 < (rest.map ReportItem.output).countP Output.isCommand :=
      List.countP_pos_iff.mpr ⟨_, List.mem_map_of_mem hi, rfl⟩
    simp only [commands, List.flatMap_singleton, outputs, he, List.map_cons, List.countP_cons] at hone
    simp only [ReportItem.output, Output.isCommand, ↓reduceIte] at hone
    omega

end Report

namespace Batch

open Report (commands)

variable {b : Batch} {size : Nat} {groups : List (List Report)} {rest : List Report} {r : Report}

/-- The reports fill a batch with the last of them, and not before. -/
structure Fills (size : Nat) (group : List Report) : Prop where
  size_le : size ≤ commands group
  exists_last : ∃ before last, group = before ++ [last] ∧ 0 < commands [last] ∧ commands before < size

/-- The outputs of groups that are flushed one after the other. -/
def flushed (groups : List (List Report)) : List Output :=
  groups.flatMap fun g => g.flatMap Report.outputs ++ [.flush]

/-- The batch has flushed some groups, each of which filled it, and the rest does not fill it yet. -/
structure Divides (size : Nat) (b : Batch) (groups : List (List Report)) (rest : List Report) : Prop where
  size_eq : b.size = size
  fills : ∀ g ∈ groups, Fills size g
  part : commands rest < size
  pending_eq : b.pending = commands rest
  outputs_eq : b.outputs = flushed groups ++ rest.flatMap Report.outputs

/-! ## Writing -/

theorem divides_ofSize (size : Nat) : Divides (max size 1) (ofSize size) [] [] where
  size_eq := rfl
  fills := by simp
  part := Nat.lt_of_lt_of_le Nat.zero_lt_one (Nat.le_max_right ..)
  pending_eq := rfl
  outputs_eq := rfl

namespace Divides

theorem write (h : Divides size b groups rest) (hr : r.Counts) :
    Divides size (b.write r) (groups ++ [rest ++ [r]]) [] ∨
    Divides size (b.write r) groups (rest ++ [r]) := by
  have hall : b.pending + r.sent = commands (rest ++ [r]) := by
    rw [Report.commands_append, hr.commands_singleton, h.pending_eq]
  have hout : b.outputs ++ r.outputs = flushed groups ++ (rest ++ [r]).flatMap Report.outputs := by
    simp [h.outputs_eq]
  have hpart := h.part
  simp only [Batch.write, hall, hout, h.size_eq]
  split
  · rename_i hfull
    left
    refine ⟨rfl, fun g hg => ?_, ?_, rfl, ?_⟩
    · rcases List.mem_append.mp hg with hg | hg
      · exact h.fills g hg
      · cases List.mem_singleton.mp hg
        refine ⟨hfull, rest, r, rfl, ?_, hpart⟩
        rw [Report.commands_append] at hfull
        omega
    · exact Nat.lt_of_le_of_lt (Nat.zero_le _) hpart
    · simp [flushed]
  · rename_i hfull
    right
    exact ⟨rfl, h.fills, Nat.lt_of_not_le hfull, rfl, rfl⟩

theorem writes (h : Divides size b groups rest) {rs : List Report} (hrs : ∀ r ∈ rs, r.Counts) :
    ∃ groups' rest', Divides size (rs.foldl Batch.write b) groups' rest' ∧
      groups'.flatten ++ rest' = groups.flatten ++ rest ++ rs := by
  induction rs generalizing b groups rest with
  | nil => exact ⟨groups, rest, h, (List.append_nil _).symm⟩
  | cons r rs ih =>
      have hlater : ∀ s ∈ rs, s.Counts := fun s hs => hrs s (List.mem_cons_of_mem _ hs)
      rcases h.write (hrs r List.mem_cons_self) with h | h
      · obtain ⟨groups', rest', hd, he⟩ := ih h hlater
        exact ⟨groups', rest', hd, by simpa using he⟩
      · obtain ⟨groups', rest', hd, he⟩ := ih h hlater
        exact ⟨groups', rest', hd, by simpa using he⟩

/-! ## The end -/

theorem finish_eq (h : Divides size b groups rest) :
    b.finish = (decide (0 < commands rest), b.outputs ++ if 0 < commands rest then [.flush] else []) := by
  simp only [finish, h.pending_eq]
  split <;> simp [*]

end Divides

/-- Every command is followed by a flush. -/
def Flushes (outputs : List Output) : Prop :=
  ∀ before c after, outputs = before ++ .command c :: after → .flush ∈ after

theorem Flushes.append_flush (outputs : List Output) : Flushes (outputs ++ [.flush]) := by
  intro before c after he
  rcases List.eq_nil_or_concat' after with rfl | ⟨after, x, rfl⟩
  · have hlast := congrArg List.getLast? he
    simp at hlast
  · have hlast := congrArg List.getLast? he
    rw [← List.cons_append, ← List.append_assoc, List.getLast?_concat, List.getLast?_concat] at hlast
    cases hlast
    simp

theorem Flushes.append (outputs others : List Output) (h : Flushes outputs)
    (hn : others.countP Output.isCommand = 0) : Flushes (outputs ++ others) := by
  intro before c after he
  rcases List.append_eq_append_iff.mp he with ⟨mid, hb, ho⟩ | ⟨mid, ho, ha⟩
  · -- The command would be one of the others.
    rw [ho, List.countP_append, List.countP_cons] at hn
    simp [Output.isCommand] at hn
  · cases mid with
    | nil =>
        rw [List.nil_append] at ha
        rw [← ha, List.countP_cons] at hn
        simp [Output.isCommand] at hn
    | cons x mid =>
        simp only [List.cons_append, List.cons.injEq] at ha
        obtain ⟨rfl, rfl⟩ := ha
        exact List.mem_append_left _ (h before c mid ho)

theorem flushes_flushed (groups : List (List Report)) : Flushes (flushed groups) := by
  rcases List.eq_nil_or_concat' groups with rfl | ⟨groups, g, rfl⟩
  · intro before c after he
    simp [flushed] at he
  · have he : flushed (groups ++ [g]) = flushed groups ++ g.flatMap Report.outputs ++ [.flush] := by
      simp [flushed]
    rw [he]
    exact .append_flush _

theorem Divides.flushes_finish (h : Divides size b groups rest) : Flushes b.finish.2 := by
  rw [h.finish_eq]
  split
  · exact .append_flush _
  · rename_i hn
    rw [List.append_nil, h.outputs_eq]
    exact (flushes_flushed groups).append _ _ (Nat.eq_zero_of_not_pos hn)

/-! ## Counting flushes -/

theorem Fills.length_eq {g : List Report} (h : Fills size g) (hone : ∀ r ∈ g, commands [r] = 1) :
    g.length = size := by
  obtain ⟨hsize, before, last, rfl, _, hlt⟩ := h
  have hbefore : commands before = before.length :=
    Report.commands_eq_length fun r hr => hone r (List.mem_append_left _ hr)
  rw [Report.commands_eq_length hone, List.length_append, List.length_singleton] at hsize
  rw [List.length_append, List.length_singleton]
  omega

theorem length_flatten_of_fills (h : ∀ g ∈ groups, Fills size g)
    (hone : ∀ r ∈ groups.flatten, commands [r] = 1) : groups.flatten.length = groups.length * size := by
  induction groups with
  | nil => simp
  | cons g groups ih =>
      have hg := (h g (by simp)).length_eq fun r hr => hone r (by simp [hr])
      have hgroups := ih (fun g' hg' => h g' (by simp [hg'])) fun r hr =>
        hone r (List.mem_append_right g hr)
      rw [List.flatten_cons, List.length_append, hg, hgroups, List.length_cons, Nat.succ_mul, Nat.add_comm]

theorem count_flush_flatMap_outputs {rs : List Report} (h : ∀ r ∈ rs, .flush ∉ r.outputs) :
    (rs.flatMap Report.outputs).count .flush = 0 := by
  rw [List.count_eq_zero]
  intro hf
  obtain ⟨r, hr, hf⟩ := List.mem_flatMap.mp hf
  exact h r hr hf

theorem count_flush_flushed (h : ∀ r ∈ groups.flatten, .flush ∉ r.outputs) :
    (flushed groups).count .flush = groups.length := by
  induction groups with
  | nil => rfl
  | cons g groups ih =>
      have hg := count_flush_flatMap_outputs fun r hr => h r (List.mem_append_left groups.flatten hr)
      have hgroups := ih fun r hr => h r (List.mem_append_right g hr)
      rw [flushed, List.flatMap_cons, List.count_append, List.count_append, hg, ← flushed, hgroups]
      simp [Nat.add_comm]

theorem ceilDiv_of_part {size part : Nat} (n : Nat) (h : part < size) :
    (n * size + part) ⌈/⌉ size = n + if 0 < part then 1 else 0 := by
  have hpos : 0 < size := Nat.zero_lt_of_lt h
  rw [Nat.ceilDiv_eq_add_pred_div, Nat.add_assoc, Nat.add_sub_assoc (by omega), Nat.add_comm,
    Nat.add_mul_div_right _ _ hpos, Nat.add_comm]
  congr 1
  split
  · apply Nat.div_eq_of_lt_le <;> omega
  · apply Nat.div_eq_of_lt
    omega

theorem Divides.count_flush_finish (h : Divides size b groups rest)
    (hone : ∀ r ∈ groups.flatten ++ rest, commands [r] = 1 ∧ .flush ∉ r.outputs) :
    b.finish.2.count .flush = (groups.flatten ++ rest).length ⌈/⌉ size := by
  have hrest : commands rest = rest.length :=
    Report.commands_eq_length fun r hr => (hone r (List.mem_append_right _ hr)).1
  have hgroups := length_flatten_of_fills h.fills fun r hr => (hone r (List.mem_append_left _ hr)).1
  have hflushed := count_flush_flushed fun r hr => (hone r (List.mem_append_left rest hr)).2
  have hpart := count_flush_flatMap_outputs fun r hr => (hone r (List.mem_append_right groups.flatten hr)).2
  rw [List.length_append, hgroups, ← hrest, ceilDiv_of_part _ h.part, h.finish_eq, h.outputs_eq,
    List.count_append, List.count_append, hflushed, hpart]
  split <;> simp

/-! ## Batches of metrics -/

theorem exists_reports {due : List ((Context × Reporter) × Occasion)}
    (h : ∀ x ∈ due, x.1.2.metric.Fits) :
    ∃ reports, (due.mapM fun x => x.1.2.report x.1.1 x.2) = .ok reports ∧
      reports.length = due.length ∧
      ∀ r ∈ reports, ∃ (c : Context) (e : Reporter) (o : Occasion), e.report c o = .ok r := by
  induction due with
  | nil => exact ⟨[], rfl, rfl, by simp⟩
  | cons x due ih =>
      obtain ⟨r, hr⟩ := Report.returns_report (h x List.mem_cons_self) x.1.1 x.1.2.name x.2
      obtain ⟨reports, hm, hl, hall⟩ := ih fun y hy => h y (List.mem_cons_of_mem _ hy)
      have hr : x.1.2.report x.1.1 x.2 = .ok r := hr
      refine ⟨r :: reports, ?_, by simp [hl], ?_⟩
      · rw [List.mapM_cons, hr, hm]
        rfl
      · intro s hs
        rcases List.mem_cons.mp hs with rfl | hs
        · exact ⟨_, _, _, hr⟩
        · exact hall s hs

/-- Metrics are written through a batch in groups that it flushes, each of which fills it with the last of its
metrics and not before; the rest is flushed at the end if there is a command in it, and then every command is
followed by a flush. Metrics of one command each are flushed once for every `max size 1` of them, and
once more for a rest. -/
theorem writeAll_divides (size : Nat) (due : List ((Context × Reporter) × Occasion))
    (hfits : ∀ x ∈ due, x.1.2.metric.Fits) :
    ∃ (b : Batch) (reports : List Report) (groups : List (List Report)) (rest : List Report),
      (ofSize size).writeAll (fun x o => x.2.report x.1 o) due = .ok b ∧
      (due.mapM fun x => x.1.2.report x.1.1 x.2) = .ok reports ∧
      groups.flatten ++ rest = reports ∧
      (∀ g ∈ groups, Fills (max size 1) g) ∧
      commands rest < max size 1 ∧
      b.outputs = flushed groups ++ rest.flatMap Report.outputs ∧
      b.finish = (decide (0 < commands rest),
        b.outputs ++ if 0 < commands rest then [.flush] else []) ∧
      Flushes b.finish.2 ∧
      ((∀ r ∈ reports, commands [r] = 1) →
        b.finish.2.count .flush = due.length ⌈/⌉ max size 1) := by
  obtain ⟨reports, hm, hl, hall⟩ := exists_reports hfits
  have hcounts : ∀ r ∈ reports, r.Counts := by
    intro r hr
    obtain ⟨c, e, o, h⟩ := hall r hr
    exact (Report.obeys_report h).counts
  obtain ⟨groups, rest, hd, he⟩ := (divides_ofSize size).writes hcounts
  have he : groups.flatten ++ rest = reports := he
  refine ⟨_, reports, groups, rest, ?_, hm, he, hd.fills, hd.part, hd.outputs_eq, hd.finish_eq,
    hd.flushes_finish, fun hone => ?_⟩
  · rw [writeAll_eq_mapM, hm]
    rfl
  · rw [hd.count_flush_finish, he, hl]
    intro r hr
    rw [he] at hr
    obtain ⟨c, e, o, h⟩ := hall r hr
    exact ⟨hone r hr, Report.flush_not_mem_outputs h (hone r hr)⟩

/-- Three counters in batches of two commands are flushed twice. -/
theorem writeAll_divides_counters :
    let c : Context := ⟨"10.0.0.1", 30, .seconds, .microseconds, [], 0⟩
    let due : List ((Context × Reporter) × Occasion) :=
      [((c, .ofMetric "Reads" (.counter 7)), .sample), ((c, .ofMetric "Writes" (.counter 5)), .final true),
        ((c, .ofMetric "Scans" (.counter 2)), .withheldSample)]
    (∀ x ∈ due, x.1.2.metric.Fits) ∧
    ∃ b, (ofSize 2).writeAll (fun x o => x.2.report x.1 o) due = .ok b ∧ Flushes b.finish.2 ∧
      b.finish.2.count .flush = 2 := by
  intro c due
  have hfits : ∀ x ∈ due, x.1.2.metric.Fits := by simp [due, Reporter.ofMetric, Metric.Fits]
  obtain ⟨b, reports, _, _, hb, hm, _, _, _, _, _, hf, hcount⟩ := writeAll_divides 2 due hfits
  cases hm
  refine ⟨hfits, b, hb, hf, ?_⟩
  rw [hcount, Nat.ceilDiv_eq_add_pred_div]
  · simp [due]
  · intro r hr
    simp only [List.mem_reverse, List.mem_cons, List.not_mem_nil, or_false] at hr
    rcases hr with rfl | rfl | rfl <;> rfl

end Batch

end MetricsAgent
