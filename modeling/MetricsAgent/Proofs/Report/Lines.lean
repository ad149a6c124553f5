import MetricsAgent.Proofs.Line.Values
import MetricsAgent.Proofs.Name.NormalForm
import MetricsAgent.Proofs.Report.Marking

/-!
# The lines of a report

Every value list of a report is filed under the host and the name that the report is made for, with one of a few
kinds and at most one tag. Its line has five fields and its path three parts, unless the name brings separators of
its own. Canonical names bring no slash, but those of the virtual machine's own metrics keep their blanks, and each of
them makes one field more.
-/

namespace MetricsAgent

/-! ## Value lists of a report -/

/-- A value list that a report of this name may have. -/
structure ValueList.IsFiled (c : Context) (name : String) (v : ValueList) : Prop where
  host : v.host = c.host
  name : v.name = name
  kind : v.kind ∈ valueKinds
  interval : v.interval = c.interval
  tags : v.tags = "" ∨ v.tags = withheldTag

theorem Report.isFiled_of_mem {c : Context} {name : String} {m : Metric} {o : Occasion} {r : Report} {v : ValueList}
    (h : m.report c name o = .ok r) (hv : .values v ∈ r.items) : v.IsFiled c name := by
  have htags : o.tags = "" ∨ o.tags = withheldTag := by
    unfold Occasion.tags
    split
    · exact .inr rfl
    · exact .inl rfl
  cases isComposed_report h with
  | empty => exact absurd hv List.not_mem_nil
  | plain hk fields =>
      cases List.mem_singleton.mp hv
      exact ⟨rfl, rfl, hk, rfl, htags⟩
  | marked lists _ hk kind tags payload =>
      rcases List.mem_append.mp hv with hv | hv
      · obtain ⟨l, hl, he⟩ := List.mem_map.mp hv
        cases he
        exact ⟨rfl, rfl, hk l hl, rfl, .inr rfl⟩
      · -- The insight has no values.
        unfold unlessWithheld at hv
        split at hv
        · exact absurd hv List.not_mem_nil
        · simp [insight] at hv

/-! ## Their lines -/

theorem isPathWord_of_mem_valueKinds {kind : String} (h : kind ∈ valueKinds) : IsPathWord kind := by
  have hall : ∀ kind ∈ valueKinds, IsField kind ∧ '/' ∉ kind.toList := by decide
  exact ⟨(hall kind h).1, (hall kind h).2⟩

namespace ValueList.IsFiled

variable {c : Context} {name : String} {v : ValueList}

theorem isField_tags (h : v.IsFiled c name) : IsField v.tags := by
  rcases h.tags with ht | ht <;> rw [ht] <;> decide

/-- The path has no separators but its own two slashes and those of the name. -/
theorem count_separators (h : v.IsFiled c name) (hc : IsPathWord c.host) :
    v.path.toList.count '/' = 2 + name.toList.count '/' ∧ v.path.toList.count ' ' = name.toList.count ' ' := by
  have hkind := isPathWord_of_mem_valueKinds h.kind
  constructor
  · have hmark : "/mcac-".toList.count '/' = 1 ∧ "/".toList.count '/' = 1 := by decide
    rw [v.count_path rfl, h.host, h.name, List.count_eq_zero_of_not_mem hc.slash_not_mem,
      List.count_eq_zero_of_not_mem hkind.slash_not_mem, hmark.1, hmark.2]
    omega
  · have hmark : "/mcac-".toList.count ' ' = 0 ∧ "/".toList.count ' ' = 0 := by decide
    rw [v.count_path rfl, h.host, h.name, List.count_eq_zero_of_not_mem hc.isField.blank_not_mem,
      List.count_eq_zero_of_not_mem hkind.isField.blank_not_mem, hmark.1, hmark.2]
    omega

theorem length_fields (h : v.IsFiled c name) (hc : IsPathWord c.host) :
    (fieldsOf? v.command.encode).map List.length = some (5 + name.toList.count ' ') := by
  rw [ValueList.fieldsOf?_encode h.isField_tags, Option.map_some, List.length_cons, List.length_append, length_partsAt,
    (h.count_separators hc).2]
  exact congrArg some (by simp; omega)

end ValueList.IsFiled

/-! ## Intact lines -/

/-- A text that is one line of five fields: the verb, a path in three parts, the interval, the tags and the values. -/
def IsIntact (interval : UInt64) (text : String) : Prop :=
  ∃ path tags values, fieldsOf? text = some ["PUTVAL", path, "interval=" ++ toString interval.toNat, tags, values] ∧
    path.toList.count '/' = 2 ∧ (tags = "" ∨ tags = withheldTag) ∧ (partsAt ':' values).head? = some "N"

/-- A blank is all that can be wrong with a name without slashes. -/
theorem ValueList.IsFiled.isIntact_iff {c : Context} {name : String} {v : ValueList} (h : v.IsFiled c name)
    (hc : IsPathWord c.host) (hn : '/' ∉ name.toList) :
    IsIntact c.interval v.command.encode ↔ ' ' ∉ name.toList := by
  obtain ⟨hslash, hblank⟩ := h.count_separators hc
  constructor
  · rintro ⟨_, _, _, hfields, _⟩
    have hlength := h.length_fields hc
    rw [hfields] at hlength
    exact List.count_eq_zero.mp (by simpa using hlength)
  · intro hb
    refine ⟨v.path, v.tags, v.valuesField, ?_, ?_, h.tags, ?_⟩
    · rw [List.count_eq_zero_of_not_mem hb, List.count_eq_zero] at hblank
      rw [ValueList.fieldsOf?_encode h.isField_tags, partsAt_eq_singleton hblank, ValueList.intervalField, h.interval]
      rfl
    · rw [hslash, List.count_eq_zero_of_not_mem hn]
    · rw [ValueList.partsAt_valuesField]
      rfl

namespace Report

/-- A metric is reported under any name, unless a table or a sum goes beyond 64 bits. Each of its lines is intact,
unless the name is one of the machine's own and has blanks; then the line has one field too many for each of them. -/
theorem lines_of_metric (name : String) (m : Metric) (c : Context) (o : Occasion) (hc : IsPathWord c.host) :
    match (Reporter.ofMetric name m).report c o with
    | .error _ => ¬ m.Fits
    | .ok r => ∀ p, .command (.putVal p) ∈ r.outputs →
        (IsIntact c.interval (Command.putVal p).encode ↔
          ¬ (name.startsWith Name.machineStart = true ∧ ' ' ∈ name.toList)) ∧
        (fieldsOf? (Command.putVal p).encode).map List.length
          = some (5 + if name.startsWith Name.machineStart then name.toList.count ' ' else 0) := by
  cases h : (Reporter.ofMetric name m).report c o with
  | error f =>
      intro hm
      obtain ⟨r, hr⟩ := returns_report hm c (Name.canonical name) o
      cases h.symm.trans hr
  | ok r =>
      intro p hp
      obtain ⟨item, hitem, hout⟩ := List.mem_map.mp hp
      cases item with
      | insight i => cases hout
      | flush => cases hout
      | values v =>
          have hv := isFiled_of_mem h hitem
          have hcommand : .putVal p = v.command := by
            injection hout with hout
            exact hout.symm
          have hblank := Name.count_blank_canonical name
          rw [hcommand, hv.isIntact_iff hc (Name.slash_not_mem_canonical name), hv.length_fields hc]
          refine ⟨?_, congrArg (some <| 5 + ·) hblank⟩
          rw [← List.count_eq_zero, show (Reporter.ofMetric name m).name = Name.canonical name from rfl, hblank]
          split
          · rename_i hm
            simp [hm, List.count_eq_zero]
          · rename_i hm
            simp [hm]

/-- A name of the machine with dashes. -/
theorem lines_of_metric_collections :
    let c : Context := .ofIdentity ⟨"node", "", "", ""⟩ 30 .seconds .microseconds 0
    IsPathWord c.host ∧
    ∃ r p, (Reporter.ofMetric "jvm.gc.G1-Young-Generation.count" (.counter 3)).report c .sample = .ok r ∧
      r.outputs = [.command (.putVal p)] ∧ p = "node/mcac-jvm.gc.g1_young_generation.count/counter interval=30  N:3" ∧
      IsIntact c.interval (Command.putVal p).encode := by
  intro c
  have hc : IsPathWord c.host := ⟨by decide, by decide⟩
  have hlines := lines_of_metric "jvm.gc.G1-Young-Generation.count" (.counter 3) c .sample hc
  have hname : Name.canonical "jvm.gc.G1-Young-Generation.count" = "jvm.gc.g1_young_generation.count" :=
    Name.canonical_eq_of_machine (by decide) (by decide)
  refine ⟨hc, _, _, rfl, rfl, ?_, (hlines _ List.mem_cons_self).1.mpr fun h => ?_⟩
  · show ValueList.payload ⟨c.host, Name.canonical _, _, _, _, _⟩ = _
    rw [hname]
    decide
  · exact absurd h.2 (by decide)

/-- With blanks in place of the dashes the path ends too early. -/
theorem line_of_blank_name :
    let c : Context := .ofIdentity ⟨"node", "", "", ""⟩ 30 .seconds .microseconds 0
    IsPathWord c.host ∧
    ∃ r p, (Reporter.ofMetric "jvm.gc.G1 Young Generation.count" (.counter 3)).report c .sample = .ok r ∧
      r.outputs = [.command (.putVal p)] ∧ p = "node/mcac-jvm.gc.g1 young generation.count/counter interval=30  N:3" ∧
      fieldsOf? (Command.putVal p).encode = some ["PUTVAL", "node/mcac-jvm.gc.g1", "young", "generation.count/counter",
        "interval=30", "", "N:3"] ∧
      ¬ IsIntact c.interval (Command.putVal p).encode := by
  intro c
  have hname : Name.canonical "jvm.gc.G1 Young Generation.count" = "jvm.gc.g1 young generation.count" :=
    Name.canonical_eq_of_machine (by decide) (by decide)
  have hp : ValueList.payload ⟨c.host, Name.canonical "jvm.gc.G1 Young Generation.count", "counter", c.interval,
      Occasion.sample.tags, [.integer 3]⟩ = "node/mcac-jvm.gc.g1 young generation.count/counter interval=30  N:3" := by
    rw [hname]
    decide
  have hfields : fieldsOf? (Command.putVal
      "node/mcac-jvm.gc.g1 young generation.count/counter interval=30  N:3").encode = some ["PUTVAL",
        "node/mcac-jvm.gc.g1", "young", "generation.count/counter", "interval=30", "", "N:3"] := by
    decide
  refine ⟨⟨by decide, by decide⟩, _, _, rfl, congrArg (fun p => [Output.command (.putVal p)]) hp, rfl, hfields, ?_⟩
  rintro ⟨_, _, _, h, _⟩
  have hlength := congrArg (Option.map List.length) (hfields.symm.trans h)
  simp at hlength

end Report

end MetricsAgent
