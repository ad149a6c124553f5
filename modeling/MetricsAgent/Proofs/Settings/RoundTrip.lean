import MetricsAgent.Proofs.Settings.Writers
import MetricsAgent.Rule.Verdict

/-!
# Settings that are written and read back

Settings are written as a record of all their fields, rules in order and each with its policy and scope as texts. Any
letter case of these will do: whatever the format, the settings that are read back are those that were written.
-/

namespace MetricsAgent

open Json

variable {α : Type} {form : Form α}

/-! ## Rules -/

/-- Of two values whose texts differ in more than their letter case, a spelling finds the one that it spells. -/
theorem find?_sameIgnoringCase {β : Type} {textOf : β → String} {a b c : β} {text : String}
    (hapart : sameIgnoringCase (textOf b) (textOf a) = false) (hc : c = a ∨ c = b)
    (h : sameIgnoringCase text (textOf c) = true) : [a, b].find? (sameIgnoringCase text <| textOf ·) = some c := by
  rcases hc with rfl | rfl
  · simp [h]
  · have hfirst : sameIgnoringCase text (textOf a) = false := by
      rw [sameIgnoringCase, beq_iff_eq] at h
      rwa [sameIgnoringCase, h]
    simp [hfirst, h]

theorem Policy.ofText?_of_sameIgnoringCase {p : Policy} {text : String} (h : sameIgnoringCase text p.text = true) :
    ofText? text = some p :=
  find?_sameIgnoringCase (by decide) (by cases p <;> simp) h

theorem Scope.ofText?_of_sameIgnoringCase {s : Scope} {text : String} (h : sameIgnoringCase text s.text = true) :
    ofText? text = some s :=
  find?_sameIgnoringCase (by decide) (by cases s <;> simp) h

theorem sameIgnoringCase_refl (text : String) : sameIgnoringCase text text = true :=
  beq_self_eq_true _

/-- A rule with texts for its policy and its scope, each in any letter case. -/
structure SpeltRule where
  rule : Rule
  policy : String
  scope : String
  policy_same : sameIgnoringCase policy rule.policy.text = true
  scope_same : sameIgnoringCase scope rule.scope.text = true

namespace SpeltRule

/-- The rule with its policy and scope in lower case. -/
def canonical (r : Rule) : SpeltRule :=
  ⟨r, r.policy.text, r.scope.text, sameIgnoringCase_refl _, sameIgnoringCase_refl _⟩

def members (w : form.Writer) (r : SpeltRule) : List (String × α) :=
  [("policy", w.text r.policy), ("pattern", w.text r.rule.pattern.source), ("scope", w.text r.scope)]

/-- The record of a rule. -/
def tree (w : form.Writer) (r : SpeltRule) : α :=
  w.record (r.members w)

theorem parse_eq (r : SpeltRule) : Rule.parse r.policy r.rule.pattern.source r.scope = .ok r.rule := by
  rw [Rule.parse, Policy.ofText?_of_sameIgnoringCase r.policy_same, Scope.ofText?_of_sameIgnoringCase r.scope_same,
    Pattern.ofText?_source]
  rfl

example : (Rule.parse "DENY" ".*" "DataLog").toOption = some .deniedRestricted := by decide +kernel

theorem ofTree?_tree (w : form.Writer) (r : SpeltRule) : Rule.ofTree? form (r.tree w) = some r.rule := by
  obtain ⟨members, hmembers, hlookup⟩ := w.record?_record Rule.fieldNames (r.members w) rfl (by decide)
  rw [Rule.ofTree?, tree, hmembers]
  simp [field?, hlookup, SpeltRule.members, List.lookup_cons, w.text?_text, r.parse_eq, Except.toOption]

theorem exact_tree {depth : Nat} (r : SpeltRule) : (r.tree writer).Exact (depth + 1) := by
  refine .ofMembers (by simp [members]) ?_
  simp only [members, List.forall_mem_cons]
  exact ⟨.string _, .string _, .string _, by simp⟩

end SpeltRule

/-! ## Settings -/

namespace Settings

/-- The settings' rules, each with texts for its policy and its scope. -/
structure Spelling (s : Settings) where
  rules : List SpeltRule
  rules_eq : rules.map (·.rule) = s.rules

/-- The settings of a JSON text. -/
def ofJson? (text : String) : Option Settings := do
  let d ← Document.read? text
  ofValue? (← d.value? depthLimit)

namespace Spelling

variable {s : Settings}

/-- All policies and scopes in lower case. -/
def canonical (s : Settings) : s.Spelling where
  rules := s.rules.map .canonical
  rules_eq := by
    rw [List.map_map]
    exact List.map_id _

def members (w : form.Writer) (p : s.Spelling) : List (String × α) :=
  [("collectd_root", w.optionalText s.daemonRoot),
    ("log_dir", w.text s.logDir),
    ("data_dir", w.text s.dataDir),
    ("data_dir_max_size_in_mb", w.uint64 s.dataDirMaxSize),
    ("metric_sampling_interval_in_seconds", w.uint64 s.samplingInterval),
    ("upload_interval_in_seconds", w.uint64 s.uploadInterval),
    ("upload_url", w.text s.uploadUrl),
    ("insights_upload_enabled", w.bool s.uploadEnabled),
    ("insights_streaming_enabled", w.bool s.streamingEnabled),
    ("write_to_disk_enabled", w.bool s.diskEnabled),
    ("insights_token", w.optionalText s.token),
    ("filtering_rules", w.list (p.rules.map (·.tree w)))]

/-- The record of the settings. -/
def tree (w : form.Writer) (p : s.Spelling) : α :=
  w.record (p.members w)

/-- The object of settings is their record with all policies and scopes in lower case. -/
theorem tree_canonical (s : Settings) : (canonical s).tree writer = s.value := by
  rw [tree, members, canonical, List.map_map]
  rfl

theorem ofTree?_tree (w : form.Writer) (p : s.Spelling) : ofTree? form (p.tree w) = some s := by
  obtain ⟨ms, hms, hlookup⟩ := w.record?_record fieldNames (p.members w) rfl (by decide)
  have hrules : form.list? (Rule.ofTree? form) (w.list (p.rules.map (·.tree w))) = some s.rules :=
    p.rules_eq ▸ w.list?_list (SpeltRule.ofTree?_tree w) p.rules
  have field {β : Type} {name : String} {a : α} {default b : β} {read : α → Option β} {f : β → Option Settings}
      (hm : (p.members w).lookup name = some a) (hread : read a = some b) :
      (fieldOr? ms name default read >>= f) = f b := by
    rw [fieldOr?, hlookup, hm]
    exact congrArg (· >>= f) hread
  rw [ofTree?, tree, hms]
  -- The fields are read one after the other, in the order of the record.
  refine Eq.trans (field rfl (w.optional?_optionalText _)) ?_
  refine Eq.trans (field rfl (w.text?_text _)) ?_
  refine Eq.trans (field rfl (w.text?_text _)) ?_
  refine Eq.trans (field rfl (w.uint64?_uint64 _)) ?_
  refine Eq.trans (field rfl (w.uint64?_uint64 _)) ?_
  refine Eq.trans (field rfl (w.uint64?_uint64 _)) ?_
  refine Eq.trans (field rfl (w.text?_text _)) ?_
  refine Eq.trans (field rfl (w.bool?_bool _)) ?_
  refine Eq.trans (field rfl (w.bool?_bool _)) ?_
  refine Eq.trans (field rfl (w.bool?_bool _)) ?_
  refine Eq.trans (field rfl (w.optional?_optionalText _)) ?_
  exact Eq.trans (field rfl hrules) rfl

theorem exact_tree {depth : Nat} (p : s.Spelling) : (p.tree writer).Exact (depth + 3) := by
  have hrules : ∀ v ∈ p.rules.map (·.tree writer), v.Exact (depth + 1) :=
    List.forall_mem_map.mpr fun r _ => r.exact_tree
  refine .ofMembers (by simp [members]) ?_
  simp only [members, List.forall_mem_cons]
  exact ⟨exact_optionalText _, .string _, .string _, exact_uint64 _, exact_uint64 _, exact_uint64 _, .string _, .bool _,
    .bool _, .bool _, exact_optionalText _, .array hrules, by simp⟩

/-- The compact JSON text of settings is read back, since they are not nested deeper than is allowed. -/
theorem ofJson?_write (p : s.Spelling) : ofJson? (p.tree writer).write = some s := by
  have hexact : (p.tree writer).Exact depthLimit := p.exact_tree
  obtain ⟨d, hd, hvalue⟩ := hexact.exists_document
  have hread : ofValue? (p.tree writer) = some s := p.ofTree?_tree writer
  simp only [ofJson?, Document.read?_of_spells hd, hvalue, Option.bind_eq_bind, Option.bind_some, hread]

/-- The settings of a YAML text whose tree is their record. -/
theorem ofYaml?_of_root {text : String} {d : Yaml.Document} (htext : Yaml.Document.ofText? text = some d)
    {styling : Yaml.Styling} (p : s.Spelling) (hroot : d.root = p.tree (Yaml.writer d styling)) :
    ofYaml? text = some s := by
  simp only [ofYaml?, htext, hroot, Option.bind_eq_bind, Option.bind_some, p.ofTree?_tree]

end Spelling

/-- Settings are read back as they were written, whatever the letter case in which the policies and scopes of their
rules are spelt: from the trees of every writer, from their JSON text, and from a YAML text with their tree, whatever
the styling. The object that they are written as has all of these in lower case. The rules stand in the same order, so
they route every name alike. -/
theorem round_trip (s : Settings) (p : s.Spelling) :
    s.value = (Spelling.canonical s).tree Json.writer ∧ ofJson? s.value.write = some s ∧
    ofJson? (p.tree Json.writer).write = some s ∧
    (∀ (text : String) (d : Yaml.Document) (styling : Yaml.Styling), Yaml.Document.ofText? text = some d →
      d.root = p.tree (Yaml.writer d styling) → ofYaml? text = some s) ∧
    ∀ {α : Type} {form : Form α} (w : form.Writer), ofTree? form (p.tree w) = some s ∧
      ∀ (m : Matching) (name : String),
        (ofTree? form (p.tree w)).map (Rule.route m ·.rules name) = some (Rule.route m s.rules name) := by
  have hvalue := (Spelling.tree_canonical s).symm
  refine ⟨hvalue, ?_, p.ofJson?_write, fun text d styling htext => p.ofYaml?_of_root htext,
    fun w => ⟨p.ofTree?_tree w, fun m name => ?_⟩⟩
  · rw [hvalue, Spelling.ofJson?_write]
  · rw [p.ofTree?_tree w, Option.map_some]

end Settings

end MetricsAgent
