import MetricsAgent.Line.Command
import MetricsAgent.Proofs.Json.RoundTrip

/-!
# Insights on the wire

The line of an insight holds its JSON text as it is, since no string of it has a line break left, and a
receiver reads the insight back as it was.
-/

namespace MetricsAgent

open Json

namespace Insight

/-- What the fields of an insight can hold, if its data has no doubles. -/
structure Portable (i : Insight) : Prop where
  isInt64 : Int64.minValue.toInt ≤ i.timestamp ∧ i.timestamp ≤ Int64.maxValue.toInt
  tags : i.tags.Pairwise (·.1 < ·.1)
  /-- The object around the data is one level of the nesting. -/
  data : ∀ v ∈ i.data, v ≠ .null ∧ v.Exact (depthLimit - 1)

/-! ## Written -/

def tagsDocument (tags : List (String × String)) : Document :=
  .object (tags.map fun t => (some t.1, .string (some t.2)))

def metadataDocuments (i : Insight) : List (String × Document) :=
  [("name", .string (some i.name)), ("timestamp", .number (.ofInt i.timestamp)),
    ("tags", tagsDocument i.tags), ("insightType", .string (some i.kind.text))]
  ++ match i.mappingId with
    | none => []
    | some id => [("insightMappingId", .string (some id))]

/-- The document of an insight whose data has the document `d`. -/
def document (i : Insight) (d : Document) : Document :=
  .object [(some "metadata", .object (i.metadataDocuments.map fun m => (some m.1, m.2))), (some "data", d)]

theorem spells_tags (tags : List (String × String)) :
    Spells (writeObject (tags.map fun t => (t.1, writeString t.2))).toList (tagsDocument tags) := by
  have h : List.Forall₂ SpellsMember
      (tags.map fun t => (t.1, writeString t.2))
      (tags.map fun t => (t.1, Document.string (some t.2))) := by
    rw [List.forall₂_map_left_iff, List.forall₂_map_right_iff, List.forall₂_same]
    exact fun t _ => ⟨rfl, .string t.2⟩
  have := Spells.object h
  rwa [List.map_map] at this

theorem spells_metadata (i : Insight) :
    Spells (writeObject i.metadataMembers).toList
      (.object (i.metadataDocuments.map fun m => (some m.1, m.2))) := by
  refine .object (List.rel_append ?_ ?_)
  · exact .cons ⟨rfl, .string _⟩ (.cons ⟨rfl, .integer _⟩
      (.cons ⟨rfl, spells_tags i.tags⟩ (.cons ⟨rfl, .string _⟩ .nil)))
  · cases i.mappingId with
    | none => exact .nil
    | some id => exact .cons ⟨rfl, .string id⟩ .nil

theorem optional?_of_ne_null {α : Type} {d : Document} (h : d ≠ .null) (read : Document → Option α) :
    Document.optional? read d = (read d).map some := by
  cases d with
  | null => contradiction
  | bool | number | string | array | object => rfl

theorem Portable.exists_data {i : Insight} (h : i.Portable) :
    ∃ d, Spells (i.data.getD .null).write.toList d ∧
      Document.optional? (Document.value? (depthLimit - 1)) d = some i.data := by
  cases hdata : i.data with
  | none => exact ⟨.null, .null, rfl⟩
  | some v =>
      obtain ⟨hne, hv⟩ := h.data v hdata
      obtain ⟨d, hd, hval⟩ := hv.exists_document
      refine ⟨d, hd, ?_⟩
      -- A document that is `null` would have no other value.
      have hd : d ≠ .null := by
        rintro rfl
        rw [Document.value?, Option.some.injEq] at hval
        exact hne hval.symm
      rw [optional?_of_ne_null hd, hval, Option.map_some]

theorem spells_write {i : Insight} {d : Document} (h : Spells (i.data.getD .null).write.toList d) :
    Spells i.write.toList (i.document d) := by
  have hmembers : List.Forall₂ SpellsMember
      [("metadata", writeObject i.metadataMembers), ("data", (i.data.getD .null).write)]
      [("metadata", .object (i.metadataDocuments.map fun m => (some m.1, m.2))), ("data", d)] :=
    .cons ⟨rfl, spells_metadata i⟩ (.cons ⟨rfl, h⟩ .nil)
  exact .object hmembers

theorem encode_putInsight {text : String} (h : ∀ c ∈ text.toList, 32 ≤ c.toNat) :
    (Command.putInsight text).encode = "PUTINSIGHT " ++ text ++ "\n" := by
  have hkept : text.toList.filter (!isLineBreak ·) = text.toList := by
    rw [List.filter_eq_self]
    intro c hc
    have hge := h c hc
    have hbreak : isLineBreak c = false := by
      simp only [isLineBreak, Bool.or_eq_false_iff, beq_eq_false_iff_ne]
      constructor
      all_goals
        rintro rfl
        contradiction
    rw [hbreak]
    rfl
  simp only [Command.encode, Command.payload?, Command.verb, hkept, String.ofList_toList]
  rfl

/-! ## Read -/

theorem fields?_metadata (i : Insight) :
    Document.fields? ["name", "timestamp", "tags", "insightType", "insightMappingId"]
        (.object (i.metadataDocuments.map fun m => (some m.1, m.2)))
      = some [some (.string (some i.name)), some (.number (.ofInt i.timestamp)), some (tagsDocument i.tags),
        some (.string (some i.kind.text)), i.mappingId.map fun id => .string (some id)] := by
  unfold metadataDocuments
  cases i.mappingId with
  | none => rfl
  | some id => rfl

theorem timestamp?_ofInt {n : Int} (h : Int64.minValue.toInt ≤ n ∧ n ≤ Int64.maxValue.toInt) :
    timestamp? (.number (.ofInt n)) = some n := by
  have hn : (Numeral.ofInt n).integer? = some n := integer?_ofInt h.1 (Int.le_trans h.2 (by decide))
  have hto : (Int64.ofInt n).toInt = n := Int64.toInt_ofInt_of_le h.1 (Int.lt_add_one_of_le h.2)
  have hint : Document.int64? (.number (.ofInt n)) = some (Int64.ofInt n) := by
    show ((Numeral.ofInt n).integer? >>= _) = _
    rw [hn]
    exact if_pos h
  rw [timestamp?, hint, Option.map_some, hto]

theorem texts?_tagsDocument {tags : List (String × String)} (h : tags.Pairwise (·.1 < ·.1)) :
    Document.texts? (tagsDocument tags) = some tags := by
  have hkeys : textKeys? (tags.map fun t => (some t.1, Document.string (some t.2)))
      = some (tags.map fun t => (t.1, Document.string (some t.2))) := by
    rw [textKeys?, List.mapM_map]
    exact List.mapM_pure
  have htexts : (tags.map fun t => (t.1, Document.string (some t.2))).mapM
      (fun m => m.2.text?.map (m.1, ·)) = some tags := by
    rw [List.mapM_map]
    exact List.mapM_pure.trans (congrArg some (List.map_id _))
  show (textKeys? _ >>= _) = _
  rw [hkeys]
  show (List.mapM (m := Option) _ _ >>= _) = _
  rw [htexts]
  exact congrArg some (sortMembers_of_pairwise h)

theorem kind?_text (k : InsightKind) : kind? (.string (some k.text)) = some k := by
  cases k <;> rfl

theorem ofDocument?_document {i : Insight} (h : i.Portable) {d : Document}
    (hdata : Document.optional? (Document.value? (depthLimit - 1)) d = some i.data) :
    ofDocument? (i.document d) = some i := by
  have hfields : Document.fields? ["metadata", "data"] (i.document d)
      = some [some (.object (i.metadataDocuments.map fun m => (some m.1, m.2))), some d] := rfl
  have hid : (i.mappingId.map fun id => Document.string (some id)).elim (some none)
      (Document.optional? Document.text?) = some i.mappingId := by
    cases i.mappingId with
    | none => rfl
    | some id => rfl
  simp only [ofDocument?, hfields, fields?_metadata, bind, Option.bind, Document.text?, Option.elim_some,
    timestamp?_ofInt h.isInt64, texts?_tagsDocument h.tags, kind?_text, hid, hdata]
  rfl

theorem ofText?_write {i : Insight} (h : i.Portable) : ofText? i.write = some i := by
  obtain ⟨d, hd, hdata⟩ := h.exists_data
  rw [ofText?, Document.read?_of_spells (spells_write hd)]
  exact ofDocument?_document h hdata

/-- The line of an insight has its JSON text unaltered, and a receiver reads this text back as the insight,
whatever its name, tags and data hold. -/
theorem survives_wire {i : Insight} (h : i.Portable) (hname : i.name ≠ "") (hpos : 0 < i.timestamp) :
    (Command.putInsight i.write).encode = "PUTINSIGHT " ++ i.write ++ "\n" ∧
    ∀ now, receive now i.write = .ok i := by
  obtain ⟨d, hd, _⟩ := h.exists_data
  refine ⟨encode_putInsight (spells_write hd).printable, fun now => ?_⟩
  simp only [receive, ofText?_write h, if_neg hname, if_neg (Int.not_le.mpr hpos)]

/-- An insight whose strings look like JSON and commands. -/
def quoted : Insight where
  name := "\"\\\n\x01é𝄞"
  timestamp := 1
  tags := [("", "\r\nRELOADINSIGHTS\n"), ("]", "\"")]
  kind := .log
  mappingId := some "\\u0041"
  data := some (.object [("a", .array [.null, .number (.integer maxUnsigned), .number (.integer minSigned)]),
    ("b", .array [.array [], .object [], .bool false, .string "\x00,"])])

theorem survives_wire_quoted :
    (Command.putInsight quoted.write).encode = "PUTINSIGHT " ++ quoted.write ++ "\n" ∧
    ∀ now, receive now quoted.write = .ok quoted := by
  refine survives_wire ⟨by decide, by decide, ?_⟩ (by decide) (by decide)
  rintro _ ⟨⟩
  refine ⟨nofun, .object (by decide) (List.forall_mem_cons.mpr ⟨.array ?_, List.forall_mem_singleton.mpr (.array ?_)⟩)⟩
  · simp only [List.forall_mem_cons, List.not_mem_nil, false_imp_iff, implies_true, and_true]
    exact ⟨.null, .integer (by decide) (by decide), .integer (by decide) (by decide)⟩
  · simp only [List.forall_mem_cons, List.not_mem_nil, false_imp_iff, implies_true, and_true]
    exact ⟨.array nofun, .object .nil nofun, .bool false, .string _⟩

end Insight

end MetricsAgent
