import Mathlib
import MetricsAgent.Proofs.Json.Tokens
import MetricsAgent.Proofs.Line.Framing
import MetricsAgent.Report.Occasion

/-!
# Values read back from their line

The line of a value list has no quotes: blanks divide its fields, slashes the path, and colons the values. As
the text of a value holds none of these, nor do the interval and the tags, the line tells all that it was made
of, provided that host, name and kind hold no blank and no slash.
-/

namespace MetricsAgent

/-! ## Texts of values -/

namespace Decimal

theorem isDigit_of_mem_toString {n : Nat} {x : Char} (h : x ∈ (toString n).toList) : x.isDigit = true := by
  rw [Nat.toString_eq_repr, Nat.toList_repr] at h
  exact Nat.isDigit_of_mem_toDigits (by decide) (by decide) h

theorem isDigit_of_mem_zeros {n : Nat} {x : Char} (h : x ∈ (zeros n).toList) : x.isDigit = true := by
  rw [zeros, String.toList_ofList] at h
  exact (List.eq_of_mem_replicate h) ▸ rfl

/-- Without an exponent there are only digits and the point. -/
theorem Digits.mem_positional {d : Digits} {x : Char} (h : x ∈ (d.positional "").toList) :
    x.isDigit = true ∨ x = '.' := by
  have hdigits (n : Nat) (hx : x ∈ (zeros n).toList ++ (toString d.digits).toList) : x.isDigit = true :=
    (List.mem_append.mp hx).elim isDigit_of_mem_zeros isDigit_of_mem_toString
  unfold Digits.positional at h
  split at h
  · simp only [String.toList_append, List.mem_append, String.toList_empty, List.not_mem_nil, or_false] at h
    exact .inl (h.elim isDigit_of_mem_toString isDigit_of_mem_zeros)
  · simp only [String.toList_append, String.toList_ofList, List.mem_append] at h
    rcases h with (h | h) | h
    · exact .inl (hdigits _ (List.mem_of_mem_take h))
    · exact .inr (by simpa using h)
    · exact .inl (hdigits _ (List.mem_of_mem_drop h))

end Decimal

/-- The characters of the texts of values. -/
def isNumeric (x : Char) : Bool := x.isAlphanum || x == '-' || x == '.'

theorem isNumeric_of_isDigit {x : Char} (h : x.isDigit = true) : isNumeric x = true := by
  simp [isNumeric, Char.isAlphanum, h]

theorem isNumeric_of_mem_writeBits {negative : Bool} {bits : Nat} {x : Char}
    (h : x ∈ (wireLayout.writeBits negative bits).toList) : isNumeric x = true := by
  have hall : ([wireLayout.notANumber, wireLayout.infinity, wireLayout.negativeInfinity].all fun word =>
      word.toList.all isNumeric) = true := by decide
  simp only [List.all_eq_true] at hall
  unfold Decimal.Layout.writeBits at h
  split at h
  · exact hall _ (by simp) x h
  · split at h
    · split at h
      · exact hall _ (by simp) x h
      · exact hall _ (by simp) x h
    · have hpositional (d : Decimal.Digits) (hx : x ∈ (d.positional "").toList) : isNumeric x = true := by
        rcases d.mem_positional hx with hx | rfl
        · exact isNumeric_of_isDigit hx
        · rfl
      cases negative with
      | true =>
          rcases List.mem_append.mp (String.toList_append ▸ h) with h | h
          · exact List.mem_singleton.mp h ▸ rfl
          · exact hpositional _ h
      | false => exact hpositional _ h

/-- The text of a value is digits with a sign and a point, or a word with a sign. -/
theorem Field.isNumeric_of_mem_text {f : Field} {x : Char} (h : x ∈ f.text.toList) : isNumeric x = true := by
  cases f with
  | integer n =>
      rw [Field.text, Json.toList_toString_int] at h
      rcases List.mem_append.mp h with h | h
      · split at h
        · exact List.mem_singleton.mp h ▸ rfl
        · exact absurd h List.not_mem_nil
      · exact isNumeric_of_isDigit (Nat.isDigit_of_mem_toDigits (by decide) (by decide) h)
  | float y =>
      exact isNumeric_of_mem_writeBits h

/-! ## Fields of a line -/

/-- The parts of a text between the places of a character. -/
def partsAt (c : Char) (text : String) : List String := (text.toList.splitOn c).map String.ofList

/-- The fields of a text that is one line with its end. -/
def fieldsOf? (text : String) : Option (List String) :=
  match partsAt '\n' text with
  | [line, ""] => some (partsAt ' ' line)
  | _ => none

theorem partsAt_eq_singleton {c : Char} {text : String} (h : c ∉ text.toList) : partsAt c text = [text] := by
  rw [partsAt, List.splitOn_eq_singleton h, List.map_singleton, String.ofList_toList]

theorem partsAt_append {c : Char} {text front rest : String} (h : text.toList = front.toList ++ c :: rest.toList) :
    partsAt c text = partsAt c front ++ partsAt c rest := by
  rw [partsAt, h, List.splitOn_append_cons_self, List.map_append]
  rfl

/-- A text with a mark and another text behind it, once or more often, is divided at the marks. -/
theorem splitOn_append_flatMap_cons {a : Char} {first : List Char} {more : List (List Char)} (hf : a ∉ first)
    (hm : ∀ part ∈ more, a ∉ part) : (first ++ more.flatMap (a :: ·)).splitOn a = first :: more := by
  induction more generalizing first with
  | nil => rw [List.flatMap_nil, List.append_nil, List.splitOn_eq_singleton hf]
  | cons part more ih =>
      obtain ⟨hpart, hmore⟩ := List.forall_mem_cons.mp hm
      rw [List.flatMap_cons, List.cons_append, List.splitOn_append_cons_self_of_not_mem hf, ih hpart hmore]

theorem length_splitOn (a : Char) (l : List Char) : (l.splitOn a).length = l.count a + 1 := by
  induction l with
  | nil => rfl
  | cons x l ih =>
      rw [List.splitOn_cons_eq_if_modifyHead, List.count_cons]
      split <;> simp [ih]

theorem length_partsAt (c : Char) (text : String) : (partsAt c text).length = text.toList.count c + 1 := by
  rw [partsAt, List.length_map, length_splitOn]

theorem fieldsOf?_of_line {text line : String} (h : text.toList = line.toList ++ ['\n']) (hl : '\n' ∉ line.toList) :
    fieldsOf? text = some (partsAt ' ' line) := by
  have hparts : partsAt '\n' text = partsAt '\n' line ++ partsAt '\n' "" := partsAt_append h
  rw [fieldsOf?, hparts, partsAt_eq_singleton hl]
  rfl

/-- A character that neither divides a line nor ends it. -/
def isFieldChar (x : Char) : Bool := x != ' ' && !isLineBreak x

theorem isFieldChar_of_isNumeric {x : Char} (h : isNumeric x = true) : isFieldChar x = true := by
  rw [← Bool.not_eq_false]
  intro hx
  simp only [isFieldChar, isLineBreak, Bool.and_eq_false_iff, bne_eq_false_iff_eq, Bool.not_eq_false',
    Bool.or_eq_true, beq_iff_eq] at hx
  rcases hx with rfl | rfl | rfl <;> contradiction

/-- A text that is one field of a line as it is. -/
def IsField (text : String) : Prop := ∀ x ∈ text.toList, isFieldChar x = true

instance : DecidablePred IsField := fun text =>
  decidable_of_iff (text.toList.all isFieldChar = true) List.all_eq_true

theorem IsField.blank_not_mem {text : String} (h : IsField text) : ' ' ∉ text.toList :=
  fun hx => absurd (h ' ' hx) (by decide)

theorem IsField.filter_eq_self {text : String} (h : IsField text) :
    text.toList.filter (!isLineBreak ·) = text.toList :=
  List.filter_eq_self.mpr fun x hx => (Bool.and_eq_true_iff.mp (h x hx)).2

/-- A text that is one part of a path as it is. -/
structure IsPathWord (word : String) : Prop where
  isField : IsField word
  slash_not_mem : '/' ∉ word.toList

/-! ## Lines of value lists -/

namespace ValueList

/-- The path of the values, as the line has it. -/
def path (v : ValueList) : String :=
  .ofList ((v.host ++ "/mcac-" ++ v.name ++ "/" ++ v.kind).toList.filter (!isLineBreak ·))

def intervalField (v : ValueList) : String := "interval=" ++ toString v.interval.toNat

def valuesField (v : ValueList) : String := "N" ++ String.join (v.fields.map (":" ++ ·.text))

variable {v w : ValueList}

theorem toList_valuesField (v : ValueList) :
    v.valuesField.toList = 'N' :: v.fields.flatMap (':' :: ·.text.toList) := by
  simp [valuesField, String.toList_append, String.toList_join, List.flatMap_map]

theorem isField_intervalField (v : ValueList) : IsField v.intervalField := by
  have hstart : IsField "interval=" := by decide
  intro x h
  rw [intervalField, String.toList_append] at h
  rcases List.mem_append.mp h with h | h
  · exact hstart x h
  · exact isFieldChar_of_isNumeric (isNumeric_of_isDigit (Decimal.isDigit_of_mem_toString h))

theorem isField_valuesField (v : ValueList) : IsField v.valuesField := by
  intro x h
  rw [toList_valuesField] at h
  rcases List.mem_cons.mp h with rfl | h
  · rfl
  · obtain ⟨f, _, h⟩ := List.mem_flatMap.mp h
    rcases List.mem_cons.mp h with rfl | h
    · rfl
    · exact isFieldChar_of_isNumeric (Field.isNumeric_of_mem_text h)

theorem toList_path (v : ValueList) :
    v.path.toList = v.host.toList.filter (!isLineBreak ·) ++ '/' :: ("mcac-".toList ++
      v.name.toList.filter (!isLineBreak ·) ++ '/' :: v.kind.toList.filter (!isLineBreak ·)) := by
  have hstart : "/mcac-".toList.filter (!isLineBreak ·) = '/' :: "mcac-".toList := by decide
  have hslash : "/".toList.filter (!isLineBreak ·) = ['/'] := by decide
  simp only [path, String.toList_ofList, String.toList_append, List.filter_append, hstart, hslash, List.append_assoc,
    List.cons_append, List.nil_append]

theorem count_path (v : ValueList) {x : Char} (hx : isLineBreak x = false) :
    v.path.toList.count x = v.host.toList.count x + "/mcac-".toList.count x + v.name.toList.count x +
      "/".toList.count x + v.kind.toList.count x := by
  rw [path, String.toList_ofList, List.count_filter (by simp [hx])]
  simp only [String.toList_append, List.count_append]

/-- The five fields stand in the line as they are, but for line breaks in the path. -/
theorem line_command (ht : IsField v.tags) :
    v.command.line = "PUTVAL".toList ++ ' ' :: (v.path.toList ++ ' ' :: (v.intervalField.toList ++
      ' ' :: (v.tags.toList ++ ' ' :: v.valuesField.toList))) := by
  have hpayload : v.payload.toList = (v.host ++ "/mcac-" ++ v.name ++ "/" ++ v.kind).toList ++ ' ' ::
      (v.intervalField.toList ++ ' ' :: (v.tags.toList ++ ' ' :: v.valuesField.toList)) := by
    simp [payload, intervalField, valuesField, String.toList_append]
  have hblank : (!isLineBreak ' ') = true := rfl
  rw [Command.line, command, Command.verb, Command.withoutBreaks, Command.payload?]
  simp only [String.toList_ofList, hpayload, List.filter_append, List.filter_cons, hblank, ↓reduceIte,
    (isField_intervalField v).filter_eq_self, ht.filter_eq_self, (isField_valuesField v).filter_eq_self, path]

/-- Blanks divide the line into its five fields, and the path as well if it has any. -/
theorem fieldsOf?_encode (ht : IsField v.tags) :
    fieldsOf? v.command.encode
      = some ("PUTVAL" :: (partsAt ' ' v.path ++ [v.intervalField, v.tags, v.valuesField])) := by
  have hverb : ' ' ∉ "PUTVAL".toList := by decide
  have hinterval := (isField_intervalField v).blank_not_mem
  have hvalues := (isField_valuesField v).blank_not_mem
  have hsplit : v.command.line.splitOn ' ' = "PUTVAL".toList :: (v.path.toList.splitOn ' ' ++
      [v.intervalField.toList, v.tags.toList, v.valuesField.toList]) := by
    simp only [line_command ht, List.splitOn_append_cons_self, List.splitOn_eq_singleton hverb,
      List.splitOn_eq_singleton hinterval, List.splitOn_eq_singleton ht.blank_not_mem,
      List.splitOn_eq_singleton hvalues, List.singleton_append]
  have hfields : fieldsOf? v.command.encode = some (partsAt ' ' (.ofList v.command.line)) :=
    fieldsOf?_of_line (by simp [Command.toList_encode]) (by simpa using v.command.newline_not_mem_line)
  rw [hfields]
  simp [partsAt, hsplit]

end ValueList

/-! ## Reading -/

/-- What the line of a value list tells. -/
structure ValueLine where
  host : String
  name : String
  kind : String
  interval : Nat
  tags : String
  /-- The texts of the values. -/
  values : List String
  deriving DecidableEq, Repr

namespace ValueLine

def ofList (v : ValueList) : ValueLine :=
  ⟨v.host, v.name, v.kind, v.interval.toNat, v.tags, v.fields.map Field.text⟩

/-- What follows the start of a text, if it has this one. -/
def afterStart? (start text : String) : Option String :=
  (start.toList.isPrefixOf? text.toList).map String.ofList

/-- Reads a text that is one line with its end. -/
def ofText? (text : String) : Option ValueLine :=
  match fieldsOf? text with
  | some ["PUTVAL", path, interval, tags, values] =>
    match partsAt '/' path, partsAt ':' values with
    | [host, name, kind], "N" :: values => do
      return ⟨host, ← afterStart? "mcac-" name, kind, ← (← afterStart? "interval=" interval).toNat?, tags, values⟩
    | _, _ => none
  | _ => none

/-- Reads one of the values as an integer. -/
def integer? (l : ValueLine) (i : Nat) : Option Int := l.values[i]?.bind String.toInt?

theorem afterStart?_append (start rest : String) : afterStart? start (start ++ rest) = some rest := by
  rw [afterStart?, String.toList_append, List.isPrefixOf?_eq_some_iff_append_eq.mpr rfl, Option.map_some,
    String.ofList_toList]

end ValueLine

namespace ValueList

variable {v w : ValueList}

/-- The words of the path and the tags do not look like what stands between them. -/
structure IsReadable (v : ValueList) : Prop where
  host : IsPathWord v.host
  name : IsPathWord v.name
  kind : IsPathWord v.kind
  tags : IsField v.tags

theorem partsAt_path (hv : v.IsReadable) :
    partsAt ' ' v.path = [v.path] ∧ partsAt '/' v.path = [v.host, "mcac-" ++ v.name, v.kind] := by
  have hname : '/' ∉ ("mcac-" ++ v.name).toList := by
    simpa [String.toList_append] using hv.name.slash_not_mem
  have hpath : v.path.toList = v.host.toList ++ '/' :: (("mcac-" ++ v.name).toList ++ '/' :: v.kind.toList) := by
    rw [toList_path, String.toList_append, hv.host.isField.filter_eq_self, hv.name.isField.filter_eq_self,
      hv.kind.isField.filter_eq_self]
  constructor
  · refine partsAt_eq_singleton ?_
    simp [hpath, String.toList_append, hv.host.isField.blank_not_mem, hv.name.isField.blank_not_mem,
      hv.kind.isField.blank_not_mem]
  · rw [partsAt, hpath, List.splitOn_append_cons_self_of_not_mem hv.host.slash_not_mem,
      List.splitOn_append_cons_self_of_not_mem hname, List.splitOn_eq_singleton hv.kind.slash_not_mem]
    simp only [List.map_cons, List.map_nil, String.ofList_toList]

theorem partsAt_valuesField (v : ValueList) : partsAt ':' v.valuesField = "N" :: v.fields.map Field.text := by
  have hnumeric : ∀ part ∈ v.fields.map (·.text.toList), ':' ∉ part := by
    refine List.forall_mem_map.mpr fun f _ h => ?_
    have := Field.isNumeric_of_mem_text h
    contradiction
  have hmark : ':' ∉ ['N'] := by decide
  have hsplit := splitOn_append_flatMap_cons hmark hnumeric
  rw [List.flatMap_map] at hsplit
  rw [partsAt, toList_valuesField, ← List.singleton_append, hsplit]
  simp

theorem ofText?_of_isReadable (hv : v.IsReadable) : ValueLine.ofText? v.command.encode = some (.ofList v) := by
  obtain ⟨hblank, hslash⟩ := partsAt_path hv
  have hfields := fieldsOf?_encode hv.tags
  rw [hblank, List.singleton_append] at hfields
  rw [ValueLine.ofText?, hfields]
  simp only [hslash, partsAt_valuesField, intervalField, ValueLine.afterStart?_append]
  rw [Nat.toString_eq_repr]
  simp [ValueLine.ofList, Nat.toNat?_repr]

theorem integer?_ofList {i : Nat} {n : Int64} (h : v.fields[i]? = some (.integer n)) :
    (ValueLine.ofList v).integer? i = some n.toInt := by
  rw [ValueLine.integer?, ValueLine.ofList, List.getElem?_map, h]
  show (toString n.toInt).toInt? = _
  rw [Int.toString_eq_repr, Int.toInt?_repr]

/-- A readable value list is read back from its line, with its integers as they were. Two of them have the same line
exactly if they agree in path, interval and tags and in the texts of all values. -/
theorem ofText?_encode (v : ValueList) (hv : v.IsReadable) :
    ValueLine.ofText? v.command.encode = some (.ofList v) ∧
    (∀ i n, v.fields[i]? = some (.integer n) → (ValueLine.ofList v).integer? i = some n.toInt) ∧
    ∀ w : ValueList, w.IsReadable → (w.command.encode = v.command.encode ↔
      w.host = v.host ∧ w.name = v.name ∧ w.kind = v.kind ∧ w.interval = v.interval ∧ w.tags = v.tags ∧
        w.fields.map Field.text = v.fields.map Field.text) := by
  refine ⟨ofText?_of_isReadable hv, fun _ _ => integer?_ofList, fun w hw => ⟨fun h => ?_, fun h => ?_⟩⟩
  · have hlines : some (ValueLine.ofList w) = some (.ofList v) := by
      rw [← ofText?_of_isReadable hw, ← ofText?_of_isReadable hv, h]
    simpa [ValueLine.ofList, UInt64.toNat_inj] using hlines
  · obtain ⟨hhost, hname, hkind, hinterval, htags, hvalues⟩ := h
    have hjoin (v : ValueList) : v.fields.map (":" ++ ·.text) = (v.fields.map Field.text).map (":" ++ ·) := by
      rw [List.map_map]
      rfl
    rw [command, command, payload, payload, hjoin, hjoin, hhost, hname, hkind, hinterval, htags, hvalues]

/-- The same values with and without the mark of withheld ones. -/
theorem ofText?_encode_collections :
    let v : ValueList := ⟨"node", "gc.count", "gauge", 30, withheldTag, [.integer (-5), .float 0.25]⟩
    let w : ValueList := { v with tags := "" }
    v.IsReadable ∧ w.IsReadable ∧
    ValueLine.ofText? v.command.encode
      = some ⟨"node", "gc.count", "gauge", 30, "mcac_filtered=true", ["-5", (Field.float 0.25).text]⟩ ∧
    (ValueLine.ofList v).integer? 0 = some (-5) ∧ w.command.encode ≠ v.command.encode := by
  intro v w
  have hhost : IsPathWord "node" := ⟨by decide, by decide⟩
  have hname : IsPathWord "gc.count" := ⟨by decide, by decide⟩
  have hkind : IsPathWord "gauge" := ⟨by decide, by decide⟩
  have hv : v.IsReadable := ⟨hhost, hname, hkind, (by decide : IsField withheldTag)⟩
  have hw : w.IsReadable := ⟨hhost, hname, hkind, (by decide : IsField "")⟩
  obtain ⟨hread, hinteger, hline⟩ := ofText?_encode v hv
  refine ⟨hv, hw, hread, hinteger 0 (-5) rfl, fun h => ?_⟩
  have htags : "" = withheldTag := ((hline w hw).mp h).2.2.2.2.1
  exact absurd htags (by decide)

end ValueList

end MetricsAgent
