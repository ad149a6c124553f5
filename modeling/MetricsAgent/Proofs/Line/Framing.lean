import MetricsAgent.Line.Command

/-!
# One line for each command

The text of some commands is read back line by line: a line is a verb, and a blank with a payload after it for
the verbs that have one. Whatever stands in the payloads, this gives the same commands in the same order,
without the line breaks of their payloads.
-/

namespace MetricsAgent

/-- Lines that are each ended by a break are split at the breaks, and nothing is left. -/
theorem splitOn_flatMap_concat {α : Type} [BEq α] [LawfulBEq α] {a : α} {lines : List (List α)}
    (h : ∀ line ∈ lines, a ∉ line) : (lines.flatMap (· ++ [a])).splitOn a = lines ++ [[]] := by
  induction lines with
  | nil => rfl
  | cons line lines ih =>
      obtain ⟨hline, hlines⟩ := List.forall_mem_cons.mp h
      rw [List.flatMap_cons, List.append_assoc, List.singleton_append,
        List.splitOn_append_cons_self_of_not_mem hline, ih hlines]
      rfl

namespace Command

/-! ## Reading -/

/-- The command of a verb, with or without a payload. -/
def ofVerb? : String → Option String → Option Command
  | "PUTVAL", some payload => some (.putVal payload)
  | "PUTINSIGHT", some payload => some (.putInsight payload)
  | "RELOADINSIGHTS", none => some .reloadInsights
  | _, _ => none

/-- Reads a line without its end. The first blank ends the verb. -/
def ofLine? (line : List Char) : Option Command :=
  let verb := String.ofList (line.takeWhile (· ≠ ' '))
  match line.dropWhile (· ≠ ' ') with
  | [] => ofVerb? verb none
  | _ :: payload => ofVerb? verb (some (.ofList payload))

/-- Reads a text of lines, the last of which is ended as well. -/
def ofLines? (text : String) : Option (List Command) :=
  let lines := text.toList.splitOn '\n'
  if lines.getLast? = some [] then lines.dropLast.mapM ofLine? else none

/-- The command without the line breaks of its payload. -/
def withoutBreaks : Command → Command
  | .putVal p => .putVal (.ofList (p.toList.filter (!isLineBreak ·)))
  | .putInsight p => .putInsight (.ofList (p.toList.filter (!isLineBreak ·)))
  | .reloadInsights => .reloadInsights

/-! ## Lines -/

/-- The line of a command, without its end. -/
def line (c : Command) : List Char :=
  c.verb.toList ++ match c.withoutBreaks.payload? with
    | none => []
    | some p => ' ' :: p.toList

theorem toList_encode (c : Command) : c.encode.toList = c.line ++ ['\n'] := by
  cases c <;> simp [encode, line, withoutBreaks, payload?, String.toList_append]

/-- A verb has neither blanks nor line breaks. -/
theorem of_mem_verb {c : Command} {x : Char} (h : x ∈ c.verb.toList) :
    x ≠ ' ' ∧ isLineBreak x = false := by
  have hall : (["PUTVAL", "PUTINSIGHT", "RELOADINSIGHTS"].all fun v =>
      v.toList.all fun x => x ≠ ' ' ∧ isLineBreak x = false) = true := by decide
  simp only [List.all_eq_true, decide_eq_true_eq] at hall
  refine hall c.verb ?_ x h
  cases c <;> simp [verb]

theorem isLineBreak_of_mem_line {c : Command} {x : Char} (h : x ∈ c.line) : isLineBreak x = false := by
  rcases List.mem_append.mp h with h | h
  · exact (of_mem_verb h).2
  · cases c with
    | reloadInsights => simp [withoutBreaks, payload?] at h
    | putVal p | putInsight p =>
        simp only [withoutBreaks, payload?, String.toList_ofList, List.mem_cons, List.mem_filter] at h
        rcases h with rfl | ⟨_, h⟩
        · rfl
        · simpa using h

theorem newline_not_mem_line (c : Command) : '\n' ∉ c.line := by
  intro h
  have := isLineBreak_of_mem_line h
  contradiction

theorem ofLine?_line (c : Command) : ofLine? c.line = some c.withoutBreaks := by
  have hv : ∀ x ∈ c.verb.toList, decide (x ≠ ' ') = true :=
    fun x hx => by simpa using (of_mem_verb hx).1
  rw [ofLine?, line, List.takeWhile_append_of_pos hv, List.dropWhile_append_of_pos hv]
  cases c with
  | reloadInsights => rfl
  | putVal p | putInsight p => simp [withoutBreaks, payload?, verb, ofVerb?]

theorem mapM_ofLine? (cs : List Command) : (cs.map line).mapM ofLine? = some (cs.map withoutBreaks) := by
  have h : ofLine? ∘ line = fun c => pure c.withoutBreaks := funext ofLine?_line
  rw [List.mapM_map, h, List.mapM_pure]
  rfl

/-! ## Texts -/

/-- The text of some commands, one after the other. -/
def text (cs : List Command) : String := String.join (cs.map encode)

theorem toList_text (cs : List Command) : (text cs).toList = cs.flatMap fun c => c.line ++ ['\n'] := by
  simp only [text, String.toList_join, List.flatMap_map, toList_encode]

theorem splitOn_text (cs : List Command) :
    (text cs).toList.splitOn '\n' = cs.map line ++ [[]] := by
  rw [toList_text, ← List.flatMap_map line (· ++ ['\n'])]
  exact splitOn_flatMap_concat (List.forall_mem_map.mpr fun c _ => newline_not_mem_line c)

theorem count_newline_text (cs : List Command) : (text cs).toList.count '\n' = cs.length := by
  rw [toList_text]
  induction cs with
  | nil => rfl
  | cons c cs ih =>
      rw [List.flatMap_cons, List.count_append, List.count_append,
        List.count_eq_zero_of_not_mem (newline_not_mem_line c), ih]
      simp [Nat.add_comm]

/-- Each command has one line, which it ends, and the lines are read back as the commands without the line
breaks of their payloads, whatever these hold. -/
theorem ofLines?_text (cs : List Command) :
    (∀ c ∈ cs, ∃ line, c.encode = line ++ "\n" ∧ ∀ x ∈ line.toList, isLineBreak x = false) ∧
    (text cs).toList.count '\n' = cs.length ∧
    '\r' ∉ (text cs).toList ∧
    ofLines? (text cs) = some (cs.map withoutBreaks) := by
  refine ⟨fun c _ => ?_, count_newline_text cs, ?_, ?_⟩
  · refine ⟨.ofList c.line, ?_, fun x hx => ?_⟩
    · apply String.toList_inj.mp
      simp [toList_encode]
    · exact isLineBreak_of_mem_line (by simpa using hx)
  · rw [toList_text, List.mem_flatMap]
    rintro ⟨c, _, h⟩
    rcases List.mem_append.mp h with h | h
    · have := isLineBreak_of_mem_line h
      contradiction
    · simp at h
  · simp only [ofLines?, splitOn_text, List.getLast?_concat, List.dropLast_concat, ↓reduceIte, mapM_ofLine?]

/-- A payload that looks like further commands is one payload. -/
example :
    ofLines? (text [.putInsight "\nRELOADINSIGHTS\r\nPUTVAL a", .reloadInsights])
      = some [.putInsight "RELOADINSIGHTSPUTVAL a", .reloadInsights] := by
  decide +kernel

end Command

end MetricsAgent
