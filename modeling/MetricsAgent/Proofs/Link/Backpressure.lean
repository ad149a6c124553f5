import MetricsAgent.Proofs.Link.InOrder

/-!
# The buffer stays within its marks

A link that takes commands has no more than the high mark waiting, and one that takes none has at least the low
mark waiting (`Bounded`). Writing never adds to the buffer, and a command is only added to a buffer within the
high mark, so no more than the high mark and one command ever wait. A link whose buffer was written out takes
commands again.
-/

namespace MetricsAgent

namespace Marks

variable {m : Marks} {before : Bool} {pending : Nat}

theorem le_high (hm : m.low ≤ m.high) (h : m.writable before pending = true) : pending ≤ m.high := by
  cases before with
  | true => simpa [writable] using h
  | false =>
      have hlow : pending < m.low := by simpa [writable] using h
      omega

theorem low_le (hm : m.low ≤ m.high) (h : m.writable before pending = false) : m.low ≤ pending := by
  cases before with
  | true =>
      have hhigh : m.high < pending := by simpa [writable] using h
      omega
  | false => simpa [writable] using h

end Marks

theorem size_left_writeOut_le (written bytes : ByteArray) (answers : List WriteAnswer) :
    (writeOut written bytes answers).left.size ≤ bytes.size := by
  fun_induction writeOut written bytes answers with
  | case4 written bytes answers _ count _ ih =>
      rw [ByteArray.size_extract] at ih
      omega
  | case6 _ _ _ _ ih => exact ih
  | _ => exact Nat.le_refl _

namespace Link

variable {l : Link} {marks : Marks} {longest : Nat}

/-- The link keeps to its marks, and no more waits than the high mark and the longest command together. -/
structure Bounded (marks : Marks) (longest : Nat) (l : Link) : Prop where
  marks_eq : l.marks = marks
  le_high : l.writable = true → l.buffer.size ≤ marks.high
  low_le : l.writable = false → marks.low ≤ l.buffer.size
  le_longest : l.buffer.size ≤ marks.high + longest

/-! ## One operation -/

theorem size_flush_le (l : Link) (answers : List WriteAnswer) :
    (l.flush answers).link.buffer.size ≤ l.buffer.size := by
  unfold flush
  split
  · exact Nat.le_refl _
  · dsimp only
    split
    · exact Nat.zero_le _
    · exact size_left_writeOut_le .empty l.buffer answers

theorem size_flushIf_le (condition : Bool) (l : Link) (answers : List WriteAnswer) :
    (l.flushIf condition answers).link.buffer.size ≤ l.buffer.size := by
  cases condition with
  | false => exact Nat.le_refl _
  | true => exact size_flush_le l answers

namespace Bounded

theorem of_empty (hm : l.marks = marks) (hb : l.buffer = .empty) (hw : l.writable = true) :
    l.Bounded marks longest where
  marks_eq := hm
  le_high := by simp [hb]
  low_le := by simp [hw]
  le_longest := by simp [hb]

theorem unconnected (marks : Marks) : (unconnected marks).Bounded marks longest := of_empty rfl rfl rfl

theorem mono (h : l.Bounded marks longest) {longer : Nat} (hl : longest ≤ longer) :
    l.Bounded marks longer := by
  have hsize := h.le_longest
  exact ⟨h.marks_eq, h.le_high, h.low_le, by omega⟩

theorem drop (h : l.Bounded marks longest) : l.drop.Bounded marks longest := of_empty h.marks_eq rfl rfl

theorem attach (h : l.Bounded marks longest) : l.attach.Bounded marks longest := of_empty h.marks_eq rfl rfl

theorem connect (h : l.Bounded marks longest) (answer : ConnectAnswer) :
    (l.connect answer).Bounded marks longest := by
  unfold Link.connect
  split
  · exact h
  · exact h.attach

/-- Whatever is in the buffer, a link that asks its marks whether it is writable keeps to them. -/
theorem update (hm : marks.low ≤ marks.high) (hl : l.marks = marks) {buffer : ByteArray}
    (hb : buffer.size ≤ marks.high + longest) :
    { l with buffer, writable := l.marks.writable l.writable buffer.size }.Bounded marks longest where
  marks_eq := hl
  le_high := by subst hl; exact Marks.le_high hm
  low_le := by subst hl; exact Marks.low_le hm
  le_longest := hb

theorem flush (hm : marks.low ≤ marks.high) (h : l.Bounded marks longest) (answers : List WriteAnswer) :
    (l.flush answers).link.Bounded marks longest := by
  have hsize := size_flush_le l answers
  have hlongest := h.le_longest
  unfold Link.flush at hsize ⊢
  split
  · exact h
  · dsimp only at hsize ⊢
    split
    · exact h.drop
    · rename_i hc hf
      refine update hm h.marks_eq ?_
      simp only [hc, hf, Bool.false_eq_true, ↓reduceIte] at hsize
      omega

theorem flushIf (hm : marks.low ≤ marks.high) (h : l.Bounded marks longest) (condition : Bool)
    (answers : List WriteAnswer) : (l.flushIf condition answers).link.Bounded marks longest := by
  cases condition with
  | false => exact h
  | true => exact flush hm h answers

theorem close (hm : marks.low ≤ marks.high) (h : l.Bounded marks longest) (answers : List WriteAnswer) :
    (l.close answers).link.Bounded marks longest :=
  (h.flush hm answers).drop

/-- A command is added to a buffer within the high mark. -/
theorem send (hm : marks.low ≤ marks.high) (h : l.Bounded marks longest) (c : Command)
    (answers : List WriteAnswer) :
    (l.send c answers).2.link.Bounded marks (max longest c.bytes.size) := by
  have hlonger : longest ≤ max longest c.bytes.size := Nat.le_max_left ..
  unfold Link.send
  split
  · exact h.mono hlonger
  · dsimp only
    have hfirst := h.flushIf hm (!l.writable) answers
    generalize l.flushIf (!l.writable) answers = first at hfirst ⊢
    split
    · exact hfirst.mono hlonger
    · rename_i hw
      have hhigh := hfirst.le_high (by simpa using hw)
      have hsecond := hfirst.flushIf hm (l.marks.nearlyFull first.link.buffer.size) first.answers
      have hsize := size_flushIf_le (l.marks.nearlyFull first.link.buffer.size) first.link first.answers
      split
      · exact hsecond.mono hlonger
      · refine update hm hsecond.marks_eq ?_
        rw [ByteArray.size_append]
        omega

end Bounded

/-- A command that is not taken adds nothing to the buffer, of which the first part may have been written. -/
theorem buffer_of_not_taken {l : Link} (hs : l.Settled) {c : Command} {answers : List WriteAnswer}
    (h : (l.send c answers).1 = false) :
    ∃ gone, gone ++ (l.send c answers).2.link.buffer = l.buffer := by
  have hp := Passes.send hs c answers
  rw [h] at hp
  obtain ⟨hs', ⟨lost, he, hl⟩, _⟩ := hp
  simp only [Bool.false_eq_true, ↓reduceIte, ByteArray.append_empty] at he
  cases hc : (l.send c answers).2.link.connected with
  | true =>
      rw [hl hc, ByteArray.append_empty] at he
      exact ⟨_, he⟩
  | false =>
      refine ⟨l.buffer, ?_⟩
      rw [hs'.buffer_eq hc, ByteArray.append_empty]

/-! ## Runs -/

/-- How long the command is that is sent, if any. -/
def Operation.sentSize : Operation → Nat
  | .send c _ => c.bytes.size
  | .attach | .connect _ | .flush _ | .close _ => 0

/-- How long the longest command is that is sent. -/
def longestSent : List Operation → Nat
  | [] => 0
  | o :: operations => max o.sentSize (longestSent operations)

namespace Traffic

variable {t : Traffic}

theorem bounded_perform (hm : marks.low ≤ marks.high) (h : t.link.Bounded marks longest) (o : Operation) :
    (t.perform o).link.Bounded marks (max longest o.sentSize) := by
  have hmono := fun l (hl : Bounded marks longest l) => hl.mono (Nat.le_max_left longest o.sentSize)
  cases o with
  | attach => exact hmono _ h.attach
  | connect answer =>
      have hc := hmono _ (h.connect answer)
      simp only [perform]
      split <;> exact hc
  | send c answers => exact h.send hm c answers
  | flush answers => exact hmono _ (h.flush hm answers)
  | close answers => exact hmono _ (h.close hm answers)

theorem bounded_performs (hm : marks.low ≤ marks.high) (h : t.link.Bounded marks longest)
    (operations : List Operation) :
    (operations.foldl perform t).link.Bounded marks (max longest (longestSent operations)) := by
  induction operations generalizing t longest with
  | nil => exact h.mono (Nat.le_max_left ..)
  | cons o operations ih =>
      have hnext := ih (bounded_perform hm h o)
      rwa [Nat.max_assoc] at hnext

/-- After any operations, whatever the connections answer: a link that takes commands has at most the high
mark waiting, and one that takes none at least the low mark; what waits never exceeds the high mark by more than
the longest command that was sent; a link that has written its buffer out takes commands; and a command that is
not taken adds nothing to the buffer. -/
theorem buffer_within_marks (marks : Marks) (hlow : 0 < marks.low) (hm : marks.low ≤ marks.high)
    (operations : List Operation) :
    let l := (operations.foldl perform (.start marks)).link
    (l.writable = true → l.buffer.size ≤ marks.high) ∧
    (l.writable = false → marks.low ≤ l.buffer.size) ∧
    l.buffer.size ≤ marks.high + longestSent operations ∧
    (∀ answers, (l.flush answers).link.buffer = .empty → (l.flush answers).link.writable = true) ∧
    ∀ c answers, (l.send c answers).1 = false →
      ∃ gone, gone ++ (l.send c answers).2.link.buffer = l.buffer := by
  intro l
  have h : l.Bounded marks (longestSent operations) := by
    have hstart : (Traffic.start marks).link.Bounded marks 0 := .unconnected marks
    have hrun := bounded_performs hm hstart operations
    rwa [Nat.zero_max] at hrun
  have hsettled : l.Settled := ((InOrder.start marks).performs operations).settled
  refine ⟨h.le_high, h.low_le, h.le_longest, fun answers he => ?_, fun c answers => ?_⟩
  · cases hw : (l.flush answers).link.writable with
    | true => rfl
    | false =>
        have hle := (h.flush hm answers).low_le hw
        rw [he, ByteArray.size_empty] at hle
        omega
  · exact buffer_of_not_taken hsettled

/-- Two commands go beyond a high mark of 16 bytes, the third is not taken, and once the daemon has read
them a fourth is. -/
theorem buffer_within_marks_reload :
    let marks : Marks := ⟨4, 16⟩
    let full := [.attach, .send .reloadInsights [], .send .reloadInsights [], .send .reloadInsights []]
    let l := (full.foldl perform (.start marks)).link
    0 < marks.low ∧ marks.low ≤ marks.high ∧
    l.writable = false ∧ marks.low ≤ l.buffer.size ∧ l.buffer.size ≤ marks.high + 15 ∧
    (l.flush [.taken 30]).link.writable = true := by
  intro marks full l
  obtain ⟨_, hlow, hlongest, hflush, _⟩ := buffer_within_marks marks (by decide) (by decide) full
  have hw : l.writable = false := by decide
  exact ⟨by decide, by decide, hw, hlow hw, hlongest, hflush [.taken 30] (by decide)⟩

end Traffic

end Link

end MetricsAgent
