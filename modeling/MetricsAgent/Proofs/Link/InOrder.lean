import MetricsAgent.Link.Basic

/-!
# Commands arrive whole and in order

What an operation writes, followed by what it leaves in the buffer, is what the buffer held before,
followed by the command that was taken. Bytes are lost only together with the connection (`Passes`).
Over any run, each connection therefore receives the commands that were taken for it, in order, and a
connection that has ended received a first part of them.
-/

namespace MetricsAgent

namespace Command

/-- The bytes of some commands, one after the other. -/
def stream : List Command → ByteArray
  | [] => .empty
  | c :: cs => c.bytes ++ stream cs

@[simp] theorem stream_nil : stream [] = .empty := rfl

theorem stream_append (cs ds : List Command) : stream (cs ++ ds) = stream cs ++ stream ds := by
  induction cs with
  | nil => exact ByteArray.empty_append.symm
  | cons c cs ih => simp only [List.cons_append, stream, ih, ByteArray.append_assoc]

@[simp] theorem stream_singleton (c : Command) : stream [c] = c.bytes := ByteArray.append_empty

end Command

/-! ## One operation -/

theorem extract_append_rest (bytes : ByteArray) (count : Nat) :
    bytes.extract 0 count ++ bytes.extract count bytes.size = bytes := by
  rw [ByteArray.extract_append_extract, Nat.zero_min]
  apply ByteArray.ext
  simp

theorem writeOut_append (written bytes : ByteArray) (answers : List WriteAnswer) :
    (writeOut written bytes answers).bytes ++ (writeOut written bytes answers).left
      = written ++ bytes := by
  fun_induction writeOut written bytes answers with
  | case4 written bytes answers _ count _ ih =>
      rw [ih, ByteArray.append_assoc, extract_append_rest]
  | case6 _ _ _ _ ih => exact ih
  | _ => rfl

namespace Link

variable {l : Link} {s : Step} {added : ByteArray}

/-- The buffer is empty unless there is a connection, and others are told the truth about that. -/
structure Settled (l : Link) : Prop where
  announced_eq : l.announced = l.connected
  buffer_eq : l.connected = false → l.buffer = .empty

theorem Settled.unconnected (marks : Marks) : (unconnected marks).Settled := ⟨rfl, fun _ => rfl⟩

theorem Settled.drop (l : Link) : l.drop.Settled := ⟨rfl, fun _ => rfl⟩

theorem Settled.attach (l : Link) : l.attach.Settled := ⟨rfl, fun _ => rfl⟩

theorem Settled.of_connected (h : l.Settled) {l' : Link} (hc : l.connected = true)
    (hc' : l'.connected = l.connected) (ha' : l'.announced = l.announced) : l'.Settled where
  announced_eq := by rw [ha', hc', h.announced_eq]
  buffer_eq := by intro hn; rw [hc', hc] at hn; cases hn

/-- The operation leads from `l` to a settled link. Of the bytes in the buffer and those that were added
it has written the first and kept the others, unless the connection has ended; without a connection it has
done nothing. -/
structure Passes (l : Link) (added : ByteArray) (s : Step) : Prop where
  settled : s.link.Settled
  kept : ∃ lost, s.written ++ (s.link.buffer ++ lost) = l.buffer ++ added ∧
    (s.link.connected = true → lost = .empty)
  idle : l.connected = false → s.link.connected = false ∧ s.written = .empty ∧ added = .empty

theorem flushIf_of_not_connected (hc : l.connected = false) (condition : Bool)
    (answers : List WriteAnswer) : l.flushIf condition answers = ⟨l, .empty, answers⟩ := by
  cases condition
  · rfl
  · simp [Link.flushIf, Link.flush, hc]

theorem send_of_not_connected (hc : l.connected = false) (c : Command) (answers : List WriteAnswer) :
    l.send c answers = (false, ⟨l, .empty, answers⟩) := by
  simp [Link.send, hc]

namespace Passes

theorem refl (h : l.Settled) (answers : List WriteAnswer) : l.Passes .empty ⟨l, .empty, answers⟩ where
  settled := h
  kept := ⟨.empty, by simp only [ByteArray.empty_append, ByteArray.append_empty], fun _ => rfl⟩
  idle := fun hc => ⟨hc, rfl, rfl⟩

theorem flush (h : l.Settled) (answers : List WriteAnswer) : l.Passes .empty (l.flush answers) := by
  unfold Link.flush
  split
  · exact .refl h answers
  · rename_i hc
    have hc : l.connected = true := by simpa using hc
    have hw := writeOut_append .empty l.buffer answers
    rw [ByteArray.empty_append] at hw
    dsimp only
    split
    · -- The connection has failed, and what was left is lost.
      refine ⟨.drop l, ⟨(writeOut .empty l.buffer answers).left, ?_, ?_⟩, ?_⟩
      · simp only [Link.drop, ByteArray.empty_append, ByteArray.append_empty, hw]
      · simp [Link.drop]
      · simp [hc]
    · refine ⟨h.of_connected hc rfl rfl, ⟨.empty, ?_, fun _ => rfl⟩, ?_⟩
      · simp only [ByteArray.append_empty, hw]
      · simp [hc]

theorem flushIf (h : l.Settled) (condition : Bool) (answers : List WriteAnswer) :
    l.Passes .empty (l.flushIf condition answers) := by
  cases condition
  · exact .refl h answers
  · exact .flush h answers

theorem andThen_flushIf (h : l.Passes added s) (condition : Bool) :
    l.Passes added (s.andThen (Link.flushIf condition)) := by
  obtain ⟨hs, ⟨lost, he, hl⟩, hi⟩ := h
  cases hc : s.link.connected with
  | false =>
      simp only [Step.andThen, flushIf_of_not_connected hc, ByteArray.append_empty]
      exact ⟨hs, ⟨lost, he, hl⟩, hi⟩
  | true =>
      -- Nothing was lost yet, so the second operation begins with all that the first one kept.
      obtain ⟨hs', ⟨lost', he', hl'⟩, _⟩ := flushIf hs condition s.answers
      rw [hl hc, ByteArray.append_empty] at he
      rw [ByteArray.append_empty] at he'
      refine ⟨hs', ⟨lost', ?_, hl'⟩, fun hn => ?_⟩
      · simp only [Step.andThen]
        rw [ByteArray.append_assoc, he', he]
      · rw [(hi hn).1] at hc; cases hc

theorem put (h : l.Passes .empty s) (hc : s.link.connected = true) (c : Command) (writable : Bool) :
    l.Passes c.bytes
      ⟨{ s.link with buffer := s.link.buffer ++ c.bytes, writable }, s.written, s.answers⟩ := by
  obtain ⟨hs, ⟨lost, he, hl⟩, hi⟩ := h
  rw [hl hc, ByteArray.append_empty, ByteArray.append_empty] at he
  refine ⟨hs.of_connected hc rfl rfl, ⟨.empty, ?_, fun _ => rfl⟩, fun hn => ?_⟩
  · rw [ByteArray.append_empty, ← ByteArray.append_assoc, he]
  · rw [(hi hn).1] at hc; cases hc

theorem drop (h : l.Passes added s) : l.Passes added { s with link := s.link.drop } := by
  obtain ⟨_, ⟨lost, he, _⟩, hi⟩ := h
  refine ⟨.drop s.link, ⟨s.link.buffer ++ lost, ?_, ?_⟩, fun hn => ⟨rfl, (hi hn).2⟩⟩
  · simpa only [Link.drop, ByteArray.empty_append] using he
  · simp [Link.drop]

theorem close (h : l.Settled) (answers : List WriteAnswer) : l.Passes .empty (l.close answers) :=
  (flush h answers).drop

/-- A link writes at most twice before it takes a command; a command that is not taken adds nothing. -/
theorem send (h : l.Settled) (c : Command) (answers : List WriteAnswer) :
    l.Passes (if (l.send c answers).1 then c.bytes else .empty) (l.send c answers).2 := by
  unfold Link.send
  split
  · exact .refl h answers
  · dsimp only
    have hfirst := flushIf h (!l.writable) answers
    split
    · exact hfirst
    · have hsecond := hfirst.andThen_flushIf
        (l.marks.nearlyFull (l.flushIf (!l.writable) answers).link.buffer.size)
      split
      · exact hsecond
      · rename_i hc
        exact hsecond.put (by simpa [Step.andThen] using hc) c _

end Passes

/-! ## Runs -/

/-- What is done with a link, and what the connection answers meanwhile. -/
inductive Operation where
  | attach
  | connect (answer : ConnectAnswer)
  | send (c : Command) (answers : List WriteAnswer)
  | flush (answers : List WriteAnswer)
  | close (answers : List WriteAnswer)

/-- What was taken for a connection, and what was written to it. -/
structure Transfer where
  taken : List Command
  received : ByteArray

/-- A link with the transfers over all its connections, the latest first. -/
structure Traffic where
  link : Link
  transfers : List Transfer

namespace Traffic

def start (marks : Marks) : Traffic := ⟨.unconnected marks, []⟩

def begin (t : Traffic) (l : Link) : Traffic := ⟨l, ⟨[], .empty⟩ :: t.transfers⟩

/-- Some commands are taken, and something is written to the latest connection. -/
def record (t : Traffic) (cs : List Command) (s : Step) : Traffic where
  link := s.link
  transfers := match t.transfers with
    | [] => []
    | x :: earlier => ⟨x.taken ++ cs, x.received ++ s.written⟩ :: earlier

def perform (t : Traffic) : Operation → Traffic
  | .attach => t.begin t.link.attach
  | .connect answer =>
    if t.link.connected = (t.link.connect answer).connected then ⟨t.link.connect answer, t.transfers⟩
    else t.begin (t.link.connect answer)
  | .send c answers =>
    t.record (if (t.link.send c answers).1 then [c] else []) (t.link.send c answers).2
  | .flush answers => t.record [] (t.link.flush answers)
  | .close answers => t.record [] (t.link.close answers)

/-- Each connection has received a first part of the commands that were taken for it, and what the
latest one lacks while it lasts is in the buffer. -/
structure InOrder (t : Traffic) : Prop where
  settled : t.link.Settled
  part : ∀ x ∈ t.transfers, ∃ lost, x.received ++ lost = Command.stream x.taken
  whole : t.link.connected = true → ∃ x earlier, t.transfers = x :: earlier ∧
    x.received ++ t.link.buffer = Command.stream x.taken

variable {t : Traffic}

namespace InOrder

theorem start (marks : Marks) : (start marks).InOrder :=
  ⟨.unconnected marks, by simp [Traffic.start], by simp [Traffic.start, Link.unconnected]⟩

theorem begin (h : t.InOrder) {l : Link} (hs : l.Settled) (hb : l.buffer = .empty) :
    (t.begin l).InOrder where
  settled := hs
  part := by
    intro x hx
    rcases List.mem_cons.mp hx with rfl | hx
    · exact ⟨.empty, ByteArray.append_empty⟩
    · exact h.part x hx
  whole := fun _ => ⟨_, _, rfl, by rw [Command.stream_nil, ByteArray.empty_append]; exact hb⟩

theorem record_of_connected (h : t.InOrder) (hc : t.link.connected = true) {cs : List Command}
    (hp : t.link.Passes (Command.stream cs) s) : (t.record cs s).InOrder := by
  obtain ⟨hs, ⟨lost, he, hl⟩, _⟩ := hp
  obtain ⟨y, earlier, ht, hy⟩ := h.whole hc
  have hr : (t.record cs s).transfers = ⟨y.taken ++ cs, y.received ++ s.written⟩ :: earlier := by
    simp [Traffic.record, ht]
  have hz : y.received ++ s.written ++ (s.link.buffer ++ lost) = Command.stream (y.taken ++ cs) := by
    rw [ByteArray.append_assoc, he, ← ByteArray.append_assoc, hy, Command.stream_append]
  refine ⟨hs, fun x hx => ?_, fun hc' => ⟨_, earlier, hr, ?_⟩⟩
  · rw [hr] at hx
    rcases List.mem_cons.mp hx with rfl | hx
    · exact ⟨_, hz⟩
    · exact h.part x (by simp [ht, hx])
  · rw [hl hc', ByteArray.append_empty] at hz
    exact hz

theorem record_of_not_connected (h : t.InOrder) (hc : t.link.connected = false) {cs : List Command}
    (hp : t.link.Passes (Command.stream cs) s) : (t.record cs s).InOrder := by
  obtain ⟨hn, hw, ha⟩ := hp.idle hc
  refine ⟨hp.settled, fun x hx => ?_, fun hc' => ?_⟩
  · -- Nothing was written and no command was taken, so the latest transfer stands as it was.
    cases ht : t.transfers with
    | nil => simp [Traffic.record, ht] at hx
    | cons y earlier =>
        simp only [Traffic.record, ht, List.mem_cons] at hx
        rcases hx with rfl | hx
        · obtain ⟨lost, hy⟩ := h.part y (by simp [ht])
          exact ⟨lost, by rw [hw, Command.stream_append, ha, ByteArray.append_empty,
            ByteArray.append_empty, hy]⟩
        · exact h.part x (by simp [ht, hx])
  · exact absurd (hn.symm.trans hc') (by simp)

theorem record (h : t.InOrder) {cs : List Command} (hp : t.link.Passes (Command.stream cs) s) :
    (t.record cs s).InOrder := by
  cases hc : t.link.connected with
  | true => exact h.record_of_connected hc hp
  | false => exact h.record_of_not_connected hc hp

theorem perform (h : t.InOrder) (o : Operation) : (t.perform o).InOrder := by
  cases o with
  | attach => exact h.begin (.attach t.link) rfl
  | connect answer =>
      by_cases hc : t.link.connected = true ∨ answer ≠ .accepted
      · simpa only [Traffic.perform, Link.connect, hc, ↓reduceIte] using h
      · have hn : t.link.connected = false := by simpa using (not_or.mp hc).1
        simp only [Traffic.perform, Link.connect, hc, ↓reduceIte]
        rw [if_neg (by simp [hn, Link.attach])]
        exact h.begin (.attach t.link) rfl
  | send c answers =>
      refine h.record ?_
      have hp := Passes.send h.settled c answers
      split at hp <;> rename_i ht <;> simpa [ht] using hp
  | flush answers => exact h.record (.flush h.settled answers)
  | close answers => exact h.record (.close h.settled answers)

theorem performs (h : t.InOrder) (operations : List Operation) :
    (operations.foldl Traffic.perform t).InOrder := by
  induction operations generalizing t with
  | nil => exact h
  | cons o operations ih => exact ih (h.perform o)

end InOrder

/-- After any operations, whatever the connections answer: while a connection lasts, what was written to it
and then the buffer are the commands that were taken for it, whole and in order; every other connection
has received a first part of the commands that were taken for it; and without a connection the buffer is
empty, others are told so, and no command is taken. -/
theorem transfers_in_order (marks : Marks) (operations : List Operation) :
    let t := operations.foldl Traffic.perform (.start marks)
    (t.link.connected = true → ∃ x earlier, t.transfers = x :: earlier ∧
      x.received ++ t.link.buffer = Command.stream x.taken) ∧
    (∀ x ∈ t.transfers, ∃ lost, x.received ++ lost = Command.stream x.taken) ∧
    t.link.announced = t.link.connected ∧
    (t.link.connected = false → t.link.buffer = .empty ∧
      ∀ c answers, t.link.send c answers = (false, ⟨t.link, .empty, answers⟩)) := by
  intro t
  have h : t.InOrder := (InOrder.start marks).performs operations
  exact ⟨h.whole, h.part, h.settled.announced_eq,
    fun hc => ⟨h.settled.buffer_eq hc, send_of_not_connected hc⟩⟩

/-- A connection that fails within a command leaves nothing of it to the next one. -/
example :
    let t := List.foldl perform (.start .defaults)
      [.attach, .send .reloadInsights [], .flush [.taken 6, .failed], .attach, .send .reloadInsights [],
        .close [.taken 15]]
    t.transfers.map (·.received) = ["RELOADINSIGHTS\n".toUTF8, "RELOAD".toUTF8] := by
  decide +kernel

end Traffic

end Link

end MetricsAgent
