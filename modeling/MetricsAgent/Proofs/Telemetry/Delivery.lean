import MetricsAgent.Daemon.Tally
import MetricsAgent.Proofs.Link.Arrivals
import MetricsAgent.Proofs.Telemetry.Sessions

/-!
# Events are delivered in order

Producers, new settings, the event writer, the sampler and the health checks share one queue and one link. They
take turns in any order (`Exchange`): an operation on the queue is one turn, and so is each hold of the link. The
writer takes an event off the queue in one turn and hands it to the link in another, and who reports an event has
looked for a connection some time before.

Each event keeps the number under which it was queued, and what becomes of it is told by what the link itself
takes in the holds.
-/

namespace MetricsAgent

namespace Telemetry

variable {ε δ : Type} {t t' : Telemetry ε δ} {s : Session}

/-! ## The queue -/

def waiting (t : Telemetry ε δ) : List Command := t.session.elim [] (·.queue)

theorem waiting_of_session (hs : t.session = some s) : t.waiting = s.queue := by simp [waiting, hs]

/-- Queues an event, if a connection was seen. -/
def offer (seen : Bool) (i : Insight) (t : Telemetry ε δ) : Bool × Telemetry ε δ :=
  if seen then t.enqueue (.putInsight i.write) else (false, t)

theorem reportEvent_eq_offer (t : Telemetry ε δ) (i : Insight) :
    t.reportEvent i = t.offer t.isConnected i := rfl

theorem enqueue_of_session (hs : t.session = some s) (c : Command) :
    t.enqueue c = (true, { t with session := some { s with queue := s.queue ++ [c] } }) ∨
    t.enqueue c = (false, t) := by
  unfold enqueue
  rw [hs]
  dsimp only
  split
  · exact .inl rfl
  · exact .inr rfl

theorem offer_of_session (hs : t.session = some s) (seen : Bool) (i : Insight) :
    t.offer seen i = (true, { t with session := some { s with queue := s.queue ++ [.putInsight i.write] } }) ∨
    t.offer seen i = (false, t) := by
  cases seen with
  | false => exact .inr rfl
  | true => exact enqueue_of_session hs _

theorem requeued_eq_append (size : Nat) (state : DaemonState) (queue : List Command) :
    ∃ added, requeued size state queue = queue ++ added := by
  unfold requeued
  split
  · exact ⟨_, rfl⟩
  · exact ⟨[], (List.append_nil _).symm⟩

/-! ## The writer -/

/-- Takes the event off the queue that has waited longest. -/
def takeEvent (t : Telemetry ε δ) : Option (Command × Telemetry ε δ) :=
  match t.session with
  | none => none
  | some s =>
    match s.queue with
    | [] => none
    | c :: queue => some (c, { t with session := some { s with queue } })

def putEvent (c : Command) (answers : List WriteAnswer) (t : Telemetry ε δ) : Telemetry ε δ :=
  match t.session with
  | none => t
  | some s => { t with session := some { s with link := (s.link.sendAndFlush c answers).link } }

/-- Writing an event is taking it and handing it over. -/
theorem writeEvent_eq_putEvent (answers : List WriteAnswer) (t : Telemetry ε δ) :
    (t.writeEvent answers).2 = t.takeEvent.elim t fun p => p.2.putEvent p.1 answers := by
  unfold writeEvent takeEvent
  cases hs : t.session with
  | none => rfl
  | some s =>
      dsimp only
      cases s.queue with
      | nil => rfl
      | cons c queue => rfl

theorem takeEvent_of_session (hs : t.session = some s) :
    (s.queue = [] ∧ t.takeEvent = none) ∨
    ∃ c queue, s.queue = c :: queue ∧
      t.takeEvent = some (c, { t with session := some { s with queue } }) := by
  unfold takeEvent
  rw [hs]
  dsimp only
  split
  · exact .inl ⟨‹_›, rfl⟩
  · exact .inr ⟨_, _, ‹_›, rfl⟩

/-! ## The sampler -/

def cycleOutputs (report : Context → ε → Occasion → Except Fault Report) (now : Int) (t : Telemetry ε δ)
    (s : Session) : List Output :=
  match t.roster.cycle (report (t.context now)) t.setup.batchSize s.tick t.settings.insightEvery with
  | .ok (outputs, _) => outputs
  | .error _ => []

theorem session_sample {report : Context → ε → Occasion → Except Fault Report} {now : Int}
    {answers : List WriteAnswer} {written : ByteArray} (hs : t.session = some s)
    (h : t.sample report now answers = .ok (written, t')) :
    t'.session = some { s with
      link := (s.link.deliver (t.cycleOutputs report now s) answers).link
      tick := s.tick + 1 } := by
  unfold sample at h
  unfold cycleOutputs
  rw [hs] at h
  dsimp only at h
  cases hc : t.roster.cycle (report (t.context now)) t.setup.batchSize s.tick t.settings.insightEvery with
  | error f => rw [hc] at h; cases h
  | ok p => rw [hc] at h; cases h; rfl

theorem connect_of_session (hs : t.session = some s) (answer : ConnectAnswer) :
    (t.connect answer).session = some { s with link := s.link.connect answer } := by
  simp [connect, hs]

end Telemetry

/-! ## Turns -/

/-- Telemetry with an account of its events. -/
structure Exchange (ε δ : Type) where
  telemetry : Telemetry ε δ
  /-- All that was ever queued, in order. -/
  queued : List Command
  /-- How many events were taken off the queue. -/
  taken : Nat
  /-- The event that was taken off the queue last, with its number, until it is handed to the link. -/
  hand : Option (Command × Nat)
  holds : List Hold

/-- One turn of those who share the queue and the link, and what the connection answers. -/
inductive Turn (ε δ : Type) where
  /-- An event is reported, by someone who has seen a connection or none. -/
  | report (seen : Bool) (i : Insight)
  | reconfigure (old new : Settings)
  | take
  | write (answers : List WriteAnswer)
  | sample (report : Context → ε → Occasion → Except Fault Report) (now : Int) (answers : List WriteAnswer)
  | connect (answer : ConnectAnswer)
  /-- Anything that concerns neither the queue nor the link. -/
  | elsewhere (change : Telemetry ε δ → Telemetry ε δ)

namespace Exchange

variable {ε δ : Type} {x : Exchange ε δ} {s s₀ : Session}

/-- Begins in a session. What waits there counts as queued. -/
def start (t : Telemetry ε δ) (s : Session) : Exchange ε δ :=
  ⟨{ t with session := some s }, s.queue, 0, none, []⟩

/-- Something was done to the queue. -/
def queue (x : Exchange ε δ) (telemetry : Telemetry ε δ) : Exchange ε δ :=
  { x with telemetry, queued := x.queued ++ telemetry.waiting.drop x.telemetry.waiting.length }

/-- The writer takes an event, unless it has one. -/
def take (x : Exchange ε δ) : Exchange ε δ :=
  match x.hand, x.telemetry.takeEvent with
  | none, some (c, telemetry) => { x with telemetry, taken := x.taken + 1, hand := some (c, x.taken) }
  | _, _ => x

def write (answers : List WriteAnswer) (x : Exchange ε δ) : Exchange ε δ :=
  match x.telemetry.session, x.hand with
  | some s, some (c, number) =>
    { x with
      telemetry := x.telemetry.putEvent c answers
      hand := none
      holds := x.holds ++ [.deliver (.event number) (s.link.eventOutputs c answers) answers] }
  | _, _ => x

/-- A cycle whose reports fail is left out. -/
def sample (report : Context → ε → Occasion → Except Fault Report) (now : Int) (answers : List WriteAnswer)
    (x : Exchange ε δ) : Exchange ε δ :=
  match x.telemetry.session, x.telemetry.sample report now answers with
  | some s, .ok (_, telemetry) =>
    { x with
      telemetry
      holds := x.holds ++ [.deliver (.cycle s.tick) (x.telemetry.cycleOutputs report now s) answers] }
  | _, _ => x

def turn (m : Matching) (life : Lifecycle δ) (x : Exchange ε δ) : Turn ε δ → Exchange ε δ
  | .report seen i => x.queue (x.telemetry.offer seen i).2
  | .reconfigure old new => x.queue (x.telemetry.reconfigure m life old new)
  | .take => x.take
  | .write answers => x.write answers
  | .sample report now answers => x.sample report now answers
  | .connect answer =>
    { x with telemetry := x.telemetry.connect answer, holds := x.holds ++ [.connect answer] }
  | .elsewhere change =>
    { x with telemetry := { change x.telemetry with session := x.telemetry.session } }

/-- A writer that hands an event over at once does what writing an event does. -/
theorem telemetry_write_take (hs : x.telemetry.session = some s) (hh : x.hand = none)
    (answers : List WriteAnswer) :
    (x.take.write answers).telemetry = (x.telemetry.writeEvent answers).2 := by
  rw [Telemetry.writeEvent_eq_putEvent, take, hh]
  rcases Telemetry.takeEvent_of_session hs with ⟨_, ht⟩ | ⟨c, queue, _, ht⟩
  · rw [ht]
    simp [write, hh]
  · rw [ht]
    rfl

/-! ## What every turn keeps -/

/-- The link has gone through the holds, and the queue is what was not taken off it. The events that arrived,
and then the one in the writer's hand, were taken off the queue in this order. -/
structure Delivers (s₀ : Session) (x : Exchange ε δ) (s : Session) : Prop where
  session_eq : x.telemetry.session = some s
  link_eq : s.link = x.holds.foldl Hold.apply s₀.link
  queue_eq : s.queue = x.queued.drop x.taken
  taken_le : x.taken ≤ x.queued.length
  numbered : ((arrivals s₀.link x.holds).filterMap eventOf? ++ x.hand.toList).Sublist
    (x.queued.zipIdx.take x.taken)
  orderly : Orderly s.tick (arrivals s₀.link x.holds)

namespace Delivers

theorem start (t : Telemetry ε δ) (s : Session) : Delivers s (start t s) s where
  session_eq := rfl
  link_eq := rfl
  queue_eq := rfl
  taken_le := Nat.zero_le _
  numbered := List.Sublist.refl _
  orderly := .none _

theorem arrivals_eq (h : Delivers s₀ x s) (hold : Hold) :
    arrivals s₀.link (x.holds ++ [hold]) = arrivals s₀.link x.holds ++ hold.arrivals s.link := by
  rw [arrivals_concat, ← h.link_eq]

theorem apply_eq (h : Delivers s₀ x s) (hold : Hold) :
    hold.apply s.link = (x.holds ++ [hold]).foldl Hold.apply s₀.link := by
  rw [List.foldl_append, ← h.link_eq]
  rfl

theorem queue (h : Delivers s₀ x s) {t' : Telemetry ε δ} {added : List Command}
    (ht : t'.session = some { s with queue := s.queue ++ added }) :
    Delivers s₀ (x.queue t') { s with queue := s.queue ++ added } := by
  have hadded : (x.queue t').queued = x.queued ++ added := by
    rw [Exchange.queue, Telemetry.waiting_of_session ht, Telemetry.waiting_of_session h.session_eq,
      List.drop_left]
  refine ⟨ht, h.link_eq, ?_, ?_, ?_, h.orderly⟩
  · rw [hadded]
    change s.queue ++ added = (x.queued ++ added).drop x.taken
    rw [List.drop_append_of_le_length h.taken_le, h.queue_eq]
  · rw [hadded, List.length_append]
    exact Nat.le_add_right_of_le h.taken_le
  · rw [hadded, List.zipIdx_append]
    change List.Sublist _ ((x.queued.zipIdx ++ _).take x.taken)
    rw [List.take_append_of_le_length (by rw [List.length_zipIdx]; exact h.taken_le)]
    exact h.numbered

theorem take (h : Delivers s₀ x s) : ∃ s', Delivers s₀ x.take s' := by
  unfold Exchange.take
  cases hh : x.hand with
  | some p => exact ⟨s, h⟩
  | none =>
      rcases Telemetry.takeEvent_of_session h.session_eq with ⟨_, ht⟩ | ⟨c, queue, hq, ht⟩
      · rw [ht]
        exact ⟨s, h⟩
      · rw [ht]
        have hdrop : x.queued.drop x.taken = c :: queue := h.queue_eq.symm.trans hq
        have hget : x.queued[x.taken]? = some c := by
          rw [← Nat.add_zero x.taken, ← List.getElem?_drop, hdrop]
          rfl
        have hlt : x.taken < x.queued.length := (List.getElem?_eq_some_iff.mp hget).1
        refine ⟨{ s with queue }, rfl, h.link_eq, ?_, hlt, ?_, h.orderly⟩
        · change queue = x.queued.drop (x.taken + 1)
          rw [← List.tail_drop, hdrop]
          rfl
        · -- The event in hand is the last of those that were taken.
          have htake : x.queued.zipIdx.take (x.taken + 1) = x.queued.zipIdx.take x.taken ++ [(c, x.taken)] := by
            rw [List.take_add_one, List.getElem?_zipIdx, hget, Nat.zero_add]
            rfl
          have hn := h.numbered
          rw [hh, Option.toList_none, List.append_nil] at hn
          change List.Sublist _ (x.queued.zipIdx.take (x.taken + 1))
          rw [htake]
          exact hn.append (List.Sublist.refl _)

theorem write (h : Delivers s₀ x s) (answers : List WriteAnswer) : ∃ s', Delivers s₀ (x.write answers) s' := by
  unfold Exchange.write
  rw [h.session_eq]
  split
  · rename_i s' c number hs hh
    cases hs
    have harrivals : (Hold.deliver (.event number) (s.link.eventOutputs c answers) answers).arrivals s.link =
        if (s.link.send c answers).1 then [(.event number, .command c), (.event number, .flush)] else [] := by
      rw [Hold.arrivals, Link.accepted_eventOutputs]
      split <;> rfl
    have hn := h.numbered
    rw [hh] at hn
    refine ⟨{ s with link := (s.link.sendAndFlush c answers).link }, ?_, ?_, h.queue_eq, h.taken_le, ?_, ?_⟩
    · simp only [Telemetry.putEvent, h.session_eq]
    · rw [← h.apply_eq, Hold.apply, Link.sendAndFlush_eq_deliver]
    · rw [h.arrivals_eq, harrivals, List.filterMap_append, Option.toList_none, List.append_nil]
      split
      · exact hn
      · -- The link did not take the event, which is lost.
        rw [List.filterMap_nil, List.append_nil]
        exact (List.sublist_append_left ..).trans hn
    · rw [h.arrivals_eq, harrivals]
      split
      · exact h.orderly.event number c
      · rw [List.append_nil]
        exact h.orderly
  · exact ⟨s, h⟩

theorem sample (h : Delivers s₀ x s) (report : Context → ε → Occasion → Except Fault Report) (now : Int)
    (answers : List WriteAnswer) : ∃ s', Delivers s₀ (x.sample report now answers) s' := by
  unfold Exchange.sample
  rw [h.session_eq]
  split
  · rename_i s' written t' hs ht
    cases hs
    have hevents (outputs : List Output) :
        (outputs.map (Origin.cycle s.tick, ·)).filterMap eventOf? = [] := by
      rw [List.filterMap_map]
      exact List.filterMap_eq_nil_iff.mpr fun _ _ => rfl
    refine ⟨_, Telemetry.session_sample h.session_eq ht, ?_, h.queue_eq, h.taken_le, ?_, ?_⟩
    · rw [← h.apply_eq]
      rfl
    · rw [h.arrivals_eq, Hold.arrivals, List.filterMap_append, hevents, List.append_nil]
      exact h.numbered
    · rw [h.arrivals_eq]
      exact h.orderly.cycle _
  · exact ⟨s, h⟩

theorem connect (h : Delivers s₀ x s) (answer : ConnectAnswer) :
    Delivers s₀ { x with telemetry := x.telemetry.connect answer, holds := x.holds ++ [.connect answer] }
      { s with link := s.link.connect answer } := by
  have harrivals : arrivals s₀.link (x.holds ++ [.connect answer]) = arrivals s₀.link x.holds := by
    rw [h.arrivals_eq, Hold.arrivals, List.append_nil]
  refine ⟨Telemetry.connect_of_session h.session_eq answer, h.apply_eq (.connect answer), h.queue_eq,
    h.taken_le, ?_, ?_⟩
  · rw [harrivals]
    exact h.numbered
  · rw [harrivals]
    exact h.orderly

theorem turn (h : Delivers s₀ x s) (m : Matching) (life : Lifecycle δ) (u : Turn ε δ) :
    ∃ s', Delivers s₀ (x.turn m life u) s' := by
  cases u with
  | report seen i =>
      rcases Telemetry.offer_of_session h.session_eq seen i with ht | ht
      · exact ⟨_, h.queue (by rw [ht])⟩
      · have hsame : (x.telemetry.offer seen i).2.session = some { s with queue := s.queue ++ [] } := by
          rw [ht, List.append_nil]
          exact h.session_eq
        exact ⟨_, h.queue hsame⟩
  | reconfigure old new =>
      obtain ⟨added, ha⟩ := Telemetry.requeued_eq_append x.telemetry.setup.queueSize
        (life.reload new x.telemetry.daemon).1 s.queue
      exact ⟨_, h.queue (by rw [Telemetry.reconfigure_of_session h.session_eq, ha])⟩
  | take => exact h.take
  | write answers => exact h.write answers
  | sample report now answers => exact h.sample report now answers
  | connect answer => exact ⟨_, h.connect answer⟩
  | elsewhere change => exact ⟨s, h.session_eq, h.link_eq, h.queue_eq, h.taken_le, h.numbered, h.orderly⟩

theorem turns (h : Delivers s₀ x s) (m : Matching) (life : Lifecycle δ) (us : List (Turn ε δ)) :
    ∃ s', Delivers s₀ (us.foldl (Exchange.turn m life) x) s' := by
  induction us generalizing x s with
  | nil => exact ⟨s, h⟩
  | cons u us ih =>
      obtain ⟨s', h'⟩ := h.turn m life u
      exact ih h'

end Delivers

/-- A report either queues the event, at the end, or does nothing. -/
theorem report_cases (h : x.telemetry.session = some s) (m : Matching) (life : Lifecycle δ) (seen : Bool)
    (i : Insight) :
    ((x.telemetry.offer seen i).1 = true ∧
      (x.turn m life (.report seen i)).queued = x.queued ++ [.putInsight i.write]) ∨
    ((x.telemetry.offer seen i).1 = false ∧ x.turn m life (.report seen i) = x) := by
  rcases Telemetry.offer_of_session h seen i with ht | ht
  · refine .inl ⟨by rw [ht], ?_⟩
    rw [turn, queue, ht, Telemetry.waiting_of_session h, Telemetry.waiting_of_session rfl, List.drop_left]
  · refine .inr ⟨by rw [ht], ?_⟩
    rw [turn, queue, ht, List.drop_length, List.append_nil]

/-- After any turns from any session on. The link is what the holds have made of it, and the queue what was not
taken off it. The events that arrived at the link did so in the order in which they were queued, and none of them
twice. Each of them is followed by its flush, and between two outputs of a sampling cycle there are only outputs
of that cycle. Who reports an event is told that it was taken exactly if it was queued, once; else nothing
changes. -/
theorem events_delivered (m : Matching) (life : Lifecycle δ) (t : Telemetry ε δ) (s : Session)
    (turns : List (Turn ε δ)) :
    let x := turns.foldl (turn m life) (start t s)
    let log := arrivals s.link x.holds
    (∃ s', x.telemetry.session = some s' ∧ s'.link = x.holds.foldl Hold.apply s.link ∧
      s'.queue = x.queued.drop x.taken) ∧
    (log.filterMap eventOf?).Sublist x.queued.zipIdx ∧
    (∀ (i number : Nat) (c : Command), log[i]? = some (.event number, .command c) →
      log[i + 1]? = some (.event number, .flush)) ∧
    (∀ (i j k tick : Nat) (o o' : Output), i < j → j < k → log[i]? = some (.cycle tick, o) →
      log[k]? = some (.cycle tick, o') → ∃ o'', log[j]? = some (.cycle tick, o'')) ∧
    ∀ seen i, x.telemetry.reportEvent i = x.telemetry.offer x.telemetry.isConnected i ∧
      (((x.telemetry.offer seen i).1 = true ∧
        (x.turn m life (.report seen i)).queued = x.queued ++ [.putInsight i.write]) ∨
      ((x.telemetry.offer seen i).1 = false ∧ x.turn m life (.report seen i) = x)) := by
  intro x log
  obtain ⟨s', h⟩ := (Delivers.start t s).turns m life turns
  refine ⟨⟨s', h.session_eq, h.link_eq, h.queue_eq⟩, ?_, fun i number c => h.orderly.flush_next,
    fun i j k tick o o' hij hjk => h.orderly.between hij hjk, fun seen i => ⟨rfl, ?_⟩⟩
  · exact ((List.sublist_append_left ..).trans h.numbered).trans (List.take_sublist ..)
  · exact report_cases h.session_eq m life seen i

/-- The connection fails at the flush of the first of two events, and the second goes over the next one. -/
example :
    let t : Telemetry Unit Tally :=
      .create (.ofSocket .empty ⟨"node", "datacenter", "rack", "cluster"⟩) .defaults {}
    let s : Session := ⟨(Link.unconnected .defaults).attach, [.reloadInsights, .reloadInsights], 0⟩
    let turns : List (Turn Unit Tally) :=
      [.take, .write [.failed], .take, .connect .accepted, .write [.taken 15]]
    arrivals s.link (turns.foldl (turn (fun _ _ => true) Tally.life) (start t s)).holds =
      [(.event 0, .command .reloadInsights), (.event 0, .flush),
        (.event 1, .command .reloadInsights), (.event 1, .flush)] := by
  rfl

end Exchange

end MetricsAgent
