import Mathlib.Data.List.Induction
import MetricsAgent.Proofs.Roster.History
import MetricsAgent.Telemetry.Basic

/-!
# Sessions

A session begins with a start that succeeds and lasts until the next close. Only these two ask for the daemon's
start and stop, each once. While no session is open no metric waits for its final report (`Settled`), so the
metrics that wait for it were all removed in the present session.
-/

namespace MetricsAgent

/-- What is asked of the daemon. -/
inductive Request where
  | start (socket : ByteArray) (t : Settings)
  | check
  | stop
  | reload (t : Settings)

/-- The lifecycle, noting every request in order. -/
def Lifecycle.noting {δ : Type} (life : Lifecycle δ) : Lifecycle (δ × List Request) where
  start socket t d :=
    ((life.start socket t d.1).1, (life.start socket t d.1).2, d.2 ++ [.start socket t])
  check d := ((life.check d.1).1, (life.check d.1).2, d.2 ++ [.check])
  stop d := ((life.stop d.1).1, (life.stop d.1).2, d.2 ++ [.stop])
  reload t d := ((life.reload t d.1).1, (life.reload t d.1).2, d.2 ++ [.reload t])

namespace Telemetry

variable {ε δ : Type} {m : Matching} {life : Lifecycle δ} {t t' : Telemetry ε δ}

/-! ## Steps that only talk to the socket -/

/-- Whether a session is open stays the same, and so do the roster and the daemon. -/
structure OnlyTalks (t t' : Telemetry ε δ) : Prop where
  isStarted_eq : t'.isStarted = t.isStarted
  roster_eq : t'.roster = t.roster
  daemon_eq : t'.daemon = t.daemon

theorem OnlyTalks.refl (t : Telemetry ε δ) : OnlyTalks t t := ⟨rfl, rfl, rfl⟩

theorem connect_onlyTalks (answer : ConnectAnswer) (t : Telemetry ε δ) : OnlyTalks t (t.connect answer) := by
  unfold connect
  split
  · exact .refl t
  · rename_i s hs
    exact ⟨by simp [isStarted, hs], rfl, rfl⟩

theorem enqueue_onlyTalks (t : Telemetry ε δ) (c : Command) : OnlyTalks t (t.enqueue c).2 := by
  unfold enqueue
  split
  · exact .refl t
  · rename_i s hs
    split
    · exact ⟨by simp [isStarted, hs], rfl, rfl⟩
    · exact .refl t

theorem reportEvent_onlyTalks (t : Telemetry ε δ) (i : Insight) : OnlyTalks t (t.reportEvent i).2 := by
  unfold reportEvent
  split
  · exact enqueue_onlyTalks t _
  · exact .refl t

theorem writeEvent_onlyTalks (answers : List WriteAnswer) (t : Telemetry ε δ) :
    OnlyTalks t (t.writeEvent answers).2 := by
  unfold writeEvent
  split
  · exact .refl t
  · rename_i s hs
    split
    · exact .refl t
    · exact ⟨by simp [isStarted, hs], rfl, rfl⟩

theorem receive_onlyTalks (t : Telemetry ε δ) (text : String) : OnlyTalks t (t.receive text) := by
  unfold receive
  split
  · exact ⟨rfl, rfl, rfl⟩
  · exact .refl t

/-! ## Starting and closing -/

theorem session_eq_none (h : t.isStarted = false) : t.session = none := by
  simpa [isStarted] using h

theorem exists_session (h : t.isStarted = true) : ∃ s, t.session = some s :=
  Option.isSome_iff_exists.mp h

theorem start_of_started (h : t.isStarted = true) (answer : ConnectAnswer) :
    t.start life answer = (.error .alreadyStarted, t) := by
  obtain ⟨s, hs⟩ := exists_session h
  simp [start, hs]

/-- A start that succeeds asks the daemon to start, whether or not there is a connection then. -/
theorem start_of_not_started (h : t.isStarted = false) (answer : ConnectAnswer) :
    (t.start life answer).1 = .ok () ∧ (t.start life answer).2.isStarted = true ∧
      (t.start life answer).2.roster = t.roster ∧
      (t.start life answer).2.daemon = (life.start t.setup.socket t.settings t.daemon).2 := by
  rw [start, session_eq_none h]
  dsimp only
  obtain ⟨hs, hr, hd⟩ := connect_onlyTalks answer { t with
    daemon := (life.start t.setup.socket t.settings t.daemon).2
    session := some ⟨.unconnected t.setup.marks, [], 0⟩ }
  exact ⟨rfl, hs, hr, hd⟩

theorem close_of_not_started (h : t.isStarted = false) (answers : List WriteAnswer) :
    t.close life answers = (.error .alreadyStopped, t) := by
  simp [close, session_eq_none h]

theorem close_of_started (h : t.isStarted = true) (answers : List WriteAnswer) :
    (∃ written, (t.close life answers).1 = .ok written) ∧ (t.close life answers).2.isStarted = false ∧
      (t.close life answers).2.roster = t.roster.clearRetired ∧
      (t.close life answers).2.daemon = (life.stop t.daemon).2 := by
  obtain ⟨s, hs⟩ := exists_session h
  rw [close, hs]
  exact ⟨⟨_, rfl⟩, rfl, rfl, rfl⟩

/-! ## New settings -/

/-- The roster under new settings: it is routed anew if the rules differ from the old ones. -/
def rerouted (m : Matching) (old new : Settings) (r : Roster ε) : Roster ε :=
  if old.rules = new.rules then r else r.refresh (Rule.route m new.rules)

theorem retired_rerouted (m : Matching) (old new : Settings) (r : Roster ε) :
    (rerouted m old new r).retired = r.retired := by
  unfold rerouted
  split
  · rfl
  · exact Roster.retired_refresh _ r

/-- Asks a running daemon to read its settings again. -/
def askReload (life : Lifecycle δ) (new : Settings) (t : Telemetry ε δ) : Telemetry ε δ :=
  if t.isStarted then
    match life.reload new t.daemon with
    | (.started, daemon) => ({ t with daemon }.enqueue .reloadInsights).2
    | (_, daemon) => { t with daemon }
  else t

theorem reconfigure_eq_askReload (m : Matching) (life : Lifecycle δ) (old new : Settings)
    (t : Telemetry ε δ) : t.reconfigure m life old new =
      { t with settings := new, roster := rerouted m old new t.roster }.askReload life new := by
  unfold reconfigure rerouted
  split <;> rfl

theorem askReload_of_not_started (h : t.isStarted = false) (new : Settings) :
    t.askReload life new = t := by
  rw [askReload, h]
  rfl

/-- The queue after the daemon has answered the request to read its settings again. -/
def requeued (size : Nat) (state : DaemonState) (queue : List Command) : List Command :=
  if state = .started ∧ queue.length < max size 1 then queue ++ [.reloadInsights] else queue

theorem askReload_of_session {s : Session} (hs : t.session = some s) (new : Settings) :
    t.askReload life new = { t with
      daemon := (life.reload new t.daemon).2
      session := some { s with
        queue := requeued t.setup.queueSize (life.reload new t.daemon).1 s.queue } } := by
  have ht : t.isStarted = true := by simp [isStarted, hs]
  cases hl : life.reload new t.daemon with
  | mk state daemon =>
      rw [askReload, ht, hl]
      by_cases hq : s.queue.length < max t.setup.queueSize 1
      all_goals cases state <;> simp [requeued, enqueue, hs, hq]

theorem reconfigure_of_not_started (h : t.isStarted = false) (old new : Settings) :
    t.reconfigure m life old new = { t with settings := new, roster := rerouted m old new t.roster } := by
  rw [reconfigure_eq_askReload]
  exact askReload_of_not_started (t := { t with settings := new, roster := _ }) h new

theorem reconfigure_of_session {s : Session} (hs : t.session = some s) (old new : Settings) :
    t.reconfigure m life old new = { t with
      settings := new
      roster := rerouted m old new t.roster
      daemon := (life.reload new t.daemon).2
      session := some { s with
        queue := requeued t.setup.queueSize (life.reload new t.daemon).1 s.queue } } := by
  rw [reconfigure_eq_askReload]
  exact askReload_of_session (t := { t with settings := new, roster := _ }) hs new

theorem reconfigure_frame (m : Matching) (life : Lifecycle δ) (old new : Settings) (t : Telemetry ε δ) :
    (t.reconfigure m life old new).isStarted = t.isStarted ∧
      (t.reconfigure m life old new).roster = rerouted m old new t.roster ∧
      (t.reconfigure m life old new).daemon =
        if t.isStarted then (life.reload new t.daemon).2 else t.daemon := by
  cases h : t.isStarted with
  | false =>
      rw [reconfigure_of_not_started h]
      exact ⟨h, rfl, rfl⟩
  | true =>
      obtain ⟨s, hs⟩ := exists_session h
      rw [reconfigure_of_session hs]
      exact ⟨rfl, rfl, rfl⟩

/-! ## Sampling -/

theorem sample_frame {report : Context → ε → Occasion → Except Fault Report} {now : Int}
    {answers : List WriteAnswer} {written : ByteArray}
    (h : t.sample report now answers = .ok (written, t')) :
    t'.isStarted = t.isStarted ∧ t'.daemon = t.daemon ∧
      (t'.roster = t.roster ∨ t'.roster = t.roster.clearRetired) := by
  unfold sample at h
  split at h
  · cases h
    exact ⟨rfl, rfl, .inl rfl⟩
  · rename_i s hs
    unfold Roster.cycle at h
    cases hw : (Batch.ofSize t.setup.batchSize).writeAll (report (t.context now))
        (t.roster.due s.tick t.settings.insightEvery) with
    | error f => rw [hw] at h; cases h
    | ok b =>
        rw [hw] at h
        cases h
        exact ⟨by simp [isStarted, hs], rfl, .inr rfl⟩

/-! ## Runs -/

/-- What is done with telemetry, and what the world answers. The last three a session does by itself. -/
inductive Operation (ε : Type) where
  | start (answer : ConnectAnswer)
  | close (answers : List WriteAnswer)
  | register (name : String) (e : ε)
  | remove (name : String)
  | reconfigure (old new : Settings)
  | reportEvent (i : Insight)
  | sample (report : Context → ε → Occasion → Except Fault Report) (now : Int) (answers : List WriteAnswer)
  | writeEvent (answers : List WriteAnswer)
  | receive (text : String)

/-- Telemetry after an operation. A cycle whose reports fail is left out. -/
def perform (m : Matching) (life : Lifecycle δ) (t : Telemetry ε δ) : Operation ε → Telemetry ε δ
  | .start answer => (t.start life answer).2
  | .close answers => (t.close life answers).2
  | .register name e => t.register m name e
  | .remove name => t.remove name
  | .reconfigure old new => t.reconfigure m life old new
  | .reportEvent i => (t.reportEvent i).2
  | .sample report now answers =>
    match t.sample report now answers with
    | .ok (_, t') => t'
    | .error _ => t
  | .writeEvent answers => (t.writeEvent answers).2
  | .receive text => t.receive text

/-- Telemetry after some operations. -/
def after (m : Matching) (life : Lifecycle δ) (t : Telemetry ε δ) (operations : List (Operation ε)) :
    Telemetry ε δ :=
  operations.foldl (perform m life) t

theorem after_concat (m : Matching) (life : Lifecycle δ) (t : Telemetry ε δ)
    (operations : List (Operation ε)) (o : Operation ε) :
    after m life t (operations ++ [o]) = (after m life t operations).perform m life o := by
  simp [after]

/-- Whether a session is open after an operation, given whether one was before. -/
def Operation.leavesOpen : Operation ε → Bool → Bool
  | .start _, _ => true
  | .close _, _ => false
  | _, before => before

/-- What an operation asks of the daemon. -/
def Operation.asks (t : Telemetry ε δ) : Operation ε → List Request
  | .start _ => if t.isStarted then [] else [.start t.setup.socket t.settings]
  | .close _ => if t.isStarted then [.stop] else []
  | .reconfigure _ new => if t.isStarted then [.reload new] else []
  | _ => []

theorem isStarted_perform (m : Matching) (life : Lifecycle δ) (t : Telemetry ε δ) (o : Operation ε) :
    (t.perform m life o).isStarted = o.leavesOpen t.isStarted := by
  cases o with
  | start answer =>
      cases h : t.isStarted with
      | false => exact (start_of_not_started h answer).2.1
      | true => rw [perform, start_of_started h]; exact h
  | close answers =>
      cases h : t.isStarted with
      | false => rw [perform, close_of_not_started h]; exact h
      | true => exact (close_of_started h answers).2.1
  | register name e => rfl
  | remove name => rfl
  | reconfigure old new => exact (reconfigure_frame m life old new t).1
  | reportEvent i => exact (reportEvent_onlyTalks t i).isStarted_eq
  | sample report now answers =>
      rw [perform]
      split
      · rename_i h; exact (sample_frame h).1
      · rfl
  | writeEvent answers => exact (writeEvent_onlyTalks answers t).isStarted_eq
  | receive text => exact (receive_onlyTalks t text).isStarted_eq

theorem daemon_perform (m : Matching) (life : Lifecycle δ) (t : Telemetry ε (δ × List Request))
    (o : Operation ε) : (t.perform m life.noting o).daemon.2 = t.daemon.2 ++ o.asks t := by
  have hsame {t' : Telemetry ε (δ × List Request)} (h : t'.daemon = t.daemon) :
      t'.daemon.2 = t.daemon.2 ++ [] := by
    rw [h, List.append_nil]
  cases o with
  | start answer =>
      cases h : t.isStarted with
      | false =>
          rw [perform, (start_of_not_started h answer).2.2.2, Operation.asks, h]
          rfl
      | true =>
          rw [perform, start_of_started h, Operation.asks, h]
          exact hsame rfl
  | close answers =>
      cases h : t.isStarted with
      | false =>
          rw [perform, close_of_not_started h, Operation.asks, h]
          exact hsame rfl
      | true =>
          rw [perform, (close_of_started h answers).2.2.2, Operation.asks, h]
          rfl
  | register name e => exact hsame rfl
  | remove name => exact hsame rfl
  | reconfigure old new =>
      rw [perform, (reconfigure_frame m life.noting old new t).2.2, Operation.asks]
      split
      · rfl
      · exact hsame rfl
  | reportEvent i => exact hsame (reportEvent_onlyTalks t i).daemon_eq
  | sample report now answers =>
      rw [perform]
      split
      · rename_i h; exact hsame (sample_frame h).2.1
      · exact hsame rfl
  | writeEvent answers => exact hsame (writeEvent_onlyTalks answers t).daemon_eq
  | receive text => exact hsame (receive_onlyTalks t text).daemon_eq

/-! ## What waits for its final report -/

theorem mem_retired_remove {r : Roster ε} {name : String} {x : ε × Occasion}
    (h : x ∈ (r.remove name).retired) :
    x ∈ r.retired ∨ ∃ e c, r.at? name c = some e ∧ x ∈ Roster.finalOf (some (e, c)) := by
  unfold Roster.remove at h
  split at h
  · rename_i e he
    rw [Roster.retire, Roster.retired_eraseOn, List.mem_append] at h
    exact h.imp_right fun hx => ⟨e, .unrestricted, he, hx⟩
  · split at h
    · rename_i e he
      rw [Roster.retire, Roster.retired_eraseOn, List.mem_append] at h
      exact h.imp_right fun hx => ⟨e, .restricted, he, hx⟩
    · rw [Roster.retired_eraseOn] at h
      exact .inl h

/-- Only a removal lets a metric wait for its final report. -/
theorem mem_retired_perform {o : Operation ε} {x : ε × Occasion}
    (h : x ∈ (t.perform m life o).roster.retired) :
    x ∈ t.roster.retired ∨ ∃ name e c, o = .remove name ∧ t.roster.at? name c = some e ∧
      x ∈ Roster.finalOf (some (e, c)) := by
  cases o with
  | start answer =>
      cases hs : t.isStarted with
      | false => rw [perform, (start_of_not_started hs answer).2.2.1] at h; exact .inl h
      | true => rw [perform, start_of_started hs] at h; exact .inl h
  | close answers =>
      cases hs : t.isStarted with
      | false => rw [perform, close_of_not_started hs] at h; exact .inl h
      | true => rw [perform, (close_of_started hs answers).2.2.1] at h; cases h
  | register name e =>
      left
      simpa only [perform, register, Roster.register, Roster.retired_place] using h
  | remove name =>
      simp only [perform, remove] at h
      split at h
      · rcases mem_retired_remove h with hx | ⟨e, c, he, hx⟩
        · exact .inl hx
        · exact .inr ⟨name, e, c, rfl, he, hx⟩
      · cases h
  | reconfigure old new =>
      rw [perform, (reconfigure_frame m life old new t).2.1, retired_rerouted] at h
      exact .inl h
  | reportEvent i => rw [perform, (reportEvent_onlyTalks t i).roster_eq] at h; exact .inl h
  | sample report now answers =>
      rw [perform] at h
      split at h
      · rename_i hs
        rcases (sample_frame hs).2.2 with hr | hr
        · rw [hr] at h; exact .inl h
        · rw [hr] at h; cases h
      · exact .inl h
  | writeEvent answers => rw [perform, (writeEvent_onlyTalks answers t).roster_eq] at h; exact .inl h
  | receive text => rw [perform, (receive_onlyTalks t text).roster_eq] at h; exact .inl h

/-- While no session is open nothing waits for its final report. -/
def Settled (t : Telemetry ε δ) : Prop := t.isStarted = false → t.roster.retired = []

theorem Settled.perform (h : Settled t) (m : Matching) (life : Lifecycle δ) (o : Operation ε) :
    Settled (t.perform m life o) := by
  intro hs
  rw [isStarted_perform] at hs
  rw [List.eq_nil_iff_forall_not_mem]
  intro x hx
  cases o with
  | start answer => cases hs
  | close answers =>
      cases ht : t.isStarted with
      | false =>
          rw [Telemetry.perform, close_of_not_started ht] at hx
          rw [h ht] at hx
          cases hx
      | true =>
          rw [Telemetry.perform, (close_of_started ht answers).2.2.1] at hx
          cases hx
  | remove name =>
      have ht : t.isStarted = false := hs
      simp only [Telemetry.perform, remove, ht] at hx
      cases hx
  | _ =>
      -- Nothing was removed, so what waits now has waited before.
      rcases mem_retired_perform hx with hx | ⟨_, _, _, ho, _⟩
      · rw [h hs] at hx
        cases hx
      · cases ho

theorem Settled.after (h : Settled t) (m : Matching) (life : Lifecycle δ) (operations : List (Operation ε)) :
    Settled (after m life t operations) := by
  induction operations using List.reverseRecOn with
  | nil => exact h
  | append_singleton operations o ih => rw [after_concat]; exact ih.perform m life o

/-- A metric with this final report was removed while a session was open, which has been open since. -/
def RemovedInSession (run : List (Operation ε) → Telemetry ε δ) (operations : List (Operation ε))
    (x : ε × Occasion) : Prop :=
  ∃ before name later e c, operations = before ++ .remove name :: later ∧
    (run before).roster.at? name c = some e ∧ x ∈ Roster.finalOf (some (e, c)) ∧
    ∀ part, part <+: .remove name :: later → (run (before ++ part)).isStarted = true

theorem RemovedInSession.concat {run : List (Operation ε) → Telemetry ε δ} {operations : List (Operation ε)}
    {x : ε × Occasion} (h : RemovedInSession run operations x) {o : Operation ε}
    (ho : (run (operations ++ [o])).isStarted = true) : RemovedInSession run (operations ++ [o]) x := by
  obtain ⟨before, name, later, e, c, rfl, he, hx, hopen⟩ := h
  refine ⟨before, name, later ++ [o], e, c, by simp, he, hx, fun part hp => ?_⟩
  rw [← List.cons_append] at hp
  rcases List.prefix_concat_iff.mp hp with rfl | hp
  · simpa using ho
  · exact hopen part hp

theorem removedInSession_of_mem_retired (m : Matching) (life : Lifecycle δ) (h : Settled t)
    (hnone : t.roster.retired = []) (operations : List (Operation ε)) {x : ε × Occasion}
    (hx : x ∈ (after m life t operations).roster.retired) :
    RemovedInSession (after m life t) operations x := by
  induction operations using List.reverseRecOn with
  | nil =>
      have hx : x ∈ t.roster.retired := hx
      rw [hnone] at hx
      cases hx
  | append_singleton operations o ih =>
      have hopen (os : List (Operation ε)) (hm : x ∈ (after m life t os).roster.retired) :
          (after m life t os).isStarted = true := by
        by_contra hs
        rw [h.after m life os (by simpa using hs)] at hm
        cases hm
      have ho := hopen _ hx
      rw [after_concat] at hx
      rcases mem_retired_perform hx with hx | ⟨name, e, c, rfl, he, hf⟩
      · exact (ih hx).concat ho
      · refine ⟨operations, name, [], e, c, rfl, he, hf, fun part hp => ?_⟩
        rcases List.prefix_cons_iff.mp hp with rfl | ⟨rest, rfl, hr⟩
        · -- Removing does not open a session, so one was open before.
          rw [after_concat, isStarted_perform] at ho
          rw [List.append_nil]
          exact ho
        · cases List.prefix_nil.mp hr
          exact ho

theorem mem_retired_of_mem_due {r : Roster ε} {tick every : Nat} {e : ε} {withheld : Bool}
    (h : (e, .final withheld) ∈ r.due tick every) : (e, .final withheld) ∈ r.retired := by
  have hsample : Occasion.ofTick tick every ≠ .final withheld := by
    unfold Occasion.ofTick
    split <;> simp
  simpa [Roster.due, hsample] using h

/-- After any operations, and whatever a session does by itself meanwhile: a start succeeds exactly if no
session is open and a close exactly if one is, and what is refused changes nothing. A start that succeeds asks
the daemon to start, once, and a close that succeeds to stop; nothing else asks for that. While no session is
open nothing waits for its final report, there is no connection and no event is taken; and what a cycle reports
for the last time was removed in the session that is still open. -/
theorem sessions_after (m : Matching) (life : Lifecycle δ) (setup : Setup) (settings : Settings) (d : δ)
    (operations : List (Operation ε)) :
    let run := after m life.noting (create setup settings (d, []))
    let t := run operations
    (∀ answer, ((t.start life.noting answer).1 = .ok () ↔ t.isStarted = false) ∧
      (t.isStarted = true → t.start life.noting answer = (.error .alreadyStarted, t))) ∧
    (∀ answers, ((∃ written, (t.close life.noting answers).1 = .ok written) ↔ t.isStarted = true) ∧
      (t.isStarted = false → t.close life.noting answers = (.error .alreadyStopped, t))) ∧
    (∀ o, (t.perform m life.noting o).isStarted = o.leavesOpen t.isStarted ∧
      (t.perform m life.noting o).daemon.2 = t.daemon.2 ++ o.asks t) ∧
    (t.isStarted = false →
      t.roster.retired = [] ∧ t.isConnected = false ∧ ∀ i, t.reportEvent i = (false, t)) ∧
    (∀ tick every e withheld, (e, .final withheld) ∈ t.roster.due tick every →
      RemovedInSession run operations (e, .final withheld)) := by
  intro run t
  have hsettled : Settled (create setup settings (d, []) : Telemetry ε (δ × List Request)) := fun _ => rfl
  refine ⟨fun answer => ?_, fun answers => ?_, fun o => ⟨isStarted_perform .., daemon_perform ..⟩,
    fun h => ⟨hsettled.after m _ operations h, ?_⟩, fun tick every e withheld hdue => ?_⟩
  · cases h : t.isStarted with
    | false => simp [(start_of_not_started h answer).1]
    | true => simp [start_of_started h]
  · cases h : t.isStarted with
    | false => simp [close_of_not_started h]
    | true => simp [(close_of_started h answers).1]
  · have hc : t.isConnected = false := by simp [isConnected, session_eq_none h]
    exact ⟨hc, fun i => by simp [reportEvent, hc]⟩
  · exact removedInSession_of_mem_retired m _ hsettled rfl operations (mem_retired_of_mem_due hdue)

end Telemetry

end MetricsAgent
