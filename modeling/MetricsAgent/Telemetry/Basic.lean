import MetricsAgent.Cycle.Basic
import MetricsAgent.Daemon.Lifecycle
import MetricsAgent.Link.Basic
import MetricsAgent.Link.Replies
import MetricsAgent.Link.SocketPath
import MetricsAgent.Rule.Verdict

/-!
# Telemetry

Telemetry routes the metrics of producers by the rules of the current settings.  While a session is
open it samples them, and it passes events on through a queue; both are written to one link.  Each
function here is one step: what another step could come between is a step of its own.

The metrics are of any type `ε`, and the daemon has states of any type `δ`.  How rules match names,
how metrics are reported, and what the connection answers are parameters.
-/

namespace MetricsAgent

/-- What telemetry is set up with, once and for all. -/
structure Setup where
  socket : ByteArray
  identity : Identity
  rateUnit : TimeUnit
  durationUnit : TimeUnit
  batchSize : Nat
  marks : Marks
  /-- How many events may wait to be written. -/
  queueSize : Nat

/-- The usual setup for a socket, whose path is cut as the daemon cuts it. -/
def Setup.ofSocket (socket : ByteArray) (identity : Identity) : Setup where
  socket := SocketPath.crop socket
  identity := identity
  rateUnit := .seconds
  durationUnit := .microseconds
  batchSize := MetricsAgent.batchSize
  marks := .defaults
  queueSize := 1024

/-- What there is only between start and close. -/
structure Session where
  link : Link
  /-- Events that wait to be written, in order. -/
  queue : List Command
  /-- The number of the next sampling cycle. -/
  tick : Nat

structure Telemetry (ε δ : Type) where
  setup : Setup
  settings : Settings
  roster : Roster ε
  /-- The replies on the last connection. -/
  replies : Replies
  failedChecks : UInt64
  daemon : δ
  session : Option Session

/-- Why a session is not opened or closed. -/
inductive SessionError where
  | alreadyStarted
  | alreadyStopped
  deriving DecidableEq, Repr

def SessionError.message : SessionError → String
  | .alreadyStarted => "insights client already started"
  | .alreadyStopped => "insights client already stopped"

namespace Telemetry

variable {ε δ : Type}

def create (setup : Setup) (settings : Settings) (daemon : δ) : Telemetry ε δ :=
  ⟨setup, settings, .empty, .none, 0, daemon, none⟩

def isStarted (t : Telemetry ε δ) : Bool := t.session.isSome

def isConnected (t : Telemetry ε δ) : Bool := t.session.any (·.link.announced)

/-- Where the current rules send a name. -/
def route (m : Matching) (t : Telemetry ε δ) (name : String) : Channel :=
  Rule.route m t.settings.rules name

/-! ## Sessions -/

/-- Tries to connect, unless there is a connection.  The replies of a new connection are counted from
zero. -/
def connect (answer : ConnectAnswer) (t : Telemetry ε δ) : Telemetry ε δ :=
  match t.session with
  | none => t
  | some s =>
    let link := s.link.connect answer
    let replies := if link.connected && !s.link.connected then .none else t.replies
    { t with session := some { s with link }, replies }

/-- Starts the daemon and opens a session; that it cannot be connected yet is no failure. -/
def start (life : Lifecycle δ) (answer : ConnectAnswer) (t : Telemetry ε δ) :
    Except SessionError Unit × Telemetry ε δ :=
  match t.session with
  | some _ => (.error .alreadyStarted, t)
  | none =>
    let daemon := (life.start t.setup.socket t.settings t.daemon).2
    let session := ⟨.unconnected t.setup.marks, [], 0⟩
    (.ok (), { t with daemon, session := some session }.connect answer)

/-- Closes the session and stops the daemon: the bytes that were still written.  Events that wait
are dropped, and so are retired metrics. -/
def close (life : Lifecycle δ) (answers : List WriteAnswer) (t : Telemetry ε δ) :
    Except SessionError ByteArray × Telemetry ε δ :=
  match t.session with
  | none => (.error .alreadyStopped, t)
  | some s =>
    let written := (s.link.close answers).written
    let daemon := (life.stop t.daemon).2
    (.ok written, { t with session := none, roster := t.roster.clearRetired, daemon })

/-! ## Metrics -/

/-- Registers a metric, or replaces the one of that name. -/
def register (m : Matching) (t : Telemetry ε δ) (name : String) (e : ε) : Telemetry ε δ :=
  { t with roster := t.roster.register (t.route m) name e }

/-- Removes a metric.  Its last value is written only if a session is open. -/
def remove (t : Telemetry ε δ) (name : String) : Telemetry ε δ :=
  let roster := t.roster.remove name
  { t with roster := if t.isStarted then roster else roster.clearRetired }

/-- The context of the reports of a cycle at the time `now`. -/
def context (now : Int) (t : Telemetry ε δ) : Context :=
  .ofIdentity t.setup.identity t.settings.samplingInterval t.setup.rateUnit t.setup.durationUnit now

/-- One sampling cycle at the time `now`: the bytes that were written. -/
def sample (report : Context → ε → Occasion → Except Fault Report) (now : Int)
    (answers : List WriteAnswer) (t : Telemetry ε δ) : Except Fault (ByteArray × Telemetry ε δ) :=
  match t.session with
  | none => .ok (.empty, t)
  | some s => do
    let (outputs, roster) ← t.roster.cycle (report (t.context now)) t.setup.batchSize s.tick
      t.settings.insightEvery
    let step := s.link.deliver outputs answers
    return (step.written,
      { t with roster, session := some { s with link := step.link, tick := s.tick + 1 } })

/-! ## Events -/

/-- Puts a command into the queue of events: whether there was room. -/
def enqueue (t : Telemetry ε δ) (c : Command) : Bool × Telemetry ε δ :=
  match t.session with
  | none => (false, t)
  | some s =>
    if s.queue.length < max t.setup.queueSize 1 then
      (true, { t with session := some { s with queue := s.queue ++ [c] } })
    else (false, t)

/-- Reports an event: whether it will be tried to write it. -/
def reportEvent (t : Telemetry ε δ) (i : Insight) : Bool × Telemetry ε δ :=
  if t.isConnected then t.enqueue (.putInsight i.write) else (false, t)

/-- Writes the event that has waited longest: the bytes that were written. -/
def writeEvent (answers : List WriteAnswer) (t : Telemetry ε δ) : ByteArray × Telemetry ε δ :=
  match t.session with
  | none => (.empty, t)
  | some s =>
    match s.queue with
    | [] => (.empty, t)
    | c :: queue =>
      let step := s.link.sendAndFlush c answers
      (step.written, { t with session := some { s with link := step.link, queue } })

/-- Counts the replies in a text from the daemon. -/
def receive (t : Telemetry ε δ) (text : String) : Telemetry ε δ :=
  if t.isConnected then { t with replies := t.replies.recordAll text } else t

/-! ## Settings and health -/

/-- Replaces the settings.  Metrics are routed anew if the rules differ from the old ones; a running
daemon reads its upload configuration again. -/
def reconfigure (m : Matching) (life : Lifecycle δ) (old new : Settings) (t : Telemetry ε δ) :
    Telemetry ε δ :=
  let t := { t with settings := new }
  let t := if old.rules = new.rules then t else { t with roster := t.roster.refresh (t.route m) }
  if t.isStarted then
    match life.reload new t.daemon with
    | (.started, daemon) => ({ t with daemon }.enqueue .reloadInsights).2
    | (_, daemon) => { t with daemon }
  else t

/-- Checks the daemon's health, and connects to it if there is no connection: whether it was well. -/
def checkHealth (life : Lifecycle δ) (answer : ConnectAnswer) (t : Telemetry ε δ) :
    Bool × Telemetry ε δ :=
  let (healthy, failedChecks, daemon) :=
    life.tick t.setup.socket t.settings t.failedChecks t.daemon
  (healthy, { t with failedChecks, daemon }.connect answer)

end Telemetry

end MetricsAgent
