import MetricsAgent.Name.Map
import MetricsAgent.Report.Occasion
import MetricsAgent.Rule.Basic

/-!
# The roster of metrics

The roster tells on which channel each metric is reported, by its raw name.  A metric on the denied
channel is kept as well, so that other rules can bring it back.  A removed metric that was reported is
retired: it waits for its final report.

`route` stands for the way in which rules choose the channel of a name.
-/

namespace MetricsAgent

def Channel.all : List Channel := [.unrestricted, .restricted, .denied]

/-- The metrics on each channel, and the retired ones in the order of their removal. -/
structure Roster (ε : Type) where
  unrestricted : NameMap ε
  restricted : NameMap ε
  denied : NameMap ε
  retired : List (ε × Occasion)

namespace Roster

variable {ε : Type}

def empty : Roster ε := ⟨.empty, .empty, .empty, []⟩

/-- The metrics on one channel. -/
def on (r : Roster ε) : Channel → NameMap ε
  | .unrestricted => r.unrestricted
  | .restricted => r.restricted
  | .denied => r.denied

/-- Replaces the metrics on one channel. -/
def setOn (r : Roster ε) (c : Channel) (m : NameMap ε) : Roster ε :=
  match c with
  | .unrestricted => { r with unrestricted := m }
  | .restricted => { r with restricted := m }
  | .denied => { r with denied := m }

/-- Takes a name off one channel. -/
def eraseOn (r : Roster ε) (name : String) (c : Channel) : Roster ε :=
  r.setOn c ((r.on c).erase name)

/-- Puts a metric on one channel. -/
def insertOn (r : Roster ε) (name : String) (e : ε) (c : Channel) : Roster ε :=
  r.setOn c ((r.on c).insert name e)

/-- The channel of a name. -/
def channelOf? (r : Roster ε) (name : String) : Option Channel :=
  Channel.all.find? fun c => (r.on c).contains name

def sizes (r : Roster ε) : List Nat := Channel.all.map fun c => (r.on c).size

def isEmpty (r : Roster ε) : Bool := Channel.all.all fun c => (r.on c).isEmpty

/-! ## Registering and removing -/

/-- Puts a metric on a channel and takes its name off the others. -/
def place (r : Roster ε) (name : String) (e : ε) (c : Channel) : Roster ε :=
  ((Channel.all.filter (· ≠ c)).foldl (fun r other => r.eraseOn name other) r).insertOn name e c

/-- Registers a metric on the channel to which its name is routed. -/
def register (route : String → Channel) (r : Roster ε) (name : String) (e : ε) : Roster ε :=
  r.place name e (route name)

/-- Adds a removed metric to those that wait for their final report. -/
def retire (r : Roster ε) (e : ε) (withheld : Bool) : Roster ε :=
  { r with retired := r.retired ++ [(e, .final withheld)] }

/-- Removes a name.  If it was reported, its metric is retired. -/
def remove (r : Roster ε) (name : String) : Roster ε :=
  match r.unrestricted.get? name with
  | some e => (r.eraseOn name .unrestricted).retire e false
  | none =>
    match r.restricted.get? name with
    | some e => (r.eraseOn name .restricted).retire e true
    | none => r.eraseOn name .denied

/-- Forgets the retired metrics. -/
def clearRetired (r : Roster ε) : Roster ε := { r with retired := [] }

/-! ## Other rules -/

/-- Moves a metric between two channels. -/
def move (r : Roster ε) (name : String) (source target : Channel) : Roster ε :=
  match (r.on source).get? name with
  | none => r
  | some e => (r.eraseOn name source).insertOn name e target

/-- Moves the metrics of a channel to those to which they are routed now. -/
def refreshChannel (route : String → Channel) (r : Roster ε) (c : Channel) : Roster ε :=
  (r.on c).names.foldl (fun r name => if route name = c then r else r.move name c (route name)) r

/-- Moves all metrics to the channels to which they are routed now. -/
def refresh (route : String → Channel) (r : Roster ε) : Roster ε :=
  Channel.all.foldl (refreshChannel route) r

end Roster

end MetricsAgent
