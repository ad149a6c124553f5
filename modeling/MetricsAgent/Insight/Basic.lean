import MetricsAgent.Json.Record

/-!
# Insights

An insight is an event, or the state of a metric, with a time, tags and data.  It travels as JSON:
`write` gives its text and `ofText?` reads it back.  Producers may leave out the time and much else;
`receive` completes what they send.
-/

namespace MetricsAgent

open Json

/-- What an insight tells of. -/
inductive InsightKind where
  | event | gauge | counter | histogram | timer | meter | log
  deriving DecidableEq, Repr

def InsightKind.text : InsightKind → String
  | .event => "EVENT"
  | .gauge => "GAUGE"
  | .counter => "COUNTER"
  | .histogram => "HISTOGRAM"
  | .timer => "TIMER"
  | .meter => "METER"
  | .log => "LOG"

def InsightKind.all : List InsightKind :=
  [.event, .gauge, .counter, .histogram, .timer, .meter, .log]

def InsightKind.ofText? (text : String) : Option InsightKind :=
  InsightKind.all.find? (·.text == text)

structure Insight where
  name : String
  /-- Milliseconds since the epoch. -/
  timestamp : Int
  /-- Sorted by key. -/
  tags : List (String × String)
  kind : InsightKind
  /-- Names the definition that the data follows. -/
  mappingId : Option String
  data : Option Value

/-- Why a text is not an insight. -/
inductive InsightError where
  | missingName
  | malformed
  deriving DecidableEq, Repr

def InsightError.message : InsightError → String
  | .missingName => "insight name is required"
  | .malformed => "invalid insight json"

namespace Insight

/-! ## Writing -/

/-- The members of the metadata, in the order in which they are written. -/
def metadataMembers (i : Insight) : List (String × String) :=
  [("name", writeString i.name), ("timestamp", toString i.timestamp),
    ("tags", writeObject (i.tags.map fun t => (t.1, writeString t.2))),
    ("insightType", writeString i.kind.text)]
  ++ match i.mappingId with
    | none => []
    | some id => [("insightMappingId", writeString id)]

/-- The JSON text of an insight. -/
def write (i : Insight) : String :=
  writeObject [("metadata", writeObject i.metadataMembers),
    ("data", (i.data.getD .null).write)]

/-! ## Reading -/

/-- A kind of insight: its name, or an object with the name as its only key. -/
def kind? : Document → Option InsightKind
  | .string s => s.bind InsightKind.ofText?
  | .object [(some key, .null)] => InsightKind.ofText? key
  | _ => none

/-- A time of 64 bits. -/
def timestamp? (d : Document) : Option Int :=
  d.int64?.map Int64.toInt

/-- The insight of a document; what may be missing gets its default. -/
def ofDocument? (d : Document) : Option Insight := do
  let [some metadata, data] ← d.fields? ["metadata", "data"] | none
  let [some name, timestamp, tags, kind, id] ←
    metadata.fields? ["name", "timestamp", "tags", "insightType", "insightMappingId"] | none
  return {
    name := ← name.text?
    timestamp := ← timestamp.elim (some 0) timestamp?
    tags := ← tags.elim (some []) Document.texts?
    kind := ← kind.elim (some .event) kind?
    mappingId := ← id.elim (some none) (Document.optional? Document.text?)
    data := ← data.elim (some none) (Document.optional? (Document.value? (Json.depthLimit - 1)))
  }

/-- The insight of a text, as it stands there. -/
def ofText? (text : String) : Option Insight := do
  ofDocument? (← Document.read? text)

/-- The insight that a producer sends, at the time `now`.  A time that is missing or not positive is
replaced; a name is required. -/
def receive (now : Int) (text : String) : Except InsightError Insight :=
  match ofText? text with
  | none => .error .malformed
  | some i =>
    if i.name = "" then .error .missingName
    else if i.timestamp ≤ 0 then .ok { i with timestamp := now }
    else .ok i

/-! ## Making insights -/

/-- An event at the time `now`. -/
def event (now : Int) (name : String) (data : Option Value) : Insight :=
  ⟨name, now, [], .event, none, data⟩

/-- The name of the event that tells that a client has started. -/
def clientStartedName : String := "dse.insights.event.insights_client_started"

def clientStarted (now : Int) : Insight :=
  event now clientStartedName none

/-- The insight of a metric. -/
def ofMetric (now : Int) (name : String) (kind : InsightKind) (tags : List (String × String))
    (data : Value) : Insight :=
  ⟨name, now, tags, kind, none, some data⟩

end Insight

end MetricsAgent
