import MetricsAgent.Decimal.Layout
import MetricsAgent.Insight.Basic

/-!
# Commands to the daemon

The daemon reads commands from a socket, one on each line: values of a metric, an insight, or the
request to read the insights' configuration again.  `encode` writes the line of a command.
-/

namespace MetricsAgent

/-- A command to the daemon. -/
inductive Command where
  | putVal (payload : String)
  | putInsight (payload : String)
  | reloadInsights
  deriving DecidableEq, Repr

/-- Whether a character would end a line. -/
def isLineBreak (c : Char) : Bool :=
  c == '\n' || c == '\r'

namespace Command

def verb : Command → String
  | .putVal _ => "PUTVAL"
  | .putInsight _ => "PUTINSIGHT"
  | .reloadInsights => "RELOADINSIGHTS"

def payload? : Command → Option String
  | .putVal p | .putInsight p => some p
  | .reloadInsights => none

/-- The line of a command.  Line breaks within the payload are left out. -/
def encode (c : Command) : String :=
  match c.payload? with
  | none => c.verb ++ "\n"
  | some p => c.verb ++ " " ++ String.ofList (p.toList.filter (!isLineBreak ·)) ++ "\n"

end Command

/-! ## Values -/

/-- The double notation of the wire: never an exponent, and no fraction where there is none. -/
def wireLayout : Decimal.Layout where
  positional _ := true
  integerSuffix := ""
  tie := .up
  notANumber := "NaN"
  infinity := "inf"
  negativeInfinity := "-inf"

/-- One of the values of a metric. -/
inductive Field where
  | integer (n : Int64)
  | float (x : Float)

def Field.text : Field → String
  | .integer n => toString n.toInt
  | .float x => wireLayout.write x

/-- Values of a metric at one moment. -/
structure ValueList where
  host : String
  name : String
  kind : String
  /-- Seconds until the next values. -/
  interval : UInt64
  tags : String
  fields : List Field

/-- The payload of the command that puts the values. -/
def ValueList.payload (v : ValueList) : String :=
  v.host ++ "/mcac-" ++ v.name ++ "/" ++ v.kind ++ " interval=" ++ toString v.interval.toNat ++ " "
    ++ v.tags ++ " N" ++ String.join (v.fields.map (":" ++ ·.text))

def ValueList.command (v : ValueList) : Command := .putVal v.payload

/-- What a sender hands to the connection: a command, or the wish that all commands be written. -/
inductive Output where
  | command (c : Command)
  | flush
  deriving DecidableEq, Repr

/-- The outputs as text: commands by their lines. -/
def Output.text : Output → String
  | .command c => c.encode
  | .flush => "FLUSH"

end MetricsAgent
