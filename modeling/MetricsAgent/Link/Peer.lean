import MetricsAgent.Link.Basic

/-!
# The far end of a link

A `Peer` stands in for the daemon's side of the socket: it may listen, it may drop the connection, and
it takes all that is written until then.
-/

namespace MetricsAgent

/-- The daemon's side of the socket. -/
structure Peer where
  listening : Bool := false
  /-- Whether there is a socket. -/
  socket : Bool := false
  /-- Whether the last connection is open at this end. -/
  connected : Bool := false
  /-- What was received on the last connection and not read yet. -/
  unread : ByteArray := .empty

namespace Peer

def listen (p : Peer) : Peer := { p with listening := true, socket := true }

/-- Stops listening; the socket may be left behind. -/
def unlisten (p : Peer) (keep : Bool) : Peer := { p with listening := false, socket := keep && p.socket }

/-- Answers an attempt to connect. -/
def answer (p : Peer) : ConnectAnswer :=
  if !p.socket then .notFound else if !p.listening then .refused else .accepted

/-- The peer after an attempt to connect. -/
def accept (p : Peer) : Peer :=
  if p.answer = .accepted then { p with connected := true, unread := .empty } else p

/-- Drops the connection, and what was received on it. -/
def drop (p : Peer) : Peer := { p with connected := false, unread := .empty }

/-- More bytes than are ever written at once. -/
def plenty : Nat := Nat.pow 2 40

/-- What the peer answers to some attempts to write. -/
def answers (p : Peer) (attempts : Nat) : List WriteAnswer :=
  if p.connected then List.replicate attempts (.taken plenty) else [.failed]

/-- Receives bytes. -/
def receive (p : Peer) (bytes : ByteArray) : Peer := { p with unread := p.unread ++ bytes }

/-- Reads all that was received. -/
def readAll (p : Peer) : String × Peer :=
  ((String.fromUTF8? p.unread).getD "", { p with unread := .empty })

/-- Reads at most so many lines. -/
def readLines (p : Peer) (count : Nat) : List String × Peer :=
  let text := (String.fromUTF8? p.unread).getD ""
  let lines := (text.splitOn "\n").dropLast.map (· ++ "\n")
  (lines.take count, { p with unread := (String.join (lines.drop count)).toUTF8 })

end Peer

end MetricsAgent
