import MetricsAgent.Line.Command
import MetricsAgent.Link.Marks

/-!
# The link to the daemon

Commands go through a buffer, which is written whenever the connection takes something, so that a slow
daemon holds nobody up.  What the connection answers to attempts to write is given as a list; after
its end the connection takes nothing for the moment.

Commands are written in the order in which they were taken, and each connection begins with a whole
command.
-/

namespace MetricsAgent

/-- What becomes of an attempt to connect. -/
inductive ConnectAnswer where
  | accepted
  /-- There is no socket. -/
  | notFound
  /-- Nobody listens at the socket. -/
  | refused
  deriving DecidableEq, Repr

/-- What the connection answers to an attempt to write. -/
inductive WriteAnswer where
  /-- Some bytes were taken, at most as many as there are. -/
  | taken (count : Nat)
  | wouldBlock
  | interrupted
  | failed
  deriving DecidableEq, Repr

/-- The near end of a connection to the daemon, or of none. -/
structure Link where
  marks : Marks
  connected : Bool
  /-- Whether others are told that there is a connection. -/
  announced : Bool
  /-- Bytes that wait to be written. -/
  buffer : ByteArray
  /-- Whether commands are taken. -/
  writable : Bool

/-- The bytes of a command on the wire. -/
def Command.bytes (c : Command) : ByteArray := c.encode.toUTF8

/-- What writing comes to. -/
structure Written where
  bytes : ByteArray
  /-- What is still to be written. -/
  left : ByteArray
  /-- Whether the connection failed. -/
  failed : Bool
  /-- The answers that were not needed. -/
  answers : List WriteAnswer

/-- Writes bytes as long as the connection takes them. -/
def writeOut (written bytes : ByteArray) : List WriteAnswer → Written
  | [] => ⟨written, bytes, false, []⟩
  | a :: answers =>
    if bytes.isEmpty then ⟨written, bytes, false, a :: answers⟩
    else
      match a with
      | .taken 0 => ⟨written, bytes, true, answers⟩
      | .taken count =>
        writeOut (written ++ bytes.extract 0 count) (bytes.extract count bytes.size) answers
      | .wouldBlock => ⟨written, bytes, false, answers⟩
      | .interrupted => writeOut written bytes answers
      | .failed => ⟨written, bytes, true, answers⟩

namespace Link

/-- A link that was never connected. -/
def unconnected (marks : Marks) : Link := ⟨marks, false, false, .empty, true⟩

/-- The link after its connection has ended. -/
def drop (l : Link) : Link :=
  { l with connected := false, announced := false, buffer := .empty, writable := true }

/-- The link on a new connection. -/
def attach (l : Link) : Link :=
  { l with connected := true, announced := true, buffer := .empty, writable := true }

/-- Connects, unless there is a connection. -/
def connect (l : Link) (answer : ConnectAnswer) : Link :=
  if l.connected ∨ answer ≠ .accepted then l else l.attach

/-- What an operation does: the bytes that were written, the answers that were not needed, and the
link afterwards. -/
structure Step where
  link : Link
  written : ByteArray
  answers : List WriteAnswer

/-- Writes what the connection takes.  A connection that fails is dropped. -/
def flush (l : Link) (answers : List WriteAnswer) : Step :=
  if !l.connected then ⟨l, .empty, answers⟩
  else
    let w := writeOut .empty l.buffer answers
    if w.failed then ⟨l.drop, w.bytes, w.answers⟩
    else
      let writable := l.marks.writable l.writable w.left.size
      ⟨{ l with buffer := w.left, writable }, w.bytes, w.answers⟩

/-- Writes, if a condition holds. -/
def flushIf (condition : Bool) (l : Link) (answers : List WriteAnswer) : Step :=
  if condition then l.flush answers else ⟨l, .empty, answers⟩

/-- Takes a command: whether it will be written.  A link that takes none tries to write first, and so
does one that is nearly full. -/
def send (l : Link) (c : Command) (answers : List WriteAnswer) : Bool × Step :=
  if !l.connected then (false, ⟨l, .empty, answers⟩)
  else
    let first := l.flushIf (!l.writable) answers
    if !first.link.writable then (false, first)
    else
      let second := first.link.flushIf (l.marks.nearlyFull first.link.buffer.size) first.answers
      let written := first.written ++ second.written
      let l := second.link
      if !l.connected then (false, ⟨l, written, second.answers⟩)
      else
        let buffer := l.buffer ++ c.bytes
        let writable := l.marks.writable l.writable buffer.size
        (true, ⟨{ l with buffer, writable }, written, second.answers⟩)

/-- Goes on with another operation. -/
def Step.andThen (s : Step) (f : Link → List WriteAnswer → Step) : Step :=
  let next := f s.link s.answers
  { next with written := s.written ++ next.written }

/-- Takes a command and writes; a command that is not taken causes no writing of its own. -/
def sendAndFlush (l : Link) (c : Command) (answers : List WriteAnswer) : Step :=
  let (taken, s) := l.send c answers
  if taken then s.andThen flush else s

/-- Takes one output. -/
def put (l : Link) (o : Output) (answers : List WriteAnswer) : Step :=
  match o with
  | .command c => (l.send c answers).2
  | .flush => l.flush answers

/-- Takes outputs in order. -/
def deliver (l : Link) (outputs : List Output) (answers : List WriteAnswer) : Step :=
  outputs.foldl (fun s o => s.andThen (·.put o ·)) ⟨l, .empty, answers⟩

/-- Writes what the connection takes, and ends it. -/
def close (l : Link) (answers : List WriteAnswer) : Step :=
  let s := l.flush answers
  { s with link := s.link.drop }

end Link

end MetricsAgent
