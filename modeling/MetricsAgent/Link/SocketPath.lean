import MetricsAgent.Unicode.Decoding

/-!
# Paths of sockets

The path of a Unix socket has a limited length.  The daemon cuts a longer one off, and so does the
agent, so that both use the same socket.  A path is a sequence of bytes; the cut may fall within a
character.
-/

namespace MetricsAgent.SocketPath

/-- How many bytes the path of a socket may have. -/
def maxSize : Nat := 103

/-- The path that is used in place of a path of any length. -/
def crop (path : ByteArray) : ByteArray :=
  if path.size ≤ maxSize then path else path.extract 0 maxSize

/-- The path for people to read: a character that was cut shows as one replacement character. -/
def text (path : ByteArray) : String :=
  Unicode.textOfBytes path

end MetricsAgent.SocketPath
