/-!
# Text of bytes

Bytes are read as UTF-8.  Those that are not well-formed still show: each longest stretch that could
have begun a character, or else a single byte, becomes one replacement character.
-/

namespace MetricsAgent.Unicode

/-- Shown in place of bytes that are no character. -/
def replacement : Char := '\ufffd'

/-- What the first byte of a character tells: how many bytes follow, the range of the next one, and
the bits that it carries itself. -/
structure Lead where
  following : Nat
  low : UInt8 := 0x80
  high : UInt8 := 0xbf
  bits : Nat

/-- What a byte tells if it is the first of a character.  The ranges leave out characters written
too long, surrogates, and what lies beyond the last character. -/
def Lead.ofByte? (b : UInt8) : Option Lead :=
  if b < 0x80 then some { following := 0, bits := b.toNat }
  else if b < 0xc2 then none
  else if b < 0xe0 then some { following := 1, bits := b.toNat - 0xc0 }
  else if b < 0xf0 then
    some {
      following := 2
      low := if b = 0xe0 then 0xa0 else 0x80
      high := if b = 0xed then 0x9f else 0xbf
      bits := b.toNat - 0xe0 }
  else if b < 0xf5 then
    some {
      following := 3
      low := if b = 0xf0 then 0x90 else 0x80
      high := if b = 0xf4 then 0x8f else 0xbf
      bits := b.toNat - 0xf0 }
  else none

/-- Reads the bytes that follow the first: the code point if they are all there, and the rest. -/
def readFollowing : Nat → UInt8 → UInt8 → Nat → List UInt8 → Option Nat × List UInt8
  | 0, _, _, bits, rest => (some bits, rest)
  | _ + 1, _, _, _, [] => (none, [])
  | n + 1, low, high, bits, b :: rest =>
    if low ≤ b ∧ b ≤ high then readFollowing n 0x80 0xbf (bits * 64 + b.toNat % 64) rest
    else (none, b :: rest)

theorem length_readFollowing_le (n : Nat) (low high : UInt8) (bits : Nat) (bytes : List UInt8) :
    (readFollowing n low high bits bytes).2.length ≤ bytes.length := by
  fun_induction readFollowing n low high bits bytes with
  | case1 => exact Nat.le_refl _
  | case2 => exact Nat.le_refl _
  | case3 _ _ _ _ b rest _ ih => exact Nat.le_trans ih (Nat.le_succ rest.length)
  | case4 => exact Nat.le_refl _

/-- The character that starts with a byte, and the rest. -/
def Lead.read (l : Lead) (bytes : List UInt8) : Option Nat × List UInt8 :=
  readFollowing l.following l.low l.high l.bits bytes

/-- The characters of some bytes. -/
def decode : List UInt8 → List Char
  | [] => []
  | b :: rest =>
    match Lead.ofByte? b with
    | none => replacement :: decode rest
    | some l =>
      have : (l.read rest).2.length ≤ rest.length := length_readFollowing_le ..
      ((l.read rest).1.map Char.ofNat).getD replacement :: decode (l.read rest).2
  termination_by bytes => bytes.length

/-- Bytes as text. -/
def textOfBytes (bytes : ByteArray) : String :=
  String.ofList (decode bytes.data.toList)

end MetricsAgent.Unicode
