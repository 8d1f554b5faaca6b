/-!
# Percent-encoding

A text is encoded byte by byte in UTF-8. Letters, digits, the four marks `_`, `.`, `-` and `~`, and
a further set of characters that the caller chooses stand for themselves; every other byte becomes a
percent sign and two hexadecimal digits in upper case.
-/

namespace Organizer.Text

/-- Bytes that never need encoding. -/
def isUnreserved (b : UInt8) : Bool :=
  (0x61 ≤ b && b ≤ 0x7A) || (0x41 ≤ b && b ≤ 0x5A) || (0x30 ≤ b && b ≤ 0x39) || b == 0x5F ||
    b == 0x2E || b == 0x2D || b == 0x7E

/-- A hexadecimal digit in upper case. -/
def upperHexDigit (n : Nat) : Char := (Nat.digitChar (n % 16)).toUpper

/-- One byte, encoded unless it stands for itself. -/
def percentByte (kept : List Char) (b : UInt8) : List Char :=
  if isUnreserved b || kept.contains (Char.ofNat b.toNat) then [Char.ofNat b.toNat]
  else ['%', upperHexDigit (b.toNat / 16), upperHexDigit b.toNat]

/-- A text with all bytes encoded that are neither unreserved nor kept. The kept characters are
ASCII. -/
def percentEncode (kept : List Char) (s : String) : List Char :=
  s.toUTF8.data.toList.flatMap (percentByte kept)

end Organizer.Text
