/-!
# Decimal digits of every script

A decimal digit is a character of the general category `Nd`. Such digits come in runs of ten that
count from zero, so a run is given by its zero and the value of a digit is its distance from there.

`digitValue?` reads any script and `asciiDigit?` only `0` to `9`; the rest of the library says at
each use which of the two it means, because the two accept different texts.
-/

namespace Organizer.Text

/-- The zero of each run of ten decimal digits, in code point order. -/
def digitZeros : List Nat := [
    0x30, 0x660, 0x6F0, 0x7C0, 0x966, 0x9E6, 0xA66, 0xAE6, 0xB66, 0xBE6, 0xC66, 0xCE6, 0xD66,
    0xDE6, 0xE50, 0xED0, 0xF20, 0x1040, 0x1090, 0x17E0, 0x1810, 0x1946, 0x19D0, 0x1A80, 0x1A90,
    0x1B50, 0x1BB0, 0x1C40, 0x1C50, 0xA620, 0xA8D0, 0xA900, 0xA9D0, 0xA9F0, 0xAA50, 0xABF0,
    0xFF10, 0x104A0, 0x10D30, 0x11066, 0x110F0, 0x11136, 0x111D0, 0x112F0, 0x11450, 0x114D0,
    0x11650, 0x116C0, 0x11730, 0x118E0, 0x11950, 0x11C50, 0x11D50, 0x11DA0, 0x16A60, 0x16AC0,
    0x16B50, 0x1D7CE, 0x1D7D8, 0x1D7E2, 0x1D7EC, 0x1D7F6, 0x1E140, 0x1E2F0, 0x1E950, 0x1FBF0]

/-- The value of a decimal digit of any script. -/
def digitValue? (c : Char) : Option Nat :=
  (digitZeros.find? fun z ↦ z ≤ c.toNat && c.toNat < z + 10).map (c.toNat - ·)

/-- Is `c` a decimal digit of any script? -/
def isDigit (c : Char) : Bool := (digitValue? c).isSome

/-- The value of one of the ten ASCII digits. -/
def asciiDigit? (c : Char) : Option Nat :=
  if '0' ≤ c ∧ c ≤ '9' then some (c.toNat - '0'.toNat) else none

/-- The number that digit values spell, most significant first. -/
def ofDigits (ds : List Nat) : Nat := ds.foldl (fun n d ↦ 10 * n + d) 0

/-- The number that a text of decimal digits spells; none if some character is not a digit. -/
def natOfDigits? (cs : List Char) : Option Nat := (cs.mapM digitValue?).map ofDigits

/-! ### Small facts -/

theorem ofDigits_nil : ofDigits [] = 0 := rfl

theorem ofDigits_append_singleton (ds : List Nat) (d : Nat) :
    ofDigits (ds ++ [d]) = 10 * ofDigits ds + d := by
  simp [ofDigits, List.foldl_append]

theorem asciiDigit?_digitChar {d : Nat} (h : d < 10) : asciiDigit? d.digitChar = some d := by
  revert d
  decide

theorem lt_ten_of_asciiDigit? {c : Char} {d : Nat} (h : asciiDigit? c = some d) : d < 10 := by
  rw [asciiDigit?] at h
  split at h
  · rename_i hc
    cases h
    have hhigh : c.toNat ≤ '9'.toNat := hc.2
    show c.toNat - 48 < 10
    have : '9'.toNat = 57 := rfl
    omega
  · cases h

theorem digitChar_of_asciiDigit? {c : Char} {d : Nat} (h : asciiDigit? c = some d) :
    d.digitChar = c := by
  have hwritten : ∀ d < 10, Nat.digitChar d = Char.ofNat (48 + d) := by decide
  rw [hwritten d (lt_ten_of_asciiDigit? h), ← Char.ofNat_toNat c]
  rw [asciiDigit?] at h
  split at h
  · rename_i hc
    have hlow : 48 ≤ c.toNat := hc.1
    have hvalue : c.toNat - 48 = d := Option.some.inj h
    congr 1
    omega
  · cases h

end Organizer.Text
