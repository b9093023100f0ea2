import StaticSite.Text.Utf8

/-!
# Octets in base 64

Four characters of an alphabet of sixty-four stand for three octets.  Other characters are
passed over, and equals signs end the text where they fill up a group of four.
-/

namespace StaticSite

namespace Config

namespace Base64

def digit? (character : Char) : Option Nat :=
  if 'A' ≤ character ∧ character ≤ 'Z' then some (character.toNat - 65)
  else if 'a' ≤ character ∧ character ≤ 'z' then some (character.toNat - 71)
  else if character.isDigit then some (character.toNat + 4)
  else if character = '+' then some 62
  else if character = '/' then some 63
  else none

/-- How far a text has been read. -/
structure Reader where
  /-- How many characters of the group have been read. -/
  inGroup : Nat := 0
  /-- The bits that are left of them. -/
  rest : Nat := 0
  /-- How many equals signs have just been read. -/
  filled : Nat := 0
  deriving DecidableEq, Repr

/-- The octets of a text.  A group that begins must have two characters at least, and equals
signs must fill it up. -/
def readFrom : Reader → Text → Option Bytes
  | reader, [] => if reader.inGroup = 0 then some [] else none
  | reader, character :: text =>
    match decide (character = '='), digit? character with
    | true, _ =>
      if reader.inGroup < 2 then readFrom reader text
      else if 4 ≤ reader.inGroup + reader.filled + 1 then some []
      else readFrom { reader with filled := reader.filled + 1 } text
    | false, none => readFrom reader text
    | false, some digit =>
      let octet (value : Nat) : UInt8 := UInt8.ofNat value
      match reader.inGroup with
      | 0 => readFrom ⟨1, digit, 0⟩ text
      | 1 => (readFrom ⟨2, digit % 16, 0⟩ text).map (octet (reader.rest * 4 + digit / 16) :: ·)
      | 2 => (readFrom ⟨3, digit % 4, 0⟩ text).map (octet (reader.rest * 16 + digit / 4) :: ·)
      | _ => (readFrom ⟨0, 0, 0⟩ text).map (octet (reader.rest * 64 + digit) :: ·)

/-- The octets of a text in base 64. -/
def read? (text : Text) : Option Bytes := readFrom {} text

end Base64

end Config

end StaticSite
