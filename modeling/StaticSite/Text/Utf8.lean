import StaticSite.Text.Basic

/-!
# UTF-8

Texts are stored as bytes in UTF-8.  Reading goes octet by octet through a small machine
that yields characters and flaws.  A flaw covers the longest stretch of octets that could
still have begun a character, so that a strict reader can name its first octet and a
lenient reader can drop it or put one replacement character in its place.
-/

namespace StaticSite

/-- A sequence of octets. -/
abbrev Bytes := List UInt8

namespace Utf8

/-- Why octets are not the form of a character. -/
inductive Flaw where
  /-- No character begins with this octet. -/
  | startByte
  /-- The octet after a begun character does not continue it. -/
  | continuationByte
  /-- The octets end within a character. -/
  | endOfData
  deriving DecidableEq, Repr

def Flaw.message : Flaw → Text
  | .startByte => "invalid start byte"
  | .continuationByte => "invalid continuation byte"
  | .endOfData => "unexpected end of data"

/-- What the reader yields: a character, or a flaw with the offset of its first octet. -/
inductive Piece where
  | char (character : Char)
  | flaw (reason : Flaw) (offset : Nat)
  deriving DecidableEq, Repr

/-- A begun character: the octets it still owes, the range of the next one, the bits read
so far and the offset of its first octet. -/
structure Pending where
  owed : Nat
  low : Nat
  high : Nat
  value : Nat
  offset : Nat
  deriving DecidableEq, Repr

/-- What a first octet begins: a whole character, a longer one, or a flaw. -/
def begin (offset octet : Nat) : Piece ⊕ Pending :=
  if octet < 0x80 then .inl (.char (Char.ofNat octet))
  else if octet < 0xC2 then .inl (.flaw .startByte offset)
  else if octet < 0xE0 then .inr ⟨1, 0x80, 0xBF, octet - 0xC0, offset⟩
  else if octet = 0xE0 then .inr ⟨2, 0xA0, 0xBF, 0, offset⟩
  else if octet = 0xED then .inr ⟨2, 0x80, 0x9F, 0xD, offset⟩
  else if octet < 0xF0 then .inr ⟨2, 0x80, 0xBF, octet - 0xE0, offset⟩
  else if octet = 0xF0 then .inr ⟨3, 0x90, 0xBF, 0, offset⟩
  else if octet < 0xF4 then .inr ⟨3, 0x80, 0xBF, octet - 0xF0, offset⟩
  else if octet = 0xF4 then .inr ⟨3, 0x80, 0x8F, 4, offset⟩
  else .inl (.flaw .startByte offset)

/-- The pieces of a sequence of octets, from an offset and perhaps within a character. -/
def scan : Option Pending → (offset : Nat) → Bytes → List Piece
  | none, _, [] => []
  | some pending, _, [] => [.flaw .endOfData pending.offset]
  | none, offset, octet :: octets =>
    match begin offset octet.toNat with
    | .inl piece => piece :: scan none (offset + 1) octets
    | .inr pending => scan (some pending) (offset + 1) octets
  | some pending, offset, octet :: octets =>
    if pending.low ≤ octet.toNat ∧ octet.toNat ≤ pending.high then
      let value := pending.value * 64 + (octet.toNat - 0x80)
      if pending.owed ≤ 1 then .char (Char.ofNat value) :: scan none (offset + 1) octets
      else
        scan (some ⟨pending.owed - 1, 0x80, 0xBF, value, pending.offset⟩) (offset + 1) octets
    else
      .flaw .continuationByte pending.offset ::
        match begin offset octet.toNat with
        | .inl piece => piece :: scan none (offset + 1) octets
        | .inr pending => scan (some pending) (offset + 1) octets

/-- The pieces of a whole sequence of octets. -/
def pieces (octets : Bytes) : List Piece := scan none 0 octets

/-- The text of a list of pieces, or its first flaw with the offset of that flaw. -/
def strict : List Piece → Except (Flaw × Nat) Text
  | [] => .ok []
  | .char character :: rest => (strict rest).map (character :: ·)
  | .flaw reason offset :: _ => .error (reason, offset)

/-- Read octets as a text; the first flaw is an error. -/
def decode (octets : Bytes) : Except (Flaw × Nat) Text := strict (pieces octets)

/-- Read octets as a text, with the replacement character for every flaw. -/
def decodeReplacing (octets : Bytes) : Text :=
  (pieces octets).map fun
    | .char character => character
    | .flaw _ _ => '\uFFFD'

/-- Read octets as a text and leave out every flaw. -/
def decodeIgnoring (octets : Bytes) : Text :=
  (pieces octets).filterMap fun
    | .char character => some character
    | .flaw _ _ => none

/-- Leave out a byte order mark at the beginning.  Octets that end within the mark are
nothing but an unfinished mark and leave nothing. -/
def dropByteOrderMark : Bytes → Bytes
  | 0xEF :: 0xBB :: 0xBF :: octets => octets
  | [0xEF, 0xBB] => []
  | [0xEF] => []
  | octets => octets

/-- The octets of a text. -/
def encode (text : Text) : Bytes := text.flatMap String.utf8EncodeChar

end Utf8

end StaticSite
