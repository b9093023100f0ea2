import Mathlib.Tactic.IntervalCases
import StaticSite.Text.Utf8

/-!
# Lemmas on UTF-8

Texts are encoded character by character, so whatever is encoded is read back.
-/

namespace StaticSite

namespace Utf8

theorem encode_append (first second : Text) :
    encode (first ++ second) = encode first ++ encode second := by
  simp [encode]

theorem encode_cons (character : Char) (text : Text) :
    encode (character :: text) = String.utf8EncodeChar character ++ encode text := by
  simp [encode]

theorem length_encode_pos {text : Text} (nonempty : text ≠ []) : 0 < (encode text).length := by
  cases text with
  | nil => exact absurd rfl nonempty
  | cons character text =>
      rw [encode_cons, List.length_append, String.length_utf8EncodeChar]
      have size := character.utf8Size_pos
      omega

section Scanning

variable {offset lead bits : Nat} {pending : Pending} {rest : Bytes}

theorem begin_two (low : 2 ≤ lead) (high : lead < 32) :
    begin offset (lead + 0xC0) = .inr ⟨1, 0x80, 0xBF, lead, offset⟩ := by
  interval_cases lead <;> rfl

theorem begin_three (high : lead < 16) :
    begin offset (lead + 0xE0) = .inr ⟨2, if lead = 0 then 0xA0 else 0x80,
      if lead = 13 then 0x9F else 0xBF, lead, offset⟩ := by
  interval_cases lead <;> rfl

theorem begin_four (high : lead ≤ 4) :
    begin offset (lead + 0xF0) = .inr ⟨3, if lead = 0 then 0x90 else 0x80,
      if lead = 4 then 0x8F else 0xBF, lead, offset⟩ := by
  interval_cases lead <;> rfl

theorem toNat_ofNat {octet : Nat} (size : octet < 256) : (UInt8.ofNat octet).toNat = octet :=
  UInt8.toNat_ofNat_of_lt' size

/-- A first octet that begins a longer character. -/
theorem scan_lead {octet : Nat} (size : octet < 256) (begins : begin offset octet = .inr pending) :
    scan none offset (UInt8.ofNat octet :: rest) = scan (some pending) (offset + 1) rest := by
  rw [scan, toNat_ofNat size, begins]

/-- An octet within a character that is not its last one. -/
theorem scan_middle (owed : 1 < pending.owed) (small : bits < 64)
    (low : pending.low ≤ bits + 0x80) (high : bits + 0x80 ≤ pending.high) :
    scan (some pending) offset (UInt8.ofNat (bits + 0x80) :: rest) =
      scan (some ⟨pending.owed - 1, 0x80, 0xBF, pending.value * 64 + bits, pending.offset⟩)
        (offset + 1) rest := by
  rw [scan, toNat_ofNat (by omega), if_pos ⟨low, high⟩]
  simp only [Nat.add_sub_cancel]
  rw [if_neg (by omega)]

/-- The last octet of a character. -/
theorem scan_last (owed : pending.owed = 1) (small : bits < 64)
    (low : pending.low ≤ bits + 0x80) (high : bits + 0x80 ≤ pending.high) :
    scan (some pending) offset (UInt8.ofNat (bits + 0x80) :: rest) =
      .char (Char.ofNat (pending.value * 64 + bits)) :: scan none (offset + 1) rest := by
  rw [scan, toNat_ofNat (by omega), if_pos ⟨low, high⟩]
  simp only [Nat.add_sub_cancel]
  rw [if_pos (by omega)]

/-- The octets of a character are read as that character. -/
theorem scan_encodeChar (character : Char) (offset : Nat) (rest : Bytes) :
    ∃ later, scan none offset (String.utf8EncodeChar character ++ rest) =
      .char character :: scan none later rest := by
  have back : Char.ofNat character.toNat = character := Char.ofNat_toNat character
  have valid : character.toNat < 0xD800 ∨ 0xDFFF < character.toNat ∧ character.toNat < 0x110000 :=
    character.valid
  unfold String.utf8EncodeChar
  simp only [show character.val.toNat = character.toNat from rfl]
  generalize character.toNat = code at back valid
  split
  · next one =>
      refine ⟨offset + 1, ?_⟩
      rw [List.singleton_append, scan, toNat_ofNat (by omega), begin, if_pos (by omega), back]
  · split
    · next two =>
        refine ⟨offset + 2, ?_⟩
        simp only [List.cons_append, List.nil_append]
        rw [scan_lead (by omega) (begin_two (by omega) (by omega)),
          scan_last rfl (by omega) (by simp) (by simp; omega)]
        rw [show code / 64 % 32 * 64 + code % 64 = code by omega, back]
    · split
      · next three =>
          refine ⟨offset + 3, ?_⟩
          simp only [List.cons_append, List.nil_append]
          rw [scan_lead (by omega) (begin_three (by omega)),
            scan_middle (by simp) (by omega) (by simp; split <;> omega) (by simp; split <;> omega),
            scan_last rfl (by omega) (by simp) (by simp; omega)]
          rw [show (code / 4096 % 16 * 64 + code / 64 % 64) * 64 + code % 64 = code by omega, back]
      · next four =>
          refine ⟨offset + 4, ?_⟩
          simp only [List.cons_append, List.nil_append]
          rw [scan_lead (by omega) (begin_four (by omega)),
            scan_middle (by simp) (by omega) (by simp; split <;> omega) (by simp; split <;> omega),
            scan_middle (by simp) (by omega) (by simp) (by simp; omega),
            scan_last rfl (by omega) (by simp) (by simp; omega)]
          rw [show ((code / 262144 % 8 * 64 + code / 4096 % 64) * 64 + code / 64 % 64) * 64 +
            code % 64 = code by omega, back]

theorem scan_encode_append (text : Text) (offset : Nat) (rest : Bytes) :
    ∃ later, scan none offset (encode text ++ rest) =
      text.map .char ++ scan none later rest := by
  induction text generalizing offset with
  | nil => exact ⟨offset, rfl⟩
  | cons character text ih =>
      obtain ⟨middle, first⟩ := scan_encodeChar character offset (encode text ++ rest)
      obtain ⟨later, others⟩ := ih middle
      refine ⟨later, ?_⟩
      rw [encode_cons, List.append_assoc, first, others]
      rfl

theorem scan_encode (text : Text) (offset : Nat) :
    scan none offset (encode text) = text.map .char := by
  obtain ⟨later, whole⟩ := scan_encode_append text offset []
  rwa [scan, List.append_nil, List.append_nil] at whole

end Scanning

theorem strict_map_char (text : Text) : strict (text.map .char) = .ok text := by
  induction text with
  | nil => rfl
  | cons character text ih => rw [List.map_cons, strict, ih]; rfl

theorem decode_encode (text : Text) : decode (encode text) = .ok text := by
  rw [decode, pieces, scan_encode, strict_map_char]

/-- Reading the octets of a text gives the text. -/
theorem encode_injective : Function.Injective encode := by
  intro first second same
  have decoded := congrArg decode same
  rw [decode_encode, decode_encode, Except.ok.injEq] at decoded
  exact decoded

theorem decodeReplacing_encode (text : Text) : decodeReplacing (encode text) = text := by
  rw [decodeReplacing, pieces, scan_encode, List.map_map]
  exact List.map_id text

/-- Octets that begin with a text are read as one that begins with it. -/
theorem isPrefix_decodeIgnoring (text : Text) (rest : Bytes) :
    text <+: decodeIgnoring (encode text ++ rest) := by
  obtain ⟨later, whole⟩ := scan_encode_append text 0 rest
  rw [decodeIgnoring, pieces, whole, List.filterMap_append, List.filterMap_map]
  have read : text.filterMap (some : Char → Option Char) = text := List.filterMap_some
  exact ⟨_, congrArg (· ++ _) read.symm⟩

end Utf8

end StaticSite
