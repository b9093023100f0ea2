import Mathlib
import StaticSite.Proofs.Text.Utf8
import StaticSite.Server.Url
import StaticSite.Text.Lemmas

/-!
# Escaping paths

A path is written into a request target octet by octet: letters, digits, some marks and
slashes stand for themselves, and every other octet is a percent sign with two digits.  What
is written this way is decoded to the path again.
-/

namespace StaticSite

namespace Server

/-- Whether an octet stands for itself in a target. -/
def isPlain (octet : UInt8) : Bool :=
  let character := Char.ofNat octet.toNat
  character.isAlphanum || character = '_' || character = '.' || character = '-' ||
    character = '~' || character = '/'

/-- The hexadecimal digit of a value. -/
def hexDigit (value : Nat) : Char := Char.ofNat (if value < 10 then value + 48 else value + 55)

/-- An octet in a target. -/
def escapeOctet (octet : UInt8) : Text :=
  if isPlain octet then [Char.ofNat octet.toNat]
  else ['%', hexDigit (octet.toNat / 16), hexDigit (octet.toNat % 16)]

/-- A path in a target. -/
def escape (path : Text) : Text := (Utf8.encode path).flatMap escapeOctet

/-- Whether a character may stand in an escaped path. -/
def isEscaped (character : Char) : Bool :=
  character.isAlphanum || character = '_' || character = '.' || character = '-' ||
    character = '~' || character = '/' || character = '%'

variable {octet : UInt8} {path rest text : Text} {character : Char}

theorem hexDigit?_hexDigit {value : Nat} (small : value < 16) :
    hexDigit? (hexDigit value) = some value := by
  interval_cases value <;> rfl

theorem isEscaped_hexDigit {value : Nat} (small : value < 16) :
    isEscaped (hexDigit value) = true := by
  interval_cases value <;> rfl

theorem isEscaped_of_mem_escapeOctet (member : character ∈ escapeOctet octet) :
    isEscaped character = true := by
  have size := octet.toNat_lt
  unfold escapeOctet at member
  split at member
  · next plain =>
      obtain rfl := List.mem_singleton.1 member
      simp only [isPlain, Bool.or_eq_true] at plain
      simp only [isEscaped, Bool.or_eq_true]
      exact Or.inl plain
  · simp only [List.mem_cons, List.not_mem_nil, or_false] at member
    rcases member with rfl | rfl | rfl
    · rfl
    · exact isEscaped_hexDigit (by omega)
    · exact isEscaped_hexDigit (by omega)

theorem isEscaped_of_mem_escape (member : character ∈ escape path) :
    isEscaped character = true := by
  obtain ⟨octet, -, inside⟩ := List.mem_flatMap.1 member
  exact isEscaped_of_mem_escapeOctet inside

theorem isAlphanum_bounds (alphanum : character.isAlphanum = true) :
    0x20 < character.toNat ∧ character.toNat < 0x80 := by
  simp only [Char.isAlphanum, Char.isAlpha, Char.isUpper, Char.isLower, Char.isDigit,
    Bool.or_eq_true, Bool.and_eq_true, decide_eq_true_eq, ge_iff_le, UInt32.le_iff_toNat_le]
    at alphanum
  change 0x20 < character.val.toNat ∧ character.val.toNat < 0x80
  rcases alphanum with (⟨low, high⟩ | ⟨low, high⟩) | ⟨low, high⟩
  · exact ⟨lt_of_lt_of_le (by decide) low, lt_of_le_of_lt high (by decide)⟩
  · exact ⟨lt_of_lt_of_le (by decide) low, lt_of_le_of_lt high (by decide)⟩
  · exact ⟨lt_of_lt_of_le (by decide) low, lt_of_le_of_lt high (by decide)⟩

/-- An escaped character is no blank and neither ends nor begins another part of a target. -/
theorem isEscaped_bounds (escaped : isEscaped character = true) :
    0x20 < character.toNat ∧ character.toNat < 0x80 ∧ character ≠ ':' ∧ character ≠ '?' ∧
      character ≠ '#' := by
  have bounds : 0x20 < character.toNat ∧ character.toNat < 0x80 := by
    simp only [isEscaped, Bool.or_eq_true, decide_eq_true_eq] at escaped
    rcases escaped with (((((alphanum | rfl) | rfl) | rfl) | rfl) | rfl) | rfl
    · exact isAlphanum_bounds alphanum
    all_goals decide
  refine ⟨bounds.1, bounds.2, ?_, ?_, ?_⟩
  all_goals
    rintro rfl
    cases escaped

theorem toNat_charOfOctet (octet : UInt8) : (Char.ofNat octet.toNat).toNat = octet.toNat := by
  have size := octet.toNat_lt
  have valid : octet.toNat.isValidChar := Or.inl (by omega)
  rw [Char.ofNat, dif_pos valid]
  rfl

theorem isPlain_lt (plain : isPlain octet = true) : octet.toNat < 0x80 := by
  have inside : Char.ofNat octet.toNat ∈ escapeOctet octet := by simp [escapeOctet, plain]
  have escaped := isEscaped_of_mem_escapeOctet inside
  rw [← toNat_charOfOctet octet]
  exact (isEscaped_bounds escaped).2.1

theorem unescapeOctets_escapeOctet (octet : UInt8) (rest : Text) :
    unescapeOctets (escapeOctet octet ++ rest) = octet :: unescapeOctets rest := by
  unfold escapeOctet
  split
  · next plain =>
      have other : Char.ofNat octet.toNat ≠ '%' := by
        intro same
        rw [isPlain, same] at plain
        cases plain
      have alone : String.utf8EncodeChar (Char.ofNat octet.toNat) = [octet] := by
        have small := isPlain_lt plain
        have value : (Char.ofNat octet.toNat).val.toNat = octet.toNat := toNat_charOfOctet octet
        rw [String.utf8EncodeChar, value, if_pos (by omega), UInt8.ofNat_toNat]
      rw [List.singleton_append, unescapeOctets, alone, List.singleton_append]
      exact fun high low rest same => absurd same other
  · have size := octet.toNat_lt
    simp only [List.cons_append, List.nil_append]
    rw [unescapeOctets, hexDigit?_hexDigit (by omega), hexDigit?_hexDigit (by omega)]
    have whole : octet.toNat / 16 * 16 + octet.toNat % 16 = octet.toNat := by omega
    simp only [whole, UInt8.ofNat_toNat]

theorem stretches_of_ascii (ascii : ∀ character ∈ text, character.toNat < 0x80)
    (nonempty : text ≠ []) : stretches text = [.inl text] := by
  induction text with
  | nil => exact absurd rfl nonempty
  | cons character text ih =>
      rw [stretches, if_pos (ascii character List.mem_cons_self)]
      cases text with
      | nil => rfl
      | cons next text =>
          rw [ih (fun other member => ascii other (List.mem_cons_of_mem _ member)) (by simp)]

theorem unescape_of_ascii (ascii : ∀ character ∈ text, character.toNat < 0x80) :
    unescape text = Utf8.decodeReplacing (unescapeOctets text) := by
  cases text with
  | nil => rfl
  | cons character rest =>
      rw [unescape, stretches_of_ascii ascii (by simp)]
      simp

theorem unescapeOctets_escape (path : Text) :
    unescapeOctets (escape path) = Utf8.encode path := by
  unfold escape
  induction Utf8.encode path with
  | nil => rfl
  | cons octet octets ih =>
      rw [List.flatMap_cons, unescapeOctets_escapeOctet, ih]

/-- An escaped path is decoded to the path. -/
theorem unescape_escape (path : Text) : unescape (escape path) = path := by
  rw [unescape_of_ascii fun character member =>
    (isEscaped_bounds (isEscaped_of_mem_escape member)).2.1,
    unescapeOctets_escape, Utf8.decodeReplacing_encode]

/-- Escaping keeps a slash at the beginning, and no other path begins with one then. -/
theorem escape_slash (path : Text) : escape ('/' :: path) = '/' :: escape path := by
  rw [escape, Utf8.encode_cons, List.flatMap_append]
  rfl

theorem head_escape_ne_slash (other : path.head? ≠ some '/') : (escape path).head? ≠ some '/' := by
  intro slash
  obtain ⟨rest, same⟩ := List.head?_eq_some_iff.1 slash
  have octets : Utf8.encode path = 0x2F :: unescapeOctets rest := by
    rw [← unescapeOctets_escape, same, unescapeOctets]
    · rfl
    · exact fun high low later percent => absurd percent (by decide)
  apply other
  rw [← Utf8.decodeReplacing_encode path, octets]
  rfl

theorem cut?_eq_none (absent : character ∉ text) : Text.cut? [character] text = none := by
  induction text with
  | nil => rfl
  | cons first text ih =>
      have different : character ≠ first := fun same => absent (same ▸ List.mem_cons_self)
      have later : character ∉ text := fun member => absent (List.mem_cons_of_mem _ member)
      rw [Text.cut?, Text.after?, if_neg different, ih later]
      rfl

/-- A target that is an escaped path is nothing but a path. -/
theorem escapedPath_escape (slash : path.head? ≠ some '/') :
    escapedPath ('/' :: escape path) = .ok ('/' :: escape path) := by
  have escaped : ∀ character ∈ '/' :: escape path, isEscaped character = true := by
    rw [← escape_slash]
    exact fun character member => isEscaped_of_mem_escape member
  have clean : cleanTarget ('/' :: escape path) = '/' :: escape path := by
    unfold cleanTarget
    rw [List.dropWhile_cons_of_neg (by decide), List.filter_eq_self]
    intro character member
    have bounds := isEscaped_bounds (escaped character member)
    simp only [Bool.and_eq_true, decide_eq_true_eq]
    refine ⟨⟨?_, ?_⟩, ?_⟩
    all_goals
      rintro rfl
      exact absurd bounds.1 (by decide)
  have plain : dropScheme ('/' :: escape path) = '/' :: escape path := by
    have noColon : ':' ∉ '/' :: escape path :=
      fun member => (isEscaped_bounds (escaped _ member)).2.2.1 rfl
    have uncut : Text.cut? ":" ('/' :: escape path) = none := cut?_eq_none noColon
    rw [dropScheme, uncut]
  have whole : (('/' :: escape path).takeWhile
      fun character => character ≠ '?' && character ≠ '#') = '/' :: escape path := by
    rw [List.takeWhile_eq_self_iff]
    intro character member
    have bounds := isEscaped_bounds (escaped character member)
    simp [bounds.2.2.2]
  have single := head_escape_ne_slash slash
  unfold escapedPath
  simp only [clean, plain]
  split
  · next same =>
      rw [(List.cons.inj same).2] at single
      exact absurd rfl single
  · rw [whole]

/-- What a target with an escaped path asks for is the path. -/
theorem requestedPath_escape (slash : path.head? ≠ some '/') :
    requestedPath ('/' :: escape path) = .ok ('/' :: path) := by
  rw [requestedPath, escapedPath_escape slash, ← escape_slash]
  exact congrArg Except.ok (unescape_escape ('/' :: path))

end Server

end StaticSite
