import StaticSite.Proofs.Text.Utf8

/-!
# Line ends

A line may end with a line feed alone or with a carriage return in front of it.  Where line ends are
unified, octets are read alike in both forms: an octet of either mark is never part of another
character.
-/

namespace StaticSite

namespace Text

variable {text : Text}

/-- A text with a carriage return in front of every line feed. -/
def widenLineEnds (text : Text) : Text :=
  text.flatMap fun character => if character = '\n' then ['\r', '\n'] else [character]

theorem widenLineEnds_cons (character : Char) (text : Text) :
    widenLineEnds (character :: text) =
      (if character = '\n' then ['\r', '\n'] else [character]) ++ widenLineEnds text :=
  List.flatMap_cons

theorem unifyLineEnds_cons {character : Char} (other : character ≠ '\r') :
    unifyLineEnds (character :: text) = character :: unifyLineEnds text := by
  rw [unifyLineEnds]
  · rintro rest rfl
    exact absurd rfl other
  · exact fun same => absurd same other

theorem unifyLineEnds_of_not_mem (plain : '\r' ∉ text) : unifyLineEnds text = text := by
  induction text with
  | nil => rfl
  | cons character text ih =>
      rw [List.mem_cons, not_or] at plain
      rw [unifyLineEnds_cons (Ne.symm plain.1), ih plain.2]

theorem not_mem_unifyLineEnds (text : Text) : '\r' ∉ unifyLineEnds text := by
  fun_induction unifyLineEnds text with
  | case1 => exact List.not_mem_nil
  | case2 text ih => simpa using ih
  | case3 text _ ih => simpa using ih
  | case4 character text _ other ih => simpa [eq_comm] using ⟨other, ih⟩

/-- What stands in front of the first line end is kept. -/
theorem unifyLineEnds_append {first : Text} (plain : '\r' ∉ first) (text : Text) :
    unifyLineEnds (first ++ text) = first ++ unifyLineEnds text := by
  induction first with
  | nil => rfl
  | cons character first ih =>
      rw [List.mem_cons, not_or] at plain
      rw [List.cons_append, unifyLineEnds_cons (Ne.symm plain.1), ih plain.2, List.cons_append]

theorem unifyLineEnds_widenLineEnds (plain : '\r' ∉ text) :
    unifyLineEnds (widenLineEnds text) = text := by
  induction text with
  | nil => rfl
  | cons character text ih =>
      rw [List.mem_cons, not_or] at plain
      rw [widenLineEnds_cons]
      split
      · next feed =>
          rw [feed]
          exact congrArg ('\n' :: ·) (ih plain.2)
      · rw [List.singleton_append, unifyLineEnds_cons (Ne.symm plain.1), ih plain.2]

end Text

namespace Utf8

variable {octets : Bytes} {offset other octet : Nat} {text : Text} {character : Char}
  {pending : Pending} {begun again : Option Pending}

/-- Octets with that of a carriage return in front of that of every line feed. -/
def widenLineEnds (octets : Bytes) : Bytes :=
  octets.flatMap fun octet => if octet = 10 then [13, 10] else [octet]

/-- Whatever is read from some octets is read from others, with the same lines. -/
def ReadsLike (first second : Bytes) : Prop :=
  ∀ text, decode first = .ok text →
    ∃ other, decode second = .ok other ∧ Text.unifyLineEnds other = Text.unifyLineEnds text

/-- Octets are read like others, whether or not a byte order mark is dropped. -/
structure ReadAlike (first second : Bytes) : Prop where
  plain : ReadsLike first second
  marked : ReadsLike (dropByteOrderMark first) (dropByteOrderMark second)

theorem readAlike_refl (octets : Bytes) : ReadAlike octets octets :=
  ⟨fun text read => ⟨text, read, rfl⟩, fun text read => ⟨text, read, rfl⟩⟩

theorem rel_readAlike_refl : ∀ content : Option Bytes, Option.Rel ReadAlike content content
  | none => .none
  | some octets => .some (readAlike_refl octets)

theorem widenLineEnds_feed (octets : Bytes) :
    widenLineEnds (10 :: octets) = 13 :: 10 :: widenLineEnds octets :=
  rfl

theorem widenLineEnds_cons {octet : UInt8} (other : octet ≠ 10) (octets : Bytes) :
    widenLineEnds (octet :: octets) = octet :: widenLineEnds octets := by
  rw [widenLineEnds, List.flatMap_cons, if_neg other]
  rfl

/-- A begun character that is no mark of a line end, whatever follows. -/
structure Pending.IsLonger (pending : Pending) : Prop where
  low : 0x80 ≤ pending.low
  value : pending.value = 0 → 1 < pending.owed ∧ 0x90 ≤ pending.low

/-- A begun character without the offset at which it begins. -/
def Pending.bare (pending : Pending) : Pending := { pending with offset := 0 }

theorem begin_eq_char (begins : begin offset octet = .inl (.char character)) :
    octet < 0x80 ∧ character = Char.ofNat octet := by
  unfold begin at begins
  split_ifs at begins with small
  · cases begins
    exact ⟨small, rfl⟩
  all_goals cases begins

theorem begin_of_small (small : octet < 0x80) :
    begin offset octet = .inl (.char (Char.ofNat octet)) :=
  if_pos small

theorem begin_eq_pending (begins : begin offset octet = .inr pending) :
    0x80 ≤ octet ∧ pending.IsLonger ∧
      ∀ other, begin other octet = .inr { pending with offset := other } := by
  unfold begin at begins ⊢
  split_ifs at begins ⊢
  all_goals
    cases begins
    refine ⟨by omega, ⟨by simp, fun none => ?_⟩, fun _ => rfl⟩
    simp at none ⊢
    try omega

/-- Only its own number gives a character that is not the null character. -/
theorem eq_toNat_of_ofNat {code : Nat} (some : character ≠ '\x00')
    (same : Char.ofNat code = character) : code = character.toNat := by
  subst same
  by_cases valid : code.isValidChar
  · rw [Char.ofNat, dif_pos valid]
    rfl
  · rw [Char.ofNat, dif_neg valid] at some
    exact absurd rfl some

theorem strict_char_eq_ok {pieces : List Piece} :
    strict (.char character :: pieces) = .ok text ↔
      ∃ rest, strict pieces = .ok rest ∧ text = character :: rest := by
  rw [strict]
  cases strict pieces with
  | error flaw => simp [Except.map]
  | ok rest => simp [Except.map, eq_comm]

theorem scan_small {octet : UInt8} (small : octet.toNat < 0x80) (octets : Bytes) :
    scan none offset (octet :: octets) =
      .char (Char.ofNat octet.toNat) :: scan none (offset + 1) octets := by
  rw [scan, begin_of_small small]

theorem Pending.IsLonger.ne_return (longer : pending.IsLonger) (last : pending.owed ≤ 1)
    (bits : Nat) : Char.ofNat (pending.value * 64 + bits) ≠ '\r' := by
  intro same
  have code : pending.value * 64 + bits = 13 := eq_toNat_of_ofNat (by decide) same
  have value := longer.value
  omega

theorem Pending.IsLonger.ne_feed (longer : pending.IsLonger) (last : pending.owed ≤ 1)
    (bits : Nat) : Char.ofNat (pending.value * 64 + bits) ≠ '\n' := by
  intro same
  have code : pending.value * 64 + bits = 10 := eq_toNat_of_ofNat (by decide) same
  have value := longer.value
  omega

theorem Pending.IsLonger.next (longer : pending.IsLonger) {octet : Nat} (low : pending.low ≤ octet)
    (offset : Nat) :
    Pending.IsLonger
      ⟨pending.owed - 1, 0x80, 0xBF, pending.value * 64 + (octet - 0x80), offset⟩ := by
  refine ⟨le_rfl, fun none => ?_⟩
  have value : pending.value = 0 := by simp only at none; omega
  have high := (longer.value value).2.trans low
  simp only at none
  omega

theorem Pending.IsLonger.congr {next : Pending} (longer : pending.IsLonger)
    (same : next.bare = pending.bare) : next.IsLonger := by
  obtain ⟨owed, low, -, value, -⟩ := Pending.mk.inj same
  refine ⟨low ▸ longer.low, ?_⟩
  rw [owed, low, value]
  exact longer.value

/-- An octet ends a character, wherever that has begun. -/
def Ends (begun : Option Pending) (octet : UInt8) (character : Char) : Prop :=
  ∀ again offset octets, again.map Pending.bare = begun.map Pending.bare →
    scan again offset (octet :: octets) = .char character :: scan none (offset + 1) octets

/-- An octet begins a longer character or is within it, wherever that has begun. -/
def Continues (begun : Option Pending) (octet : UInt8) (pending : Pending) : Prop :=
  ∀ again offset octets, again.map Pending.bare = begun.map Pending.bare →
    ∃ next : Pending, next.bare = pending.bare ∧
      scan again offset (octet :: octets) = scan (some next) (offset + 1) octets

theorem ends_of_small {octet : UInt8} (small : octet.toNat < 0x80) :
    Ends none octet (Char.ofNat octet.toNat) := by
  intro again offset octets same
  obtain rfl := Option.map_eq_none_iff.1 same
  rw [scan, begin_of_small small]

theorem continues_of_begin {octet : UInt8} (begins : begin offset octet.toNat = .inr pending) :
    Continues none octet pending := by
  intro again offset octets same
  obtain rfl := Option.map_eq_none_iff.1 same
  obtain ⟨-, -, restarts⟩ := begin_eq_pending begins
  exact ⟨{ pending with offset := offset }, rfl, by rw [scan, restarts]⟩

theorem ends_of_last {octet : UInt8}
    (inside : pending.low ≤ octet.toNat ∧ octet.toNat ≤ pending.high) (last : pending.owed ≤ 1) :
    Ends (some pending) octet (Char.ofNat (pending.value * 64 + (octet.toNat - 0x80))) := by
  intro again offset octets same
  obtain ⟨begun, rfl, bare⟩ := Option.map_eq_some_iff.1 same
  obtain ⟨owed, low, high, value, -⟩ := Pending.mk.inj bare
  rw [scan, low, high, owed, value, if_pos inside]
  exact if_pos last

theorem continues_of_more {octet : UInt8}
    (inside : pending.low ≤ octet.toNat ∧ octet.toNat ≤ pending.high) (more : ¬ pending.owed ≤ 1) :
    Continues (some pending) octet
      ⟨pending.owed - 1, 0x80, 0xBF, pending.value * 64 + (octet.toNat - 0x80), 0⟩ := by
  intro again offset octets same
  obtain ⟨begun, rfl, bare⟩ := Option.map_eq_some_iff.1 same
  obtain ⟨owed, low, high, value, -⟩ := Pending.mk.inj bare
  refine ⟨⟨pending.owed - 1, 0x80, 0xBF, pending.value * 64 + (octet.toNat - 0x80), begun.offset⟩,
    rfl, ?_⟩
  rw [scan, low, high, owed, value, if_pos inside]
  exact if_neg more

/-- An octet that is read ends a character or continues one, and only where nothing has begun is it
the mark of a line end. -/
theorem ends_or_continues {octet : UInt8} (longer : ∀ pending ∈ begun, pending.IsLonger)
    (read : strict (scan begun offset (octet :: octets)) = .ok text) :
    (∃ character, Ends begun octet character ∧ (character = '\r' → octet = 13) ∧
        (character = '\n' ↔ octet = 10) ∧ (octet = 10 → begun = none)) ∨
      octet ≠ 10 ∧ ∃ pending, pending.IsLonger ∧ Continues begun octet pending := by
  cases begun with
  | none =>
      by_cases small : octet.toNat < 0x80
      · have itself : ∀ {mark : Char}, mark ≠ '\x00' → Char.ofNat octet.toNat = mark →
            octet.toNat = mark.toNat := eq_toNat_of_ofNat
        refine Or.inl ⟨_, ends_of_small small, fun mark => ?_, ⟨fun mark => ?_, ?_⟩, fun _ => rfl⟩
        · exact UInt8.toNat_inj.1 (itself (by decide) mark)
        · exact UInt8.toNat_inj.1 (itself (by decide) mark)
        · rintro rfl
          rfl
      · rw [scan] at read
        cases begins : begin offset octet.toNat with
        | inl piece =>
            rw [begins] at read
            cases piece with
            | flaw reason offset => cases read
            | char character => exact absurd (begin_eq_char begins).1 small
        | inr pending =>
            obtain ⟨large, isLonger, -⟩ := begin_eq_pending begins
            refine Or.inr ⟨?_, pending, isLonger, continues_of_begin begins⟩
            rintro rfl
            exact absurd large (by decide)
  | some pending =>
      have isLonger := longer pending rfl
      rw [scan] at read
      split at read
      · next inside =>
          have large : octet ≠ 10 := by
            rintro rfl
            exact absurd (isLonger.low.trans inside.1) (by decide)
          by_cases last : pending.owed ≤ 1
          · have noReturn := isLonger.ne_return last (octet.toNat - 0x80)
            have noFeed := isLonger.ne_feed last (octet.toNat - 0x80)
            exact Or.inl ⟨_, ends_of_last inside last, fun mark => absurd mark noReturn,
              iff_of_false noFeed large, fun mark => absurd mark large⟩
          · exact Or.inr ⟨large, _, isLonger.next inside.1 0, continues_of_more inside last⟩
      · cases read

/-- Reading goes on alike after every octet, as no mark of a line end is within a character. -/
theorem strict_scan_widenLineEnds (longer : ∀ pending ∈ begun, pending.IsLonger)
    (plain : 13 ∉ octets) (same : again.map Pending.bare = begun.map Pending.bare)
    (read : strict (scan begun offset octets) = .ok text) :
    '\r' ∉ text ∧
      strict (scan again other (widenLineEnds octets)) = .ok (Text.widenLineEnds text) := by
  induction octets generalizing begun again offset other text with
  | nil =>
      cases begun with
      | some pending => cases read
      | none =>
          obtain rfl := Option.map_eq_none_iff.1 same
          cases read
          exact ⟨List.not_mem_nil, rfl⟩
  | cons octet octets ih =>
      rw [List.mem_cons, not_or] at plain
      rcases ends_or_continues longer read with ⟨character, ends, isReturn, isFeed, starts⟩ |
        ⟨noFeed, pending, isLonger, continues⟩
      · rw [ends begun offset octets rfl] at read
        obtain ⟨rest, others, rfl⟩ := strict_char_eq_ok.1 read
        have later := fun other =>
          @ih (offset + 1) other rest none none (by simp) plain.2 rfl others
        have noReturn : '\r' ≠ character := fun mark => plain.1 (isReturn mark.symm).symm
        refine ⟨List.not_mem_cons_of_ne_of_not_mem noReturn (later 0).1, ?_⟩
        rw [Text.widenLineEnds_cons]
        by_cases feed : octet = 10
        · -- A line feed is read by itself, so nothing has begun in front of it.
          obtain rfl := starts feed
          obtain rfl := Option.map_eq_none_iff.1 same
          have both : scan none other (13 :: 10 :: widenLineEnds octets) =
              .char '\r' :: .char '\n' :: scan none (other + 2) (widenLineEnds octets) := by
            rw [scan_small (by decide), scan_small (by decide)]
            rfl
          rw [isFeed.2 feed, feed, widenLineEnds_feed, both, if_pos rfl]
          exact strict_char_eq_ok.2 ⟨_, strict_char_eq_ok.2 ⟨_, (later _).2, rfl⟩, rfl⟩
        · rw [widenLineEnds_cons feed, ends again other _ same, if_neg (mt isFeed.1 feed)]
          exact strict_char_eq_ok.2 ⟨_, (later _).2, rfl⟩
      · obtain ⟨next, bare, scanned⟩ := continues begun offset octets rfl
        obtain ⟨also, alsoBare, rescanned⟩ := continues again other (widenLineEnds octets) same
        rw [scanned] at read
        rw [widenLineEnds_cons noFeed, rescanned]
        exact @ih _ _ _ (some next) (some also) (by simpa using isLonger.congr bare) plain.2
          (congrArg some (alsoBare.trans bare.symm)) read

/-- Octets without carriage returns are read alike when their line ends are widened. -/
theorem readsLike_widenLineEnds (plain : 13 ∉ octets) :
    ReadsLike octets (widenLineEnds octets) := by
  intro text read
  obtain ⟨noReturn, widened⟩ :=
    @strict_scan_widenLineEnds octets 0 0 text none none (by simp) plain rfl read
  refine ⟨_, widened, ?_⟩
  rw [Text.unifyLineEnds_widenLineEnds noReturn, Text.unifyLineEnds_of_not_mem noReturn]

theorem exists_widenLineEnds_cons (octet : UInt8) (octets : Bytes) :
    ∃ first rest, widenLineEnds (octet :: octets) = first :: rest ∧
      (first = octet ∨ octet = 10 ∧ first = 13) := by
  by_cases feed : octet = 10
  · exact ⟨13, _, feed ▸ widenLineEnds_feed octets, Or.inr ⟨feed, rfl⟩⟩
  · exact ⟨octet, _, widenLineEnds_cons feed octets, Or.inl rfl⟩

section Mark

variable {one two three : UInt8}

theorem dropByteOrderMark_of_first (other : one ≠ 0xEF) :
    dropByteOrderMark (one :: octets) = one :: octets := by
  unfold dropByteOrderMark
  split <;> simp_all

theorem dropByteOrderMark_of_second (other : two ≠ 0xBB) :
    dropByteOrderMark (0xEF :: two :: octets) = 0xEF :: two :: octets := by
  unfold dropByteOrderMark
  split <;> simp_all

theorem dropByteOrderMark_of_third (other : three ≠ 0xBF) :
    dropByteOrderMark (0xEF :: 0xBB :: three :: octets) = 0xEF :: 0xBB :: three :: octets := by
  unfold dropByteOrderMark
  split <;> simp_all

end Mark

/-- A byte order mark is dropped before or after line ends are widened. -/
theorem dropByteOrderMark_widenLineEnds (octets : Bytes) :
    dropByteOrderMark (widenLineEnds octets) = widenLineEnds (dropByteOrderMark octets) := by
  have ne_of : ∀ {first octet mark : UInt8}, octet ≠ mark → mark ≠ 13 →
      first = octet ∨ octet = 10 ∧ first = 13 → first ≠ mark := by
    rintro first octet mark other plain (rfl | ⟨-, rfl⟩)
    · exact other
    · exact plain.symm
  rcases octets with _ | ⟨one, octets⟩
  · rfl
  by_cases first : one = 0xEF
  · subst first
    rcases octets with _ | ⟨two, octets⟩
    · rfl
    by_cases second : two = 0xBB
    · subst second
      rcases octets with _ | ⟨three, octets⟩
      · rfl
      by_cases third : three = 0xBF
      · subst third
        simp [widenLineEnds, dropByteOrderMark]
      · obtain ⟨start, rest, widened, begins⟩ := exists_widenLineEnds_cons three octets
        have whole : widenLineEnds (0xEF :: 0xBB :: three :: octets) =
            0xEF :: 0xBB :: start :: rest := by
          rw [widenLineEnds_cons (by decide), widenLineEnds_cons (by decide), widened]
        rw [dropByteOrderMark_of_third third, whole,
          dropByteOrderMark_of_third (ne_of third (by decide) begins)]
    · obtain ⟨start, rest, widened, begins⟩ := exists_widenLineEnds_cons two octets
      have whole : widenLineEnds (0xEF :: two :: octets) = 0xEF :: start :: rest := by
        rw [widenLineEnds_cons (by decide), widened]
      rw [dropByteOrderMark_of_second second, whole,
        dropByteOrderMark_of_second (ne_of second (by decide) begins)]
  · obtain ⟨start, rest, widened, begins⟩ := exists_widenLineEnds_cons one octets
    rw [dropByteOrderMark_of_first first, widened,
      dropByteOrderMark_of_first (ne_of first (by decide) begins)]

theorem dropByteOrderMark_subset (octets : Bytes) : dropByteOrderMark octets ⊆ octets := by
  unfold dropByteOrderMark
  split
  · exact fun _ member => by simp [member]
  · exact List.nil_subset _
  · exact List.nil_subset _
  · exact List.Subset.refl _

theorem readAlike_widenLineEnds (plain : 13 ∉ octets) :
    ReadAlike octets (widenLineEnds octets) := by
  refine ⟨readsLike_widenLineEnds plain, ?_⟩
  rw [dropByteOrderMark_widenLineEnds]
  exact readsLike_widenLineEnds fun member => plain (dropByteOrderMark_subset octets member)

end Utf8

end StaticSite
