import StaticSite.Config.Toml
import StaticSite.Proofs.Config.Reading
import StaticSite.Text.Lemmas

/-!
# The steps of the reader of TOML

Keys, texts and comments have no faults, and of the plain values only the integers with too many
digits have one.  No step leaves more than it was given.
-/

namespace StaticSite

namespace Config

namespace Toml

variable {text rest : Text} {fault : Fault}

theorem length_skipSpaces_le (text : Text) : (skipSpaces text).length ≤ text.length :=
  List.length_dropWhile_le _ text

theorem bounded_demand {α : Type} {left : α → Text} {found : Option α}
    (leaves : Leaves text left found) : Bounded text left never (demand found) := by
  cases found with
  | none => trivial
  | some value => exact leaves

theorem demand_eq_ok_iff {α : Type} {found : Option α} {value : α} :
    demand found = .ok value ↔ found = some value := by
  cases found with
  | none => exact ⟨nofun, nofun⟩
  | some other => exact ⟨fun same => by cases same; rfl, fun same => by cases same; rfl⟩

theorem leaves_char (expected : Char) (text : Text) : Leaves text id (char? expected text) := by
  unfold char?
  split
  · split
    · exact Nat.le_succ _
    · trivial
  · trivial

theorem leaves_after (mark text : Text) : Leaves text id (Text.after? mark text) := by
  cases found : Text.after? mark text with
  | none => trivial
  | some rest =>
      rw [Text.eq_of_after? found]
      exact (List.suffix_append mark rest).length_le

/-! ## Texts and keys -/

theorem bounded_skipComment (text : Text) : Bounded text id never (skipComment text) := by
  unfold skipComment
  split
  · dsimp only
    split
    · trivial
    · simp only [Bounded, id, List.length_drop, List.length_cons]
      omega
  · exact Nat.le_refl _

theorem bounded_skipFiller (fuel : Nat) (text : Text) :
    Bounded text id never (skipFiller fuel text) := by
  induction fuel generalizing text with
  | zero => exact Nat.le_refl _
  | succ fuel ih =>
      have short := List.length_dropWhile_le
        (fun character => isSpace character || decide (character = '\n')) text
      rw [skipFiller]
      split
      · next rest same =>
          rw [same] at short
          exact ((bounded_skipComment _).bind fun rest less => (ih rest).longer less).longer short
      · exact short

theorem bounded_readHex (width : Nat) (text : Text) :
    Bounded text Prod.snd never (readHex width text) := by
  unfold readHex
  split
  · trivial
  · split
    · trivial
    · split
      · simp only [Bounded, List.length_drop]
        omega
      · trivial

theorem bounded_readEscape (multiline : Bool) (text : Text) :
    Bounded text Prod.snd never (readEscape multiline text) := by
  unfold readEscape
  split
  all_goals try exact Nat.le_succ _
  · next rest =>
      refine ((bounded_readHex 4 rest).bind fun (character, behind) short => ?_).longer
        (Nat.le_succ _)
      exact short
  · next rest =>
      refine ((bounded_readHex 8 rest).bind fun (character, behind) short => ?_).longer
        (Nat.le_succ _)
      exact short
  · next character rest _ _ _ _ _ _ _ _ _ =>
      have filled (text : Text) := List.length_dropWhile_le
        (fun character => isSpace character || decide (character = '\n')) text
      split
      · dsimp only
        split
        · exact Nat.le_succ_of_le (filled rest)
        · have short := length_skipSpaces_le rest
          split
          · exact Nat.zero_le _
          · next behind same =>
              rw [same, List.length_cons] at short
              exact Nat.le_trans (filled behind) (by rw [List.length_cons]; omega)
          · trivial
      · trivial
  · trivial

theorem bounded_readBasic (multiline : Bool) (fuel : Nat) (reversed text : Text) :
    Bounded text Prod.snd never (readBasic multiline fuel reversed text) := by
  induction fuel generalizing reversed text with
  | zero => trivial
  | succ fuel ih =>
      cases text with
      | nil => trivial
      | cons character rest =>
          unfold readBasic
          split
          · split
            · split
              · simp only [Bounded, List.length_cons]
                omega
              · exact (ih _ _).longer (Nat.le_succ _)
            · exact Nat.le_succ _
          · split
            · refine ((bounded_readEscape multiline rest).bind fun (escaped, behind) short => ?_).longer
                (Nat.le_succ _)
              exact (ih _ _).longer short
            · split
              · split
                · trivial
                · exact (ih _ _).longer (Nat.le_succ _)
              · split
                · trivial
                · exact (ih _ _).longer (Nat.le_succ _)

theorem bounded_readLiteral (closing : Text) (allowed : List Char) (text : Text) :
    Bounded text Prod.snd never (readLiteral closing allowed text) := by
  have leaves : Leaves text Prod.snd (Text.cut? closing text) := by
    cases found : Text.cut? closing text with
    | none => trivial
    | some parts => exact Nat.le_of_add_right_le (Text.length_of_cut? found)
  refine (bounded_demand leaves).bind fun (value, rest) short => ?_
  dsimp only
  split
  · trivial
  · exact short

theorem bounded_readKeyPart (text : Text) : Bounded text Prod.snd never (readKeyPart text) := by
  unfold readKeyPart
  split
  · trivial
  · exact (bounded_readBasic _ _ _ _).longer (Nat.le_succ _)
  · split
    · exact (bounded_readLiteral _ _ _).longer (Nat.le_succ _)
    · split
      · exact List.length_dropWhile_le _ _
      · trivial

theorem bounded_readKeyParts (fuel : Nat) (text : Text) :
    Bounded text Prod.snd never (readKeyParts fuel text) := by
  induction fuel generalizing text with
  | zero => trivial
  | succ fuel ih =>
      rw [readKeyParts]
      refine (bounded_readKeyPart text).bind fun (part, rest) short => ?_
      have less := Nat.le_trans (length_skipSpaces_le rest) short
      dsimp only
      split
      · next behind same =>
          rw [same, List.length_cons] at less
          have shorter := Nat.le_trans (length_skipSpaces_le behind) (Nat.le_of_succ_le less)
          refine ((ih _).longer shorter).bind fun (parts, rest) short => ?_
          exact short
      · exact less

theorem bounded_readKey (text : Text) : Bounded text Prod.snd never (readKey text) :=
  bounded_readKeyParts _ text

theorem length_readExtraQuotes_le (quote : Char) (value rest : Text) :
    (readExtraQuotes quote value rest).2.length ≤ rest.length := by
  unfold readExtraQuotes
  split
  · split
    · split
      · simp only [List.length_cons]
        omega
      · simp only [List.length_cons]
        omega
    · exact Nat.le_refl _
  · split
    · exact Nat.zero_le _
    · exact Nat.le_refl _
  · exact Nat.le_refl _

theorem length_dropLineFeed_le (text : Text) : (dropLineFeed text).length ≤ text.length := by
  unfold dropLineFeed
  split
  · exact Nat.le_succ _
  · exact Nat.le_refl _

theorem bounded_readText (quote : Char) (text : Text) :
    Bounded text Prod.snd never (readText quote text) := by
  unfold readText
  split
  · next inner found =>
      have short := Nat.le_trans (length_dropLineFeed_le inner)
        ((leaves_after _ text).length_le found)
      dsimp only
      split
      · refine ((bounded_readBasic _ _ _ _).longer short).bind fun (value, rest) less => ?_
        exact Nat.le_trans (length_readExtraQuotes_le quote value rest) less
      · refine ((bounded_readLiteral _ _ _).longer short).bind fun (value, rest) less => ?_
        exact Nat.le_trans (length_readExtraQuotes_le quote value rest) less
  · dsimp only
    split
    · refine (bounded_readBasic _ _ _ _).bind fun (value, rest) less => ?_
      exact less
    · refine (bounded_readLiteral _ _ _).bind fun (value, rest) less => ?_
      exact less

/-! ## Dates and numbers -/

theorem leaves_twoDigits (low high : Nat) (text : Text) :
    Leaves text Prod.snd (twoDigits? low high text) := by
  unfold twoDigits?
  split
  · dsimp only
    split
    · simp only [Leaves, List.length_cons]
      omega
    · trivial
  · trivial

theorem leaves_time (text : Text) : Leaves text Prod.snd (time? text) := by
  unfold time?
  refine (leaves_twoDigits 0 23 text).bind fun (hour, rest) short => ?_
  refine ((leaves_char ':' rest).longer short).bind fun rest short => ?_
  refine ((leaves_twoDigits 0 59 rest).longer short).bind fun (minute, rest) short => ?_
  refine ((leaves_char ':' rest).longer short).bind fun rest short => ?_
  refine ((leaves_twoDigits 0 59 rest).longer short).bind fun (second, rest) short => ?_
  dsimp only
  split
  · split
    · exact short
    · simp only [List.length_cons] at short
      simp only [Leaves, pure, List.length_drop]
      omega
  · exact short

theorem leaves_date (text : Text) : Leaves text Prod.snd (date? text) := by
  unfold date?
  dsimp only
  split
  · have short : (text.drop 4).length ≤ text.length := by
      rw [List.length_drop]
      omega
    refine ((leaves_char '-' _).longer short).bind fun rest short => ?_
    refine ((leaves_twoDigits 1 12 rest).longer short).bind fun (month, rest) short => ?_
    refine ((leaves_char '-' rest).longer short).bind fun rest short => ?_
    refine ((leaves_twoDigits 1 31 rest).longer short).bind fun (day, rest) short => ?_
    exact short
  · trivial

theorem leaves_zone (text : Text) : Leaves text Prod.snd (zone? text) := by
  unfold zone?
  split
  · exact Nat.le_succ _
  · exact Nat.le_succ _
  · next sign rest _ _ =>
      split
      · refine ((leaves_twoDigits 0 23 rest).longer (Nat.le_succ _)).bind
          fun (hours, rest) short => ?_
        refine ((leaves_char ':' rest).longer short).bind fun rest short => ?_
        refine ((leaves_twoDigits 0 59 rest).longer short).bind fun (minutes, rest) short => ?_
        exact short
      · trivial
  · trivial

theorem bounded_dateValue {reading : Reading (Value × Text)}
    (found : dateValue? text = some reading) : Bounded text Prod.snd never reading := by
  unfold dateValue? at found
  obtain ⟨⟨date, rest⟩, dated, made⟩ := Option.bind_eq_some_iff.1 found
  have short := (leaves_date text).length_le dated
  cases made
  dsimp only
  split
  · refine Nat.le_trans ?_ short
    split
    · next separator behind =>
        split
        · split
          · next time rest timed =>
              have less := (leaves_time behind).length_le timed
              split
              · next zone rest zoned =>
                  have least := (leaves_zone _).length_le zoned
                  dsimp only at less least ⊢
                  rw [List.length_cons]
                  omega
              · exact Nat.le_succ_of_le less
          · exact Nat.le_refl _
        · exact Nat.le_refl _
    · exact Nat.le_refl _
  · trivial

theorem length_spanDigits_le (isDigit : Char → Bool) (text : Text) :
    (spanDigits isDigit text).2.length ≤ text.length := by
  fun_induction spanDigits isDigit text with
  | case1 => exact Nat.le_refl _
  | case2 digit rest _ digits behind same ih =>
      simp only [same] at ih
      simp only [List.length_cons]
      omega
  | case3 => exact Nat.le_refl _
  | case4 digit rest _ _ digits behind same ih =>
      simp only [same] at ih
      exact Nat.le_succ_of_le ih
  | case5 => exact Nat.le_refl _

theorem leaves_digits (isDigit : Char → Bool) (text : Text) :
    Leaves text Prod.snd (digits? isDigit text) := by
  unfold digits?
  split
  · split
    · exact length_spanDigits_le _ _
    · trivial
  · trivial

theorem leaves_radix (text : Text) : Leaves text Prod.snd (radix? text) := by
  unfold radix?
  split
  · refine ((leaves_digits _ _).bind fun (digits, rest) short => ?_).longer (Nat.le_succ _)
    exact short
  · refine ((leaves_digits _ _).bind fun (digits, rest) short => ?_).longer (Nat.le_succ _)
    exact short
  · refine ((leaves_digits _ _).bind fun (digits, rest) short => ?_).longer (Nat.le_succ _)
    exact short
  · trivial

theorem length_splitSign_le (text : Text) : (splitSign text).2.length ≤ text.length := by
  unfold splitSign
  split
  · exact Nat.le_succ _
  · exact Nat.le_succ _
  · exact Nat.le_refl _

theorem leaves_fraction (text : Text) : Leaves text Prod.snd (fraction? text) := by
  unfold fraction?
  split
  · exact (leaves_digits _ _).longer (Nat.le_succ _)
  · trivial

theorem leaves_power (text : Text) : Leaves text Prod.snd (power? text) := by
  unfold power?
  split
  · next mark rest =>
      split
      · have short := Nat.le_succ_of_le (length_splitSign_le rest)
        refine ((leaves_digits _ _).longer short).bind fun (digits, rest) short => ?_
        exact short
      · trivial
  · trivial

theorem leaves_whole (text : Text) : Leaves text Prod.snd (whole? text) := by
  unfold whole?
  split
  · exact Nat.le_succ _
  · exact leaves_digits _ _

/-- An integer with too many digits, and the fault that it makes. -/
def IsTooLarge (text : Text) (fault : Fault) : Prop :=
  ∃ digits rest, whole? (splitSign text).2 = some (digits, rest) ∧ fraction? rest = none ∧
    power? rest = none ∧ longestInteger < digits.length ∧ fault = tooLong digits.length

theorem bounded_decimal {reading : Reading (Value × Text)} (found : decimal? text = some reading) :
    Bounded text Prod.snd (IsTooLarge text) reading := by
  have unsigned := length_splitSign_le text
  unfold decimal? at found
  unfold IsTooLarge
  generalize splitSign text = signed at *
  obtain ⟨⟨whole, rest⟩, digits, found⟩ := Option.bind_eq_some_iff.1 found
  have short := Nat.le_trans ((leaves_whole _).length_le digits) unsigned
  dsimp only at found short
  split at found
  · next plain single =>
      cases found
      by_cases long : longestInteger < whole.length
      · rw [integer_of_long _ long]
        exact ⟨whole, rest, digits, plain, single, long, rfl⟩
      · obtain ⟨value, made⟩ := exists_integer signed.1 long
        rw [made]
        exact short
  · next powered =>
      cases found
      exact Nat.le_trans ((leaves_power rest).length_le powered) short
  · next pointed =>
      have less := Nat.le_trans ((leaves_fraction rest).length_le pointed) short
      dsimp only at less
      split at found
      · cases found
        exact less
      · next powered =>
          cases found
          exact Nat.le_trans ((leaves_power _).length_le powered) less

theorem decimal_of_large (large : IsTooLarge text fault) :
    decimal? text = some (.error (.fault fault)) := by
  obtain ⟨digits, rest, spanned, plain, single, long, rfl⟩ := large
  unfold decimal?
  refine Option.bind_eq_some_iff.2 ⟨(digits, rest), spanned, ?_⟩
  simp only [plain, single, integer_of_long _ long]
  rfl

theorem bounded_number {reading : Reading (Value × Text)} (found : number? text = some reading) :
    Bounded text Prod.snd (IsTooLarge text) reading := by
  unfold number? at found
  split at found
  · next rest =>
      split at found
      · next based =>
          cases found
          exact Nat.le_succ_of_le ((leaves_radix rest).length_le based)
      · exact bounded_decimal found
  · exact bounded_decimal found

theorem bounded_readPlain (text : Text) :
    Bounded text Prod.snd (IsTooLarge text) (readPlain text) := by
  unfold readPlain
  split
  · next found => exact (leaves_after _ text).length_le found
  · next found _ => exact (leaves_after _ text).length_le found
  · split
    · next found => exact (bounded_dateValue found).of_never
    · split
      · next found => exact (leaves_time text).length_le found
      · split
        · next found => exact bounded_number found
        · split
          · simp only [Bounded, List.length_drop]
            omega
          · trivial

/-- As far as digits are read, there are digits and underscores. -/
theorem exists_of_lt_spanDigits (isDigit : Char → Bool) (text : Text) :
    ∀ index < (spanDigits isDigit text).1.length,
      ∃ character, text[index]? = some character ∧ (isDigit character = true ∨ character = '_') := by
  fun_induction spanDigits isDigit text with
  | case1 => exact fun _ => nofun
  | case2 digit rest isDigit digits behind same ih =>
      rintro (_ | _ | index) within
      · exact ⟨'_', rfl, Or.inr rfl⟩
      · exact ⟨digit, rfl, Or.inl isDigit⟩
      · simp only [same] at ih
        exact ih index (by simp only [List.length_cons] at within; omega)
  | case3 => exact fun _ => nofun
  | case4 digit rest _ isDigit digits behind same ih =>
      rintro (_ | index) within
      · exact ⟨digit, rfl, Or.inl isDigit⟩
      · simp only [same] at ih
        exact ih index (Nat.lt_of_succ_lt_succ within)
  | case5 => exact fun _ => nofun

theorem eq_of_char {expected : Char} (found : char? expected text = some rest) :
    text = expected :: rest := by
  unfold char? at found
  split at found
  · split at found
    · next same =>
        cases found
        rw [same]
    · cases found
  · cases found

theorem twoDigits_eq_some {low high value : Nat} (found : twoDigits? low high text = some (value, rest)) :
    ∃ first second, text = first :: second :: rest ∧ first.isDigit = true := by
  unfold twoDigits? at found
  split at found
  · next first second behind =>
      dsimp only at found
      split at found
      · next within =>
          cases found
          simp only [Bool.and_eq_true] at within
          exact ⟨first, second, rfl, within.1.1.1⟩
      · cases found
  · cases found

theorem time_begins {found : ClockTime × Text} (timed : time? text = some found) :
    (∀ first ∈ text.head?, first.isDigit = true) ∧ text[2]? = some ':' := by
  unfold time? at timed
  obtain ⟨⟨hour, rest⟩, digits, timed⟩ := Option.bind_eq_some_iff.1 timed
  obtain ⟨behind, colon, -⟩ := Option.bind_eq_some_iff.1 timed
  obtain ⟨first, second, rfl, isDigit⟩ := twoDigits_eq_some digits
  rw [eq_of_char colon]
  exact ⟨by rintro _ ⟨⟩; exact isDigit, rfl⟩

theorem date_begins {found : Calendar.Date × Text} (dated : date? text = some found) :
    (∀ first ∈ text.head?, first.isDigit = true) ∧ text[4]? = some '-' := by
  unfold date? at dated
  dsimp only at dated
  split at dated
  · next year =>
      obtain ⟨behind, dash, -⟩ := Option.bind_eq_some_iff.1 dated
      have same := congrArg List.head? (eq_of_char dash)
      rw [List.head?_drop] at same
      refine ⟨fun first member => ?_, same⟩
      simp only [Bool.and_eq_true, List.all_eq_true] at year
      refine year.2 first ?_
      cases text with
      | nil => cases member
      | cons first rest =>
          cases member
          exact List.mem_cons_self
  · cases dated

/-- An integer with too many digits begins with its sign or with digits and underscores. -/
theorem IsTooLarge.begins (large : IsTooLarge text fault) :
    (∃ sign rest, text = sign :: rest ∧ (sign = '-' ∨ sign = '+')) ∨
      (∃ first rest, text = first :: rest ∧ first.isDigit = true ∧ first ≠ '0') ∧
        ∀ index < 5, ∃ character, text[index]? = some character ∧
          (character.isDigit = true ∨ character = '_') := by
  obtain ⟨digits, rest, spanned, -, -, long, -⟩ := large
  unfold splitSign at spanned
  split at spanned
  · exact Or.inl ⟨_, _, rfl, Or.inl rfl⟩
  · exact Or.inl ⟨_, _, rfl, Or.inr rfl⟩
  · refine Or.inr ?_
    dsimp only at spanned
    unfold whole? at spanned
    split at spanned
    · cases spanned
      exact absurd long (by decide)
    · next other =>
        unfold digits? at spanned
        split at spanned
        · next first rest _ _ =>
            split at spanned
            · next isDigit =>
                refine ⟨⟨first, rest, rfl, isDigit, fun zero => other rest (by rw [zero])⟩,
                  fun index within => exists_of_lt_spanDigits _ _ index ?_⟩
                rw [Option.some.inj spanned]
                exact Nat.lt_trans (Nat.lt_of_lt_of_le within (by decide)) long
            · cases spanned
        · cases spanned

theorem IsTooLarge.nonempty (large : IsTooLarge text fault) :
    ∃ first rest, text = first :: rest ∧ first ≠ 't' ∧ first ≠ 'f' ∧ first ≠ '0' ∧ first ≠ '"' ∧
      first ≠ singleQuote ∧ first ≠ '[' ∧ first ≠ '\x7b' := by
  rcases large.begins with ⟨sign, rest, rfl, rfl | rfl⟩ | ⟨⟨first, rest, rfl, isDigit, natural⟩, -⟩
  · exact ⟨_, _, rfl, by decide⟩
  · exact ⟨_, _, rfl, by decide⟩
  · refine ⟨_, _, rfl, ?_, ?_, natural, ?_, ?_, ?_, ?_⟩
    all_goals
      rintro rfl
      exact absurd isDigit (by decide)

theorem IsTooLarge.date_eq_none (large : IsTooLarge text fault) : date? text = none := by
  refine Option.eq_none_iff_forall_ne_some.2 fun found dated => ?_
  obtain ⟨digit, dash⟩ := date_begins dated
  rcases large.begins with ⟨sign, rest, rfl, rfl | rfl⟩ | ⟨-, begins⟩
  · exact absurd (digit _ rfl) (by decide)
  · exact absurd (digit _ rfl) (by decide)
  · obtain ⟨character, same, other⟩ := begins 4 (by decide)
    cases dash.symm.trans same
    exact absurd other (by decide)

theorem IsTooLarge.time_eq_none (large : IsTooLarge text fault) : time? text = none := by
  refine Option.eq_none_iff_forall_ne_some.2 fun found timed => ?_
  obtain ⟨digit, colon⟩ := time_begins timed
  rcases large.begins with ⟨sign, rest, rfl, rfl | rfl⟩ | ⟨-, begins⟩
  · exact absurd (digit _ rfl) (by decide)
  · exact absurd (digit _ rfl) (by decide)
  · obtain ⟨character, same, other⟩ := begins 2 (by decide)
    cases colon.symm.trans same
    exact absurd other (by decide)

theorem readPlain_of_large (large : IsTooLarge text fault) :
    readPlain text = .error (.fault fault) := by
  obtain ⟨first, rest, rfl, noTrue, noFalse, natural, -⟩ := large.nonempty
  have numbered : number? (first :: rest) = some (.error (.fault fault)) := by
    unfold number?
    split
    · next same => exact absurd (List.cons.inj same).1 natural
    · exact decimal_of_large large
  have isTrue : Text.after? "true" (first :: rest) = none := if_neg (Ne.symm noTrue)
  have isFalse : Text.after? "false" (first :: rest) = none := if_neg (Ne.symm noFalse)
  have undated : dateValue? (first :: rest) = none := by
    unfold dateValue?
    rw [large.date_eq_none]
    rfl
  unfold readPlain
  simp only [isTrue, isFalse, undated, large.time_eq_none, numbered]

end Toml

end Config

end StaticSite
