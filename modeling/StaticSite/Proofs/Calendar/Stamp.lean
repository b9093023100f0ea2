import StaticSite.Calendar.Stamp
import StaticSite.Proofs.Fault
import StaticSite.Proofs.Text.Words

/-!
# The date in a stamp

A stamp is read twice: whole, for the moment that it stands for, and by its words, for the date
that a page shows.  Whatever the first reading takes for a date the second one takes for the same
date, however the parts of the stamp are kept apart.
-/

namespace StaticSite

namespace Text

variable {character : Char} {value : Nat}

theorem isBlank_of_digitValue? (found : digitValue? character = some value) :
    isBlank character = false := by
  have plain : ∀ nought ∈ digitZeros, ∀ offset < 10,
      isBlank (Char.ofNat (nought + offset)) = false := by
    decide +kernel
  obtain ⟨nought, inside, -⟩ := Option.map_eq_some_iff.1 found
  have within := List.find?_some inside
  rw [Bool.and_eq_true, decide_eq_true_eq, decide_eq_true_eq] at within
  have code := plain nought (List.mem_of_find?_eq_some inside) (character.toNat - nought) (by omega)
  rwa [Nat.add_sub_cancel' within.1, Char.ofNat_toNat] at code

theorem isBlank_of_toLower (plain : isBlank character.toLower = false) :
    isBlank character = false := by
  unfold Char.toLower at plain
  split at plain
  · next upper =>
      have codes : 65 ≤ character.toNat ∧ character.toNat ≤ 90 := upper
      simp only [isBlank, Bool.or_eq_false_iff, Bool.and_eq_false_iff, decide_eq_false_iff_not,
        beq_eq_false_iff_ne]
      omega
  · exact plain

end Text

namespace Calendar

/-- A text ends here, or it goes on with a blank. -/
def Stops (text : Text) : Prop := ∀ character ∈ text.head?, Text.isBlank character = true

/-- A reader takes a word for a value wherever the text stops behind the word. -/
structure Takes {Value : Type} (read : Text → Option (Value × Text)) (word : Text)
    (value : Value) : Prop where
  nonempty : word ≠ []
  plain : ∀ character ∈ word, Text.isBlank character = false
  takes : ∀ rest, Stops rest → read (word ++ rest) = some (value, rest)

variable {text rest value : Text} {names : List String} {day index year tens : Nat}
  {first : Char} {date : Date} {moment : Moment} {source : Option Text}

theorem digitValue?_of_stops {second : Char} (stops : Stops (second :: rest)) :
    Text.digitValue? second = none := by
  by_contra found
  obtain ⟨digit, found⟩ := Option.ne_none_iff_exists'.1 found
  have plain := Text.isBlank_of_digitValue? found
  rw [stops second rfl] at plain
  cases plain

/-- A day of one digit is read where no second digit follows. -/
theorem readDay_cons (stops : Stops rest) (bounds : '1' ≤ first ∧ first ≤ '9')
    (digit : Text.digitValue? first = some tens) : readDay (first :: rest) = some (tens, rest) := by
  unfold readDay
  split
  · next same =>
      obtain ⟨-, rfl⟩ := List.cons.inj same
      exact absurd (digitValue?_of_stops stops) (by decide)
  · next same =>
      obtain ⟨-, rfl⟩ := List.cons.inj same
      exact absurd (digitValue?_of_stops stops) (by decide)
  · next same =>
      obtain ⟨rfl, -⟩ := List.cons.inj same
      exact absurd bounds.1 (by decide)
  · next same =>
      obtain ⟨rfl, rfl⟩ := List.cons.inj same
      rw [if_pos bounds, digit]
      cases rest with
      | nil => rfl
      | cons second later => simp [digitValue?_of_stops stops]
  · next same => cases same

theorem readDay_cons_cons {second : Char} {ones : Nat} (bounds : '1' ≤ first ∧ first ≤ '9')
    (low : first ≤ '2') (digit : Text.digitValue? first = some tens)
    (also : Text.digitValue? second = some ones) :
    readDay (first :: second :: rest) = some (tens * 10 + ones, rest) := by
  unfold readDay
  split
  · next same =>
      obtain ⟨rfl, -⟩ := List.cons.inj same
      exact absurd low (by decide)
  · next same =>
      obtain ⟨rfl, -⟩ := List.cons.inj same
      exact absurd low (by decide)
  · next same =>
      obtain ⟨rfl, -⟩ := List.cons.inj same
      exact absurd bounds.1 (by decide)
  · next same =>
      obtain ⟨rfl, rfl⟩ := List.cons.inj same
      simp [bounds, low, digit, also]
  · next same => cases same

theorem takes_readDay (read : readDay text = some (day, rest)) :
    ∃ word, text = word ++ rest ∧ Takes readDay word day := by
  unfold readDay at read
  split at read
  · cases read
    exact ⟨['3', '0'], rfl, by simp, by simp [Text.isBlank], fun _ _ => rfl⟩
  · cases read
    exact ⟨['3', '1'], rfl, by simp, by simp [Text.isBlank], fun _ _ => rfl⟩
  · next second later =>
      split at read
      · next bounds =>
          obtain ⟨digit, found, taken⟩ := Option.bind_eq_some_iff.1 read
          cases taken
          refine ⟨['0', second], rfl, by simp, ?_, ?_⟩
          · have plain := Text.isBlank_of_digitValue? found
            simp [plain, show Text.isBlank '0' = false by decide]
          · intro other _
            simp [readDay, bounds, found]
      · cases read
  · next first later notThirty notThirtyOne notNought =>
      split at read
      · next bounds =>
          obtain ⟨tens, found, taken⟩ := Option.bind_eq_some_iff.1 read
          have plain := Text.isBlank_of_digitValue? found
          have single : later = rest → tens = day →
              ∃ word, first :: later = word ++ rest ∧ Takes readDay word day := by
            rintro rfl rfl
            exact ⟨[first], rfl, by simp, by simpa using plain,
              fun other stops => readDay_cons stops bounds found⟩
          split at taken
          · next second others =>
              split at taken
              · next ones also =>
                  split at taken
                  · next low =>
                      cases taken
                      refine ⟨[first, second], rfl, by simp, ?_, ?_⟩
                      · simp [plain, Text.isBlank_of_digitValue? also]
                      · exact fun other _ => readDay_cons_cons bounds low found also
                  · cases taken
                    exact single rfl rfl
              · cases taken
                exact single rfl rfl
          · cases taken
            exact single rfl rfl
      · cases read
  · cases read

theorem takes_readName (index : Nat)
    (long : ∀ name ∈ names, (Text.lowerAscii (name.toList.take 3)).length = 3)
    (plain : ∀ name ∈ names, (Text.lowerAscii (name.toList.take 3)).any Text.isBlank = false)
    (read : readName names text = some (index, rest)) :
    ∃ word, text = word ++ rest ∧ Takes (readName names) word index := by
  obtain ⟨place, found, taken⟩ := Option.map_eq_some_iff.1 read
  cases taken
  obtain ⟨inside, same, -⟩ := List.findIdx?_eq_some_iff_getElem.1 found
  have named := of_decide_eq_true same
  have member := List.getElem_mem inside
  have whole := long _ member
  rw [named] at whole
  have short : (text.take 3).length = 3 := (List.length_map _).symm.trans whole
  refine ⟨text.take 3, (List.take_append_drop 3 text).symm, ?_, ?_, ?_⟩
  · intro none
    rw [none] at short
    cases short
  · intro character inside
    apply Text.isBlank_of_toLower
    apply Bool.eq_false_iff.2
    apply List.any_eq_false.1 (plain _ member)
    rw [named]
    exact List.mem_map_of_mem inside
  · intro other _
    rw [readName, List.take_append_of_le_length (by omega), List.take_take, Nat.min_self, found,
      List.drop_append_of_le_length (by omega), List.drop_of_length_le (by omega)]
    rfl

theorem takes_readYear (read : readYear text = some (year, rest)) :
    ∃ word, text = word ++ rest ∧ Takes readYear word year := by
  unfold readYear at read
  split at read
  · next a b c d later =>
      simp only [Option.bind_eq_bind, Option.bind_eq_some_iff, Option.pure_def, Option.some.injEq,
        Prod.mk.injEq] at read
      obtain ⟨thousands, first, hundreds, second, tens, third, ones, fourth, rfl, rfl⟩ := read
      refine ⟨[a, b, c, d], rfl, by simp, ?_, ?_⟩
      · simp [Text.isBlank_of_digitValue? first, Text.isBlank_of_digitValue? second,
          Text.isBlank_of_digitValue? third, Text.isBlank_of_digitValue? fourth]
      · intro other _
        simp [readYear, first, second, third, fourth]
  · cases read

/-- Blanks are read up to the next word. -/
theorem words_of_readBlanks (read : readBlanks text = some rest) :
    Text.words rest = Text.words text ∧ ∃ mark later, Text.isBlank mark = true ∧
      text = mark :: later := by
  unfold readBlanks at read
  split at read
  · cases read
  · next mark later =>
      split at read
      · next blank =>
          cases read
          exact ⟨(Text.words_dropWhile later).trans (Text.words_cons_blank later blank).symm,
            mark, later, blank, rfl⟩
      · cases read

/-- A word in front of blanks is the first word. -/
theorem words_append_of_readBlanks {word : Text} (nonempty : word ≠ [])
    (plain : ∀ character ∈ word, Text.isBlank character = false)
    (read : readBlanks text = some rest) :
    Text.words (word ++ text) = word :: Text.words rest ∧ Stops text := by
  obtain ⟨same, mark, later, blank, rfl⟩ := words_of_readBlanks read
  refine ⟨?_, ?_⟩
  · rw [same, Text.words_append_of_plain nonempty plain blank, Text.words_cons_blank later blank]
  · rintro character member
    cases member
    exact blank

theorem readBlanks_space {word : Text} (rest : Text) (nonempty : word ≠ [])
    (plain : ∀ character ∈ word, Text.isBlank character = false) :
    readBlanks (' ' :: (word ++ rest)) = some (word ++ rest) := by
  obtain ⟨first, word, rfl⟩ := List.exists_cons_of_ne_nil nonempty
  have other : ¬ Text.isBlank first = true := by simp [plain first List.mem_cons_self]
  rw [readBlanks, if_pos (by decide), List.cons_append, List.dropWhile_cons_of_neg other]

theorem stops_space (text : Text) : Stops (' ' :: text) := by
  intro character member
  cases member
  decide

/-- The words of a date, from which it can be read again. -/
theorem exists_words_of_readDate (read : readDate text = some (date, rest)) {later : Text}
    (blanks : readBlanks rest = some later) :
    ∃ day month year, Text.words text = day :: month :: year :: Text.words later ∧
      readDate (Text.join " " [day, month, year]) = some (date, []) := by
  unfold readDate at read
  simp only [Option.bind_eq_bind, Option.bind_eq_some_iff, Option.pure_def, Option.some.injEq,
    Prod.mk.injEq, Prod.exists] at read
  obtain ⟨day, afterDay, readsDay, beforeMonth, firstBlanks, month, afterMonth, readsMonth,
    beforeYear, secondBlanks, year, ending, readsYear, rfl, rfl⟩ := read
  obtain ⟨dayWord, rfl, takesDay⟩ := takes_readDay readsDay
  obtain ⟨monthWord, rfl, takesMonth⟩ :=
    takes_readName month (by decide) (by decide) readsMonth
  obtain ⟨yearWord, rfl, takesYear⟩ := takes_readYear readsYear
  have first := (words_append_of_readBlanks takesDay.nonempty takesDay.plain firstBlanks).1
  have second := (words_append_of_readBlanks takesMonth.nonempty takesMonth.plain secondBlanks).1
  have third := (words_append_of_readBlanks takesYear.nonempty takesYear.plain blanks).1
  refine ⟨dayWord, monthWord, yearWord, by rw [first, second, third], ?_⟩
  have joined : Text.join " " [dayWord, monthWord, yearWord] =
      dayWord ++ ' ' :: (monthWord ++ ' ' :: (yearWord ++ [])) := by
    simp [Text.join]
  rw [joined, readDate]
  simp only [takesDay.takes _ (stops_space _), takesMonth.takes _ (stops_space _),
    takesYear.takes [] nofun, readBlanks_space _ takesMonth.nonempty takesMonth.plain,
    readBlanks_space _ takesYear.nonempty takesYear.plain, Option.bind_eq_bind, Option.bind_some]
  rfl

/-- The second to fourth word of a stamp are its date. -/
theorem exists_words_of_readWallClock (read : readWallClock text = some moment) :
    ∃ weekday day month year others,
      Text.words text = weekday :: day :: month :: year :: others ∧
        readDate (Text.join " " [day, month, year]) = some (moment.date, []) ∧
        moment.isValid = true := by
  unfold readWallClock at read
  simp only [Option.bind_eq_bind, Option.bind_eq_some_iff, Prod.exists] at read
  obtain ⟨weekday, afterName, readsName, afterComma, comma, beforeDate, blanks, date, afterDate,
    readsDate, beforeHour, moreBlanks, hour, _, -, _, -, minute, _, -, _, -, second, ending, -,
    checked⟩ := read
  split at checked
  · next valid =>
      cases checked
      obtain ⟨name, rfl, takesName⟩ := takes_readName weekday (by decide) (by decide) readsName
      have marked : afterName = ',' :: afterComma := by
        unfold readChar at comma
        split at comma
        · cases comma
        · split at comma
          · next same =>
              cases comma
              rw [same]
          · cases comma
      have plain : ∀ character ∈ name ++ [','], Text.isBlank character = false := by
        intro character member
        rcases List.mem_append.1 member with inside | last
        · exact takesName.plain character inside
        · rw [List.mem_singleton.1 last]
          decide
      have first := (words_append_of_readBlanks (by simp) plain blanks).1
      obtain ⟨day, month, year, dated, again⟩ := exists_words_of_readDate readsDate moreBlanks
      refine ⟨name ++ [','], day, month, year, Text.words beforeHour, ?_, again, ?_⟩
      · rw [marked, ← dated, ← first, List.append_assoc]
        rfl
      · exact (Bool.and_eq_true_iff.1 valid).2
  · cases checked

/-- A day as a page shows it. -/
def Date.shown (date : Date) : Text :=
  monthName date.month ++ " " ++ Text.ofNat date.day ++ ", " ++ Text.ofNat date.year

theorem words_splitStamp (value : Text) :
    Text.words value = Text.words (splitStamp value).1 ++ Text.words (splitStamp value).2 := by
  rw [← Text.words_trim value, splitStamp]
  cases found : Text.cutLast? ' ' (Text.trim value) with
  | none => rfl
  | some parts =>
      rw [(Text.eq_of_cutLast? found).1, Text.words_append_blank _ _ (by decide)]
      rfl

/-- A page shows the date that stands in the stamp, before it is converted to universal time. -/
theorem displayStamp_of_readWallClock (read : readWallClock (splitStamp value).1 = some moment) :
    displayStamp value source = .ok moment.date.shown := by
  obtain ⟨weekday, day, month, year, others, listed, again, valid⟩ :=
    exists_words_of_readWallClock read
  have dated : moment.date.isValid = true := by
    simp only [Moment.isValid, Bool.and_eq_true] at valid
    exact valid.1.1.1
  have picked : ((Text.words value).drop 1).take 3 = [day, month, year] := by
    rw [words_splitStamp, listed]
    rfl
  unfold displayStamp
  simp only [picked, again, dated, if_true]
  rfl

/-- A stamp stands for the moment on its wall clock, moved by the offset of its zone. -/
theorem parseStamp_eq_ok_iff {published : Moment} :
    parseStamp value source = .ok published ↔
      ∃ wall offset, readWallClock (splitStamp value).1 = some wall ∧
        parseZone (splitStamp value).2 source = .ok offset ∧
        wall.shift? (-offset) = some published := by
  unfold parseStamp
  simp only
  cases readWallClock (splitStamp value).1 with
  | none => exact iff_of_false nofun nofun
  | some wall =>
      simp only [bind_eq_ok_iff, Option.some.injEq, exists_and_left, exists_eq_left']
      refine exists_congr fun offset => and_congr_right fun _ => ?_
      cases wall.shift? (-offset) with
      | none => exact iff_of_false nofun nofun
      | some moment => simp [pure, Except.pure]

end Calendar

end StaticSite
