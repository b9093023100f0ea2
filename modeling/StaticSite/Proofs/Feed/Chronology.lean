import StaticSite.Proofs.Calendar.Instants
import StaticSite.Proofs.Feed

/-!
# The chronology of feeds

Posts are stamped in zones of their own.  They are compared, and listed, by the instants that their
stamps name in universal time.
-/

namespace StaticSite

namespace Feed

open Calendar

variable {entries : List FeedEntry} {entry : FeedEntry} {stamp : Stamp}

/-- An entry is that of some post with a given stamp. -/
def IsStamped (entry : FeedEntry) (stamp : Stamp) : Prop :=
  entry.publishedText = stamp.text ∧
    ∃ path fields address base, Feed.entry path fields address base = .ok entry

theorem IsStamped.instant (stamped : IsStamped entry stamp) :
    entry.published.toSeconds = stamp.instant := by
  obtain ⟨written, path, fields, address, base, made⟩ := stamped
  have parsed := (stamp_of_entry made).2
  rw [written] at parsed
  exact (Stamp.instant_of_parseStamp parsed).2

/-- The posts of a feed stand from the latest instant to the earliest. -/
theorem pairwise_instant_sort {stampOf : FeedEntry → Stamp}
    (stamped : ∀ entry ∈ entries, IsStamped entry (stampOf entry)) :
    (sort entries).Pairwise fun first second =>
      (stampOf second).instant ≤ (stampOf first).instant := by
  have members {entry : FeedEntry} (listed : entry ∈ sort entries) :=
    (stamped entry ((sort_perm entries).mem_iff.1 listed)).instant
  refine (pairwise_notOlder entries).imp_of_mem fun {first second} one two notOlder => ?_
  rw [← members one, ← members two, Int.ofNat_le]
  exact of_decide_eq_true notOlder

/-- The posts of one instant stand as they were found. -/
theorem filter_instant_sort {stampOf : FeedEntry → Stamp}
    (stamped : ∀ entry ∈ entries, IsStamped entry (stampOf entry)) (instant : Int) :
    (sort entries).filter (fun entry => (stampOf entry).instant = instant) =
      entries.filter fun entry => (stampOf entry).instant = instant := by
  have counted {listed : List FeedEntry} (within : ∀ entry ∈ listed, entry ∈ entries) :
      (listed.filter fun entry => (stampOf entry).instant = instant) =
        listed.filter fun entry => (entry.published.toSeconds : Int) = instant :=
    List.filter_congr fun entry member => by
      rw [(stamped entry (within entry member)).instant]
  rw [counted fun _ member => (sort_perm entries).mem_iff.1 member, counted fun _ member => member]
  cases instant with
  | ofNat seconds =>
      have same (entry : FeedEntry) : decide ((entry.published.toSeconds : Int) = .ofNat seconds) =
          (entry.published.toSeconds == seconds) := by
        rw [Bool.eq_iff_iff, decide_eq_true_eq, beq_iff_eq]
        exact Int.ofNat_inj
      simpa only [same] using filter_sort entries seconds
  | negSucc seconds => simp

/-- Stamps are read, compared and listed by their instants in universal time, whatever zones they
are written in. -/
theorem sorts_by_instant :
    (∀ zone source east, parseZone zone source = .ok east ↔
      StandsFor zone east ∧ east.natAbs < 86400) ∧
    (∀ (stamp : Stamp) source, ∃ published, parseStamp stamp.text source = .ok published ∧
      published.isValid = true ∧ published.toSeconds = stamp.instant) ∧
    (∀ (first second : Stamp) source other published later,
      parseStamp first.text source = .ok published → parseStamp second.text other = .ok later →
        (published.Before later ↔ first.instant < second.instant) ∧
          (published = later ↔ first.instant = second.instant)) ∧
    ∀ (entries : List FeedEntry) (stampOf : FeedEntry → Stamp),
      (∀ entry ∈ entries, IsStamped entry (stampOf entry)) →
        (sort entries).Perm entries ∧
          ((sort entries).Pairwise fun first second =>
            (stampOf second).instant ≤ (stampOf first).instant) ∧
          ∀ instant, ((sort entries).filter fun entry => (stampOf entry).instant = instant) =
            entries.filter fun entry => (stampOf entry).instant = instant := by
  refine ⟨fun _ _ _ => parseZone_eq_ok_iff, fun stamp source => ?_, ?_, ?_⟩
  · have parsed := stamp.parseStamp_text source
    exact ⟨_, parsed, Stamp.instant_of_parseStamp parsed⟩
  · intro first second source other published later parsed also
    exact ⟨Stamp.before_iff parsed also, Stamp.eq_iff parsed also⟩
  · intro entries stampOf stamped
    exact ⟨sort_perm entries, pairwise_instant_sort stamped, filter_instant_sort stamped⟩

/-- A quarter of an hour into a new year, which is a quarter of an hour before half past ten in
universal time. -/
def easternStamp : Stamp where
  weekday := 0
  wall := ⟨⟨2024, 1, 1⟩, 0, 15, 0⟩
  zone := "+02:00"
  east := 7200
  valid := by decide
  stands := .numeric false true ⟨'0', '2', 0, 2, rfl, by decide, by decide, rfl⟩
    ⟨'0', '0', 0, 0, rfl, by decide, by decide, rfl⟩
  near := by decide
  held := ⟨by decide, by decide⟩

def westernStamp : Stamp where
  weekday := 6
  wall := ⟨⟨2023, 12, 31⟩, 16, 30, 0⟩
  zone := "CST"
  east := -6 * 3600
  valid := by decide
  stands := @StandsFor.listed "CST" (-6) (by decide)
  near := by decide
  held := ⟨by decide, by decide⟩

def easternPost : FeedEntry :=
  ⟨"East", "https://e.org/east", ⟨.here, ["content", "east.md"]⟩, easternStamp.text,
    ⟨⟨2023, 12, 31⟩, 22, 15, 0⟩, "https://e.org/east"⟩

def westernPost : FeedEntry :=
  ⟨"West", "https://e.org/west", ⟨.here, ["content", "west.md"]⟩, westernStamp.text,
    ⟨⟨2023, 12, 31⟩, 22, 30, 0⟩, "https://e.org/west"⟩

def stampOf (entry : FeedEntry) : Stamp :=
  if entry = easternPost then easternStamp else westernStamp

/-- The fields of a post that has a title and a stamp. -/
def stampedFields (title : Text) (stamp : Stamp) : Fields :=
  Dictionary.ofList [("title", title), ("date", stamp.text)]

theorem isStamped_easternPost : IsStamped easternPost easternStamp :=
  ⟨rfl, easternPost.source, stampedFields "East" easternStamp, "https://e.org/",
    ⟨.here, ["content"]⟩, by decide +kernel⟩

theorem isStamped_westernPost : IsStamped westernPost westernStamp :=
  ⟨rfl, westernPost.source, stampedFields "West" westernStamp, "https://e.org/",
    ⟨.here, ["content"]⟩, by decide +kernel⟩

/-- The post that is dated in the old year is the younger one, and stands first. -/
theorem sorts_by_instant_newYear :
    (∀ entry ∈ [easternPost, westernPost], IsStamped entry (stampOf entry)) ∧
      ((sort [easternPost, westernPost]).Pairwise fun first second =>
        (stampOf second).instant ≤ (stampOf first).instant) ∧
      parseStamp easternStamp.text none = .ok easternPost.published ∧
      parseStamp westernStamp.text none = .ok westernPost.published ∧
      easternPost.published.Before westernPost.published := by
  have stamped : ∀ entry ∈ [easternPost, westernPost], IsStamped entry (stampOf entry) := by
    intro entry listed
    rcases List.mem_pair.1 listed with rfl | rfl
    · exact isStamped_easternPost
    · exact isStamped_westernPost
  have eastern : parseStamp easternStamp.text none = .ok easternPost.published := by
    decide +kernel
  have western : parseStamp westernStamp.text none = .ok westernPost.published := by
    decide +kernel
  have compared := sorts_by_instant.2.2.1 _ _ _ _ _ _ eastern western
  exact ⟨stamped, (sorts_by_instant.2.2.2 _ _ stamped).2.1, eastern, western,
    compared.1.2 (by decide)⟩

end Feed

end StaticSite
