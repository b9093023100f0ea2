import StaticSite.Proofs.Build.Posting
import StaticSite.Proofs.Calendar.Stamp
import StaticSite.Proofs.Dictionary

/-!
# The dates of posts

A page that shows a date belongs to a feed that was written before.  The feed has read the stamp
of the page, so that the page can show the date in it.
-/

namespace StaticSite

open StaticSite.Action

namespace Build

variable {context : Context} {directory path : Path} {isFeed : Bool} {findings : Findings}
  {depth : Nat} {before after : Workspace}

/-- A job that shows a date has its feed among those that were found, unless its directory is the
feed that is walked. -/
def Dated (directory : Path) (isFeed : Bool) (feeds : List Path) (job : Job) : Prop :=
  job.isFeedMember = true → ∃ feed, job.feedDirectory = some feed ∧
    (feed = directory ∧ isFeed = true ∨ feed.child Feed.fileName ∈ feeds)

theorem Dated.mono {feeds more : List Path} {job : Job}
    (dated : Dated directory isFeed feeds job) (within : feeds ⊆ more) :
    Dated directory isFeed more job := by
  intro member
  obtain ⟨feed, belongs, here | found⟩ := dated member
  · exact ⟨feed, belongs, Or.inl here⟩
  · exact ⟨feed, belongs, Or.inr (within found)⟩

theorem dated_jobOf {found : Option Job} {feeds : List Path}
    (ran : Runs (jobOf context directory isFeed path) before found after) :
    ∀ job ∈ found.toList, Dated directory isFeed feeds job := by
  unfold jobOf at ran
  obtain ⟨document, middle, -, ran⟩ := runs_bind.1 ran
  split at ran
  · obtain ⟨_, _, -, ended⟩ := runs_bind.1 ran
    obtain ⟨rfl, -⟩ := runs_pure.1 ended
    simp
  · obtain ⟨rfl, -⟩ := runs_pure.1 ran
    intro job listed
    rw [Option.toList_some, List.mem_singleton] at listed
    subst listed
    intro member
    exact ⟨directory, if_pos member, Or.inl ⟨rfl, (Bool.and_eq_true_iff.1 member).1⟩⟩

/-- All jobs of a walk that show a date have their feeds. -/
def WalkDates (context : Context) (depth : Nat) : Prop :=
  ∀ directory isFeed before findings after,
    Runs (walk context depth directory isFeed) before findings after →
      ∀ job ∈ findings.jobs, Dated directory isFeed findings.feeds job

theorem dated_walkEntry (walks : WalkDates context depth)
    (ran : Runs (walkEntry context depth directory isFeed path) before findings after) :
    ∀ job ∈ findings.jobs, Dated directory isFeed findings.feeds job := by
  rw [walkEntry] at ran
  obtain ⟨isFile, _, -, ran⟩ := runs_bind.1 ran
  split at ran
  · obtain ⟨found, _, given, ended⟩ := runs_bind.1 ran
    obtain ⟨rfl, -⟩ := runs_pure.1 ended
    exact dated_jobOf given
  · obtain ⟨isDirectory, _, -, ran⟩ := runs_bind.1 ran
    split at ran
    · obtain ⟨fields, _, -, ran⟩ := runs_bind.1 ran
      split at ran
      · obtain ⟨feed, _, written, ran⟩ := runs_bind.1 ran
        obtain ⟨found, _, walked, ended⟩ := runs_bind.1 ran
        obtain ⟨rfl, -⟩ := runs_pure.1 ended
        intro job listed member
        have listed : job ∈ found.jobs := by simpa [Findings.append] using listed
        -- What the walk of the feed leaves open is the feed that was written for it.
        obtain ⟨own, belongs, ⟨rfl, -⟩ | known⟩ := walks _ _ _ _ _ walked job listed member
        · refine ⟨own, belongs, Or.inr ?_⟩
          rw [output_of_writeFeed written]
          exact List.mem_cons_self
        · exact ⟨own, belongs, Or.inr (List.mem_append_right [feed] known)⟩
      · intro job listed member
        obtain ⟨own, belongs, ⟨-, none⟩ | known⟩ := walks _ _ _ _ _ ran job listed member
        · cases none
        · exact ⟨own, belongs, Or.inr known⟩
    · obtain ⟨rfl, -⟩ := runs_pure.1 ran
      simp

theorem dated_walkEntries {paths : List Path} (walks : WalkDates context depth)
    (ran : Runs (walkEntries context depth directory isFeed paths) before findings after) :
    ∀ job ∈ findings.jobs, Dated directory isFeed findings.feeds job := by
  induction paths generalizing before findings with
  | nil =>
      rw [walkEntries] at ran
      obtain ⟨rfl, -⟩ := runs_pure.1 ran
      simp
  | cons path paths ih =>
      rw [walkEntries] at ran
      obtain ⟨found, middle, first, ran⟩ := runs_bind.1 ran
      obtain ⟨later, last, second, ended⟩ := runs_bind.1 ran
      obtain ⟨rfl, rfl⟩ := runs_pure.1 ended
      intro job listed
      rcases List.mem_append.1 listed with early | late
      · exact (dated_walkEntry walks first job early).mono (List.subset_append_left _ _)
      · exact (ih second job late).mono (List.subset_append_right _ _)

theorem walkDates (context : Context) (depth : Nat) : WalkDates context depth := by
  induction depth with
  | zero =>
      intro directory isFeed before findings after ran
      rw [walk] at ran
      obtain ⟨rfl, -⟩ := runs_pure.1 ran
      simp
  | succ depth ih =>
      intro directory isFeed before findings after ran
      rw [walk] at ran
      obtain ⟨children, _, -, ran⟩ := runs_bind.1 ran
      exact dated_walkEntries ih ran

/-- Every job that shows a date belongs to a feed that was found. -/
theorem exists_feed_of_gather (ran : Runs (gather context) before findings after) {job : Job}
    (listed : job ∈ findings.jobs) (member : job.isFeedMember = true) :
    ∃ feed, job.feedDirectory = some feed ∧ feed.child Feed.fileName ∈ findings.feeds := by
  unfold gather at ran
  obtain ⟨_, _, -, ran⟩ := runs_bind.1 ran
  obtain ⟨feed, belongs, ⟨-, none⟩ | found⟩ := walkDates context _ _ _ _ _ _ ran job listed member
  · cases none
  · exact ⟨feed, belongs, found⟩

/-- Gathering has made an entry of every job that shows a date. -/
theorem exists_entry_of_gather (wellFormed : before.files.WellFormed)
    (ran : Runs (gather context) before findings after) {job : Job}
    (listed : job ∈ findings.jobs) (member : job.isFeedMember = true) :
    ∃ entry, Feed.entry job.source job.fields context.config.baseURL context.outputDirectory =
      .ok entry := by
  obtain ⟨origin, opens⟩ := opens_of_gather ran
  obtain ⟨feed, belongs, found⟩ := exists_feed_of_gather ran listed member
  obtain ⟨folder, -, same, fields, entries, modified, opened, posts, -⟩ :=
    feedsListed_gather wellFormed opens ran _ found
  obtain ⟨inner, stem, -, isJob⟩ := (walked_gather wellFormed opens ran).sound job listed
  obtain ⟨above, other⟩ := belongs_gather ran job listed feed belongs
  -- The feed, the folder that it was written for and the folder of the job are one directory.
  rw [isJob.source, ← Path.child_extend, Path.parent_child] at above
  rw [← above, Path.child_extend] at same
  obtain rfl := (List.append_singleton_inj.1 (Path.extend_injective same)).1
  rw [isJob.source, Path.name_extend] at other
  obtain ⟨entry, -, known⟩ := posts.exists_entry wellFormed opened isJob other
  exact ⟨entry, known⟩

/-- The values of a page of a feed show the date of a wall clock. -/
theorem get?_date_of_context {job : Job} {content tags stamp : Text} {wall : Calendar.Moment}
    (member : job.isFeedMember = true) (stamped : job.fields.get? "date" = some stamp)
    (read : Calendar.readWallClock (Calendar.splitStamp stamp).1 = some wall) :
    ∃ values, Page.context job content tags context = .ok values ∧
      values.get? "Date" = some wall.date.shown := by
  have shown : Calendar.displayStamp stamp (some job.source.text) = .ok wall.date.shown :=
    Calendar.displayStamp_of_readWallClock read
  unfold Page.context Page.dateValues
  simp only [member, stamped, shown]
  refine ⟨_, rfl, ?_⟩
  rw [List.append_assoc]
  apply Dictionary.get?_ofList_append_cons
  have others : "Date".toList ∉ ["Author".toList, "Content".toList, "Lang".toList,
      "MetaTags".toList, "Reload".toList] := by
    decide
  cases job.fields.get? "author" with
  | none => exact fun inside => others (List.mem_cons_of_mem _ inside)
  | some author => exact others

/-- The values of every page that is gathered can be made.  A page of a feed shows the day on the
wall clock of its stamp, which the feed has moved to universal time. -/
theorem gather_dates_pages (wellFormed : before.files.WellFormed)
    (ran : Runs (gather context) before findings after) :
    ∀ job ∈ findings.jobs, ∀ content tags, ∃ values,
      Page.context job content tags context = .ok values ∧
        (job.isFeedMember = true → ∃ stamp wall offset published,
          job.fields.get? "date" = some stamp ∧
            Calendar.parseStamp stamp (some job.source.text) = .ok published ∧
            Calendar.readWallClock (Calendar.splitStamp stamp).1 = some wall ∧
            Calendar.parseZone (Calendar.splitStamp stamp).2 (some job.source.text) =
              .ok offset ∧
            wall.shift? (-offset) = some published ∧
            values.get? "Date" = some (Calendar.monthName wall.date.month ++ " " ++
              Text.ofNat wall.date.day ++ ", " ++ Text.ofNat wall.date.year)) := by
  intro job listed content tags
  cases member : job.isFeedMember with
  | false =>
      unfold Page.context Page.dateValues
      simp only [member]
      exact ⟨_, rfl, nofun⟩
  | true =>
      obtain ⟨entry, known⟩ := exists_entry_of_gather wellFormed ran listed member
      obtain ⟨stamped, parsed⟩ := Feed.stamp_of_entry known
      obtain ⟨wall, offset, read, zoned, moved⟩ := Calendar.parseStamp_eq_ok_iff.1 parsed
      obtain ⟨values, made, shown⟩ := get?_date_of_context member stamped read
      exact ⟨values, made, fun _ => ⟨entry.publishedText, wall, offset, entry.published, stamped,
        parsed, read, zoned, moved, shown⟩⟩

end Build

namespace Build.Example

theorem gather_dates_news :
    let after := newsGathered (feedOctets newsContext newsFields [release])
    newsCopied.files.WellFormed ∧ Runs (gather newsContext) newsCopied newsFindings after ∧
      ∀ job ∈ newsFindings.jobs, ∀ content tags, ∃ values,
        Page.context job content tags newsContext = .ok values ∧
          (job.isFeedMember = true → ∃ stamp wall offset published,
            job.fields.get? "date" = some stamp ∧
              Calendar.parseStamp stamp (some job.source.text) = .ok published ∧
              Calendar.readWallClock (Calendar.splitStamp stamp).1 = some wall ∧
              Calendar.parseZone (Calendar.splitStamp stamp).2 (some job.source.text) =
                .ok offset ∧
              wall.shift? (-offset) = some published ∧
              values.get? "Date" = some (Calendar.monthName wall.date.month ++ " " ++
                Text.ofNat wall.date.day ++ ", " ++ Text.ofNat wall.date.year)) := by
  have wellFormed : newsCopied.files.WellFormed := ⟨by decide, by decide, by decide⟩
  have ran := runs_gather_news runs_writeFeed_news
  exact ⟨wellFormed, ran, gather_dates_pages wellFormed ran⟩

end Build.Example

end StaticSite
