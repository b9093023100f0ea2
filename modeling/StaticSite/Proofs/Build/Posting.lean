import Mathlib
import StaticSite.Proofs.Build.Feeding
import StaticSite.Proofs.Build.Paging
import StaticSite.Proofs.Feed
import StaticSite.Proofs.FileTree.Contents
import StaticSite.Proofs.Workspace.Mimicking

/-!
# Feeds list the pages of their directories

A feed is written before the documents of its directory become jobs, by another listing of the
directory.  Both find the same documents, and the address in the feed is that of the page.
-/

namespace StaticSite

namespace Build

open StaticSite.Action FileTree

variable {context : Context} {base : Path} {origin : Location} {before middle after : Workspace}
  {folder : List Text} {name stem : Text} {names : List Text} {isFeed : Bool} {findings : Findings}
  {limit depth : Nat}

section Jobs

/-- A job that belongs to a feed is that of a document in the directory of the feed. -/
def Belongs (job : Job) : Prop :=
  ∀ directory, job.feedDirectory = some directory →
    job.source.parent = directory ∧ job.source.name ≠ indexDocument

variable {directory path : Path}

theorem belongs_jobOf {found : Option Job} (inside : path.parent = directory)
    (ran : Runs (jobOf context directory isFeed path) before found after) :
    ∀ job ∈ found.toList, Belongs job := by
  unfold jobOf at ran
  obtain ⟨document, middle, -, ran⟩ := runs_bind.1 ran
  split at ran
  · obtain ⟨_, _, -, ended⟩ := runs_bind.1 ran
    obtain ⟨rfl, -⟩ := runs_pure.1 ended
    simp
  · obtain ⟨rfl, -⟩ := runs_pure.1 ran
    intro job member feed declared
    rw [Option.toList_some, List.mem_singleton] at member
    subst member
    simp only [Option.ite_none_right_eq_some, Option.some.injEq, Bool.and_eq_true,
      bne_iff_ne] at declared
    exact ⟨inside.trans declared.2, declared.1.2⟩

/-- All jobs of a walk belong to their feeds. -/
def WalkBelongs (context : Context) (depth : Nat) : Prop :=
  ∀ directory isFeed before findings after,
    Runs (walk context depth directory isFeed) before findings after →
      ∀ job ∈ findings.jobs, Belongs job

theorem belongs_walkEntry (walks : WalkBelongs context depth) (inside : path.parent = directory)
    (ran : Runs (walkEntry context depth directory isFeed path) before findings after) :
    ∀ job ∈ findings.jobs, Belongs job := by
  rw [walkEntry] at ran
  obtain ⟨isFile, _, -, ran⟩ := runs_bind.1 ran
  split at ran
  · obtain ⟨found, _, given, ended⟩ := runs_bind.1 ran
    obtain ⟨rfl, -⟩ := runs_pure.1 ended
    exact belongs_jobOf inside given
  · obtain ⟨isDirectory, _, -, ran⟩ := runs_bind.1 ran
    split at ran
    · obtain ⟨fields, _, -, ran⟩ := runs_bind.1 ran
      split at ran
      · obtain ⟨feed, _, -, ran⟩ := runs_bind.1 ran
        obtain ⟨found, _, walked, ended⟩ := runs_bind.1 ran
        obtain ⟨rfl, -⟩ := runs_pure.1 ended
        intro job member
        exact walks _ _ _ _ _ walked job (by simpa [Findings.append] using member)
      · exact walks _ _ _ _ _ ran
    · obtain ⟨rfl, -⟩ := runs_pure.1 ran
      simp

theorem belongs_walkEntries {paths : List Path} (walks : WalkBelongs context depth)
    (inside : ∀ path ∈ paths, path.parent = directory)
    (ran : Runs (walkEntries context depth directory isFeed paths) before findings after) :
    ∀ job ∈ findings.jobs, Belongs job := by
  induction paths generalizing before findings with
  | nil =>
      rw [walkEntries] at ran
      obtain ⟨rfl, -⟩ := runs_pure.1 ran
      simp
  | cons path paths ih =>
      rw [walkEntries] at ran
      obtain ⟨found, middle, first, ran⟩ := runs_bind.1 ran
      obtain ⟨later, last, second, ended⟩ := runs_bind.1 ran
      obtain ⟨rfl, rfl⟩ := runs_pure.1 ended
      intro job member
      rcases List.mem_append.1 member with early | late
      · exact belongs_walkEntry walks (inside path List.mem_cons_self) first job early
      · exact ih (fun other member => inside other (List.mem_cons_of_mem _ member)) second job late

theorem walkBelongs (context : Context) (depth : Nat) : WalkBelongs context depth := by
  induction depth with
  | zero =>
      intro directory isFeed before findings after ran
      rw [walk] at ran
      obtain ⟨rfl, -⟩ := runs_pure.1 ran
      simp
  | succ depth ih =>
      intro directory isFeed before findings after ran
      rw [walk] at ran
      obtain ⟨children, _, listing, ran⟩ := runs_bind.1 ran
      obtain ⟨listed, rfl⟩ := runs_inspect.1 listing
      apply belongs_walkEntries ih _ ran
      intro path member
      unfold FileTree.children at listed
      obtain ⟨location, -, listed⟩ := bind_eq_ok_iff.1 listed
      split at listed
      · obtain rfl := Except.ok.inj listed
        obtain ⟨name, -, rfl⟩ := List.mem_map.1 member
        exact Path.parent_child directory name
      · cases listed
      · cases listed

end Jobs

/-- Whether a child of a directory is a post of its feed. -/
def isPost (path : Path) : Bool := Text.endsWith ".md" path.name && path.name != indexDocument

/-- The fields and the entries that the feed of a directory is written from. -/
structure Posts (context : Context) (workspace : Workspace) (directory : Path) (fields : Fields)
    (entries : List FeedEntry) : Prop where
  declares : Runs (feedFields? directory) workspace (some fields) workspace
  lists : ∃ children, workspace.files.children directory = .ok children ∧
    Runs (postEntries context (children.filter isPost)) workspace entries workspace

/-- The octets of a feed. -/
def feedOctets (context : Context) (fields : Fields) (entries : List FeedEntry) : Bytes :=
  Utf8.encode (Feed.text fields (Feed.sort entries) context.config.baseURL
    context.config.languageCode)

section Posts

theorem source_of_postEntries {paths : List Path} {entries : List FeedEntry}
    (ran : Runs (postEntries context paths) before entries after) :
    (entries.map FeedEntry.source).Sublist paths := by
  induction paths generalizing before entries with
  | nil =>
      obtain ⟨rfl, -⟩ := runs_pure.1 ran
      exact List.Sublist.refl _
  | cons path paths ih =>
      rw [postEntries] at ran
      obtain ⟨document, _, -, ran⟩ := runs_bind.1 ran
      split at ran
      · exact (ih ran).cons path
      · obtain ⟨entry, _, known, ran⟩ := runs_bind.1 ran
        obtain ⟨rest, _, found, ended⟩ := runs_bind.1 ran
        obtain ⟨rfl, rfl⟩ := runs_pure.1 ended
        obtain ⟨source, -⟩ := Feed.entry_eq_ok (runs_ofExcept.1 known).1
        rw [List.map_cons, source]
        exact (ih found).cons_cons path

/-- Every document that is not skipped has its entry. -/
theorem exists_entry_of_postEntries {paths : List Path} {entries : List FeedEntry} {path : Path}
    (ran : Runs (postEntries context paths) before entries after) (member : path ∈ paths) :
    ∃ document, Runs (readDocument path) before document before ∧
      (isSkipped context document.header.fields = false → ∃ entry ∈ entries,
        Feed.entry path document.header.fields context.config.baseURL context.outputDirectory =
          .ok entry) := by
  induction paths generalizing entries with
  | nil => cases member
  | cons first paths ih =>
      rw [postEntries] at ran
      obtain ⟨document, middle, read, going⟩ := runs_bind.1 ran
      obtain rfl := onlyReads_readDocument first _ _ _ read
      split at going
      · next skipped =>
          rcases List.mem_cons.1 member with rfl | later
          · exact ⟨document, read, fun kept => by simp [skipped] at kept⟩
          · exact ih going later
      · obtain ⟨entry, _, asked, going⟩ := runs_bind.1 going
        obtain ⟨known, rfl⟩ := runs_ofExcept.1 asked
        obtain ⟨rest, last, found, ended⟩ := runs_bind.1 going
        obtain ⟨rfl, rfl⟩ := runs_pure.1 ended
        rcases List.mem_cons.1 member with rfl | later
        · exact ⟨document, read, fun _ => ⟨entry, List.mem_cons_self, known⟩⟩
        · obtain ⟨other, reads, listed⟩ := ih found later
          refine ⟨other, reads, fun kept => ?_⟩
          obtain ⟨more, inside, made⟩ := listed kept
          exact ⟨more, List.mem_cons_of_mem _ inside, made⟩

end Posts

section Moved

variable (same : SameDirectories before.files middle.files)
  (beforeFormed : before.files.WellFormed) (middleFormed : middle.files.WellFormed)
  (opens : before.files.Opens (base.extend folder) (origin ++ folder))
  (kept : ∀ name, middle.files.node? (origin ++ (folder ++ [name])) =
    before.files.node? (origin ++ (folder ++ [name])))

include same opens kept

theorem mimics_readDocument_of_kept (isName : IsName name) :
    Mimics (Paired middle before) (readDocument (base.extend (folder ++ [name])))
      (readDocument (base.extend (folder ++ [name]))) := by
  have held : before.files.content? (origin ++ folder ++ [name]) =
      middle.files.content? (origin ++ folder ++ [name]) :=
    content?_congr (by rw [List.append_assoc, kept])
  have read : Mimics (Paired middle before)
      (inspect (·.read (base.extend (folder ++ [name]))))
      (inspect (·.read (base.extend (folder ++ [name])))) := by
    apply mimics_inspect
    rintro _ _ content ⟨rfl, rfl⟩ asked
    rw [← Path.child_extend] at asked ⊢
    exact same.symm.read_child (same.opens opens) isName held asked
  have marked : Mimics (Paired middle before)
      (readMarkedText (base.extend (folder ++ [name])))
      (readMarkedText (base.extend (folder ++ [name]))) := by
    unfold readMarkedText
    refine read.bind fun content _ => ?_
    split
    · exact mimics_pure _
    · exact mimics_throw _ _
  unfold readDocument
  exact marked.bind fun text _ => mimics_ofExcept _

theorem mimics_postEntries_of_kept (areNames : ∀ name ∈ names, IsName name) :
    Mimics (Paired middle before)
      (postEntries context (names.map fun name => base.extend (folder ++ [name])))
      (postEntries context (names.map fun name => base.extend (folder ++ [name]))) := by
  induction names with
  | nil => exact mimics_pure []
  | cons name names ih =>
      have later := ih fun other member => areNames other (List.mem_cons_of_mem _ member)
      rw [List.map_cons, postEntries]
      refine (mimics_readDocument_of_kept same opens kept
        (areNames name List.mem_cons_self)).bind fun document _ => ?_
      split
      · exact later
      · exact (mimics_ofExcept _).bind fun entry _ => later.bind fun _ _ => mimics_pure _

theorem mimics_feedFields?_of_kept :
    Mimics (Paired middle before) (feedFields? (base.extend folder))
      (feedFields? (base.extend folder)) := by
  have isName : IsName indexDocument := by decide
  have held : before.files.content? (origin ++ folder ++ [indexDocument]) =
      middle.files.content? (origin ++ folder ++ [indexDocument]) :=
    content?_congr (by rw [List.append_assoc, kept])
  unfold feedFields?
  simp only [Path.child_extend]
  refine (mimics_asked ?_).bind fun answer _ => ?_
  · rw [← Path.child_extend]
    exact same.symm.isFile_child (same.opens opens) isName held
  · split
    · exact (mimics_readDocument_of_kept same opens kept isName).bind fun document _ =>
        mimics_pure _
    · exact mimics_pure none

include beforeFormed middleFormed in
/-- The posts of a folder that is left alone are the same before. -/
theorem Posts.of_kept {fields : Fields} {entries : List FeedEntry}
    (posts : Posts context middle (base.extend folder) fields entries) :
    Posts context before (base.extend folder) fields entries := by
  obtain ⟨declares, children, listed, lists⟩ := posts
  have names : middle.files.names (origin ++ folder) = before.files.names (origin ++ folder) :=
    names_eq beforeFormed middleFormed fun name => by rw [List.append_assoc, kept]
  rw [(same.opens opens).children_eq, names, Except.ok.injEq, Path.child_extend_eq] at listed
  subst listed
  have filtered : ((before.files.names (origin ++ folder)).map
      fun name => base.extend (folder ++ [name])).filter isPost =
      ((before.files.names (origin ++ folder)).filter fun name =>
        isPost (base.extend (folder ++ [name]))).map fun name => base.extend (folder ++ [name]) := by
    rw [List.filter_map]
    rfl
  have areNames := beforeFormed.areNames (origin ++ folder)
  have listing := opens.children_eq
  rw [Path.child_extend_eq] at listing
  rw [filtered] at lists
  obtain ⟨_, again, -, rfl⟩ := mimics_feedFields?_of_kept same opens kept middle before _ _
    ⟨rfl, rfl⟩ declares
  obtain ⟨_, found, -, rfl⟩ := mimics_postEntries_of_kept same opens kept
    (fun name member => areNames name (List.mem_of_mem_filter member)) middle _ _ _
    ⟨rfl, rfl⟩ lists
  exact ⟨again, _, listing, filtered ▸ found⟩

end Moved

/-- A walk has written the feed of a folder from the posts that the folder had before. -/
def FeedListed (context : Context) (base : Path) (origin : Location) (before after : Workspace)
    (folder : List Text) : Prop :=
  ∃ fields entries modified,
    before.files.Opens (base.extend folder) (origin ++ folder) ∧
      Posts context before (base.extend folder) fields entries ∧
      after.files.require (base.extend (folder ++ [Feed.fileName])) =
        .ok (origin ++ (folder ++ [Feed.fileName])) ∧
      after.files.node? (origin ++ (folder ++ [Feed.fileName])) =
        some (.file (feedOctets context fields entries) modified)

/-- All feeds of a walk are listed, each in one of the visited folders. -/
def FeedsListed (context : Context) (base : Path) (origin : Location)
    (visited : List Text → Prop) (before after : Workspace) (feeds : List Path) : Prop :=
  ∀ feed ∈ feeds, ∃ folder, visited folder ∧ feed = base.extend (folder ++ [Feed.fileName]) ∧
    FeedListed context base origin before after folder

variable {visited others : List Text → Prop} {feeds later : List Path}

theorem feedsListed_nil : FeedsListed context base origin visited before after [] :=
  fun _ member => absurd member List.not_mem_nil

theorem FeedsListed.mono (listed : FeedsListed context base origin visited before after feeds)
    (more : ∀ folder, visited folder → others folder) :
    FeedsListed context base origin others before after feeds := by
  intro feed member
  obtain ⟨folder, inside, path, found⟩ := listed feed member
  exact ⟨folder, more folder inside, path, found⟩

/-- The feeds of two walks, where the first one leaves the folders of the second alone and the
second one leaves the feeds of the first alone. -/
theorem FeedsListed.append (one : FeedsListed context base origin visited before middle feeds)
    (two : FeedsListed context base origin others middle after later)
    (beforeFormed : before.files.WellFormed) (middleFormed : middle.files.WellFormed)
    (same : SameDirectories before.files middle.files)
    (still : SameDirectories middle.files after.files)
    (untouched : ∀ folder, others folder → ∀ name,
      middle.files.node? (origin ++ (folder ++ [name])) =
        before.files.node? (origin ++ (folder ++ [name])))
    (stays : ∀ folder, visited folder →
      after.files.node? (origin ++ (folder ++ [Feed.fileName])) =
        middle.files.node? (origin ++ (folder ++ [Feed.fileName]))) :
    FeedsListed context base origin (fun folder => visited folder ∨ others folder) before after
      (feeds ++ later) := by
  intro feed member
  rcases List.mem_append.1 member with early | late
  · obtain ⟨folder, inside, path, fields, entries, modified, opens, posts, led, there⟩ :=
      one feed early
    exact ⟨folder, Or.inl inside, path, fields, entries, modified, opens, posts,
      still.require led, (stays folder inside).trans there⟩
  · obtain ⟨folder, inside, path, fields, entries, modified, opens, posts, led, there⟩ :=
      two feed late
    have earlier := same.symm.opens opens
    exact ⟨folder, Or.inr inside, path, fields, entries, modified, earlier,
      posts.of_kept same beforeFormed middleFormed earlier (untouched folder inside), led, there⟩

/-- A walk of a directory lists the posts of the feeds at or below it. -/
def ListsWithin (context : Context) (base : Path) (origin : Location) (limit depth : Nat) : Prop :=
  ∀ folder isFeed before findings after, before.files.WellFormed →
    before.files.node? origin = some .directory →
    before.files.Opens (base.extend folder) (origin ++ folder) →
    before.files.NestedWithin limit → limit < (origin ++ folder).length + depth →
    Runs (walk context depth (base.extend folder) isFeed) before findings after →
    FeedsListed context base origin (Beneath folder) before after findings.feeds

/-- A feed that is written lists the posts of its folder. -/
theorem feedListed_writeFeed {fields : Fields} {feed : Path}
    (opens : before.files.Opens (base.extend folder) (origin ++ folder))
    (declares : Runs (feedFields? (base.extend folder)) before (some fields) before)
    (ran : Runs (writeFeed (base.extend folder) fields context) before feed after) :
    feed = base.extend (folder ++ [Feed.fileName]) ∧
      FeedListed context base origin before after folder := by
  have path := output_of_writeFeed ran
  rw [Path.child_extend] at path
  unfold writeFeed at ran
  simp only [runs_bind, runs_inspect] at ran
  obtain ⟨children, _, ⟨listed, rfl⟩, entries, middle, found, _, written, wrote, _, last,
    printed, ended⟩ := ran
  obtain ⟨-, rfl⟩ := runs_pure.1 ended
  have same := onlyReads_postEntries context _ _ _ _ found
  subst same
  have within : origin ++ folder ++ [Feed.fileName] ≠ [] := by simp
  obtain ⟨required, free, rfl⟩ := runs_writeText_child opens (by decide) wrote
  have files := runs_print printed
  have directories : SameDirectories middle.files last.files := by
    rw [files]
    exact SameDirectories.set_file within free _ _
  have led := directories.require required
  rw [Path.child_extend, List.append_assoc] at led
  refine ⟨path, fields, entries, middle.clock, opens, ⟨declares, children, listed, found⟩, led, ?_⟩
  rw [files, Workspace.edited_files, FileTree.apply, node?_set within, List.append_assoc,
    if_pos rfl]
  rfl

theorem feedsListed_directory (lists : ListsWithin context base origin limit depth)
    (wellFormed : before.files.WellFormed) (root : before.files.node? origin = some .directory)
    (opens : before.files.Opens (base.extend folder) (origin ++ folder))
    (nested : before.files.NestedWithin limit) (deep : limit < (origin ++ folder).length + depth)
    (ran : Runs (do
      match ← feedFields? (base.extend folder) with
      | some fields =>
        let feed ← writeFeed (base.extend folder) fields context
        return (Findings.mk [] [feed]).append (← walk context depth (base.extend folder) true)
      | none => walk context depth (base.extend folder) false) before findings after) :
    FeedsListed context base origin (folder <+: ·) before after findings.feeds := by
  simp only [runs_bind] at ran
  obtain ⟨fields, middle, found, ran⟩ := ran
  obtain ⟨rfl, declared⟩ := runs_feedFields? opens found
  split at ran
  · next known =>
      simp only [runs_bind] at ran
      obtain ⟨feed, middle, written, deeper, last, walked, ended⟩ := ran
      obtain ⟨rfl, rfl⟩ := runs_pure.1 ended
      have first := walked_writeFeed wellFormed root opens (declared.1 rfl) written
      have second := walksWithin context base origin limit depth folder true middle deeper last
        first.wellFormed ((first.same.directory_iff origin).2 root) (first.same.opens opens)
        (first.same.nestedWithin nested) deep walked
      have below := lists folder true middle deeper last first.wellFormed
        ((first.same.directory_iff origin).2 root) (first.same.opens opens)
        (first.same.nestedWithin nested) deep walked
      obtain ⟨path, own⟩ := feedListed_writeFeed opens found written
      have here : FeedsListed context base origin (· = folder) before middle [feed] := by
        intro other member
        rw [List.mem_singleton.1 member]
        exact ⟨folder, rfl, path, own⟩
      have both := here.append below wellFormed first.wellFormed first.same second.same ?_ ?_
      · exact both.mono fun inner => eq_or_beneath_iff.1
      · intro inner beneath name
        apply first.kept _ fun visited => visited.1.elim
        rintro other same rfl
        rw [← (List.append_singleton_inj.1 same).1, beneath_iff] at beneath
        exact absurd rfl beneath.2
      · rintro inner rfl
        apply second.kept _ fun visited => not_skipsAt_feed visited.2
        intro other same beneath
        rw [← (List.append_singleton_inj.1 same).1, beneath_iff] at beneath
        exact absurd rfl beneath.2
  · have walked := lists folder false _ _ _ wellFormed root opens nested deep ran
    exact walked.mono fun inner beneath => (beneath_iff.1 beneath).1

theorem feedsListed_walkEntry (lists : ListsWithin context base origin limit depth)
    (wellFormed : before.files.WellFormed) (root : before.files.node? origin = some .directory)
    (opens : before.files.Opens (base.extend folder) (origin ++ folder)) (isName : IsName name)
    (nested : before.files.NestedWithin limit)
    (deep : limit < (origin ++ folder).length + (depth + 1))
    (ran : Runs (walkEntry context depth (base.extend folder) isFeed
      (base.extend (folder ++ [name]))) before findings after) :
    FeedsListed context base origin (folder ++ [name] <+: ·) before after findings.feeds := by
  rw [walkEntry] at ran
  obtain ⟨answer, _, asking, ran⟩ := runs_bind.1 ran
  obtain ⟨-, rfl⟩ := runs_inspect.1 asking
  split at ran
  · obtain ⟨job, middle, found, ended⟩ := runs_bind.1 ran
    obtain ⟨rfl, rfl⟩ := runs_pure.1 ended
    exact feedsListed_nil
  · obtain ⟨inner, _, asking, ran⟩ := runs_bind.1 ran
    obtain ⟨inside, rfl⟩ := runs_inspect.1 asking
    rw [← Path.child_extend] at inside
    obtain ⟨required, isDirectory⟩ := opens.isDirectory_child isName inside
    rw [Path.child_extend, List.append_assoc] at required
    rw [List.append_assoc] at isDirectory
    split at ran
    · next directory =>
        apply feedsListed_directory lists wellFormed root ⟨required, isDirectory.1 directory⟩
          nested _ ran
        simp only [List.length_append, List.length_singleton] at deep ⊢
        omega
    · obtain ⟨rfl, rfl⟩ := runs_pure.1 ran
      exact feedsListed_nil

theorem feedsListed_walkEntries (lists : ListsWithin context base origin limit depth)
    (wellFormed : before.files.WellFormed) (root : before.files.node? origin = some .directory)
    (opens : before.files.Opens (base.extend folder) (origin ++ folder))
    (areNames : ∀ name ∈ names, IsName name) (distinct : names.Nodup)
    (sorted : names.Pairwise fun first second => Text.lessEqual first second = true)
    (nested : before.files.NestedWithin limit)
    (deep : limit < (origin ++ folder).length + (depth + 1))
    (ran : Runs (walkEntries context depth (base.extend folder) isFeed
      (names.map (base.extend folder).child)) before findings after) :
    FeedsListed context base origin (Among folder names) before after findings.feeds := by
  induction names generalizing before findings with
  | nil =>
      rw [List.map_nil, walkEntries] at ran
      obtain ⟨rfl, rfl⟩ := runs_pure.1 ran
      exact feedsListed_nil
  | cons name names ih =>
      rw [List.map_cons, walkEntries, Path.child_extend] at ran
      simp only [runs_bind] at ran
      obtain ⟨found, middle, begun, more, last, finished, ended⟩ := ran
      obtain ⟨rfl, rfl⟩ := runs_pure.1 ended
      rw [List.nodup_cons] at distinct
      have later := sorted.of_cons
      have isName := areNames name List.mem_cons_self
      have areOthers : ∀ other ∈ names, IsName other :=
        fun other member => areNames other (List.mem_cons_of_mem _ member)
      have walks := walksWithin context base origin limit depth
      have first := walked_walkEntry walks wellFormed root opens isName nested deep begun
      have directory := (first.same.directory_iff origin).2 root
      have opened := first.same.opens opens
      have bounded := first.same.nestedWithin nested
      have second := walked_walkEntries walks first.wellFormed directory opened areOthers distinct.2
        later bounded deep finished
      have one := feedsListed_walkEntry lists wellFormed root opens isName nested deep begun
      have two := ih first.wellFormed directory opened areOthers distinct.2 later bounded finished
      have both := one.append two wellFormed first.wellFormed first.same second.same ?_ ?_
      · exact both.mono fun inner => among_cons_iff.2
      · intro inner among last
        have deeper : Among folder names (inner ++ [last]) := by
          obtain ⟨other, member, also⟩ := among
          exact ⟨other, member, also.trans (List.prefix_append _ _)⟩
        apply first.kept _ fun visited => not_among_of_isPrefix distinct.1 visited.1 deeper
        intro other same inside
        rw [← (List.append_singleton_inj.1 same).1] at inside
        exact absurd among (not_among_of_isPrefix distinct.1 inside)
      · intro inner inside
        apply second.kept _ fun visited => not_skipsAt_feed visited.2
        intro other same among
        rw [← (List.append_singleton_inj.1 same).1] at among
        exact absurd among (not_among_of_isPrefix distinct.1 inside)

theorem listsWithin (context : Context) (base : Path) (origin : Location) (limit depth : Nat) :
    ListsWithin context base origin limit depth := by
  induction depth with
  | zero =>
      intro folder isFeed before findings after wellFormed root opens nested deep ran
      have short := nested _ opens.2
      omega
  | succ depth ih =>
      intro folder isFeed before findings after wellFormed root opens nested deep ran
      rw [walk] at ran
      obtain ⟨children, _, listing, ran⟩ := runs_bind.1 ran
      obtain ⟨listed, rfl⟩ := runs_inspect.1 listing
      rw [opens.children_eq, Except.ok.injEq] at listed
      subst listed
      have found := feedsListed_walkEntries ih wellFormed root opens
        (wellFormed.areNames (origin ++ folder)) (wellFormed.nodup_names _)
        (Text.pairwise_sort _) nested deep ran
      apply found.mono
      rintro inner ⟨name, -, inside⟩
      exact ⟨name, inside⟩

theorem feedsListed_gather (wellFormed : before.files.WellFormed)
    (opens : before.files.Opens context.outputDirectory origin)
    (ran : Runs (gather context) before findings after) :
    FeedsListed context context.outputDirectory origin (Beneath []) before after
      findings.feeds := by
  unfold gather at ran
  obtain ⟨_, _, asking, ran⟩ := runs_bind.1 ran
  obtain ⟨rfl, rfl⟩ := runs_get.1 asking
  have whole := listsWithin context context.outputDirectory origin before.files.depth
    (before.files.depth + 1) [] false before findings after wellFormed opens.2
  rw [Path.extend_nil, List.append_nil] at whole
  exact whole opens (nestedWithin_depth _) (by omega) ran

theorem belongs_gather (ran : Runs (gather context) before findings after) :
    ∀ job ∈ findings.jobs, Belongs job := by
  unfold gather at ran
  obtain ⟨_, _, -, ran⟩ := runs_bind.1 ran
  exact walkBelongs context _ _ _ _ _ _ ran

theorem opens_of_gather (ran : Runs (gather context) before findings after) :
    ∃ origin, before.files.Opens context.outputDirectory origin := by
  unfold gather at ran
  obtain ⟨_, _, asking, ran⟩ := runs_bind.1 ran
  obtain ⟨rfl, rfl⟩ := runs_get.1 asking
  rw [walk] at ran
  obtain ⟨children, _, listing, -⟩ := runs_bind.1 ran
  exact opens_of_children (runs_inspect.1 listing).1

/-- The address of a post is that of its page, unless the post is the index document. -/
theorem canonicalURL_of_postLink {address link : Text} (isName : IsName (documentName stem))
    (named : stem ≠ []) (other : documentName stem ≠ indexDocument)
    (linked : Feed.postLink (base.extend (folder ++ [documentName stem])) address base =
      .ok link) :
    Page.canonicalURL address (base.extend (folder ++ [pageName stem])) base = .ok link := by
  have notIndex : stem ≠ "index".toList := by
    rintro rfl
    exact other rfl
  have split : Path.splitName (documentName stem) = (stem, '.' :: ['m', 'd']) :=
    Path.splitName_of_dot named (by simp) (by decide)
  have shortened : Path.withSuffix ⟨.here, folder ++ [documentName stem]⟩ [] =
      ⟨.here, folder ++ [stem]⟩ := by
    have child : (⟨.here, folder ++ [documentName stem]⟩ : Path) =
        Path.child ⟨.here, folder⟩ (documentName stem) := rfl
    rw [child, Path.withSuffix_child, split, List.append_nil]
    rfl
  have written : Path.text ⟨.here, folder ++ [stem]⟩ = Page.addressText folder stem :=
    Path.text_of_parts (by simp)
  have posted : Feed.postLink (base.extend (folder ++ [documentName stem])) address base =
      .ok (address ++ Page.addressText folder stem) := by
    rw [← written, ← shortened, Feed.postLink, Page.relative_extend]
    simp [bind, Except.bind, pure, Except.pure]
  have paged : Page.canonicalPath (base.extend (folder ++ [pageName stem])) base =
      .ok (Page.addressText folder stem) := by
    have found := @Page.canonicalPath_extend folder stem base (isName_pageName isName)
    rwa [if_neg notIndex] at found
  rw [Page.canonicalURL, paged, ← linked, posted]
  rfl

/-- The entries that a feed lists, in the order of the feed, and the jobs that belong to it. -/
structure Lists (context : Context) (jobs : List Job) (directory : Path)
    (listed : List FeedEntry) : Prop where
  alone : ∀ job ∈ jobs, job.feedDirectory = some directory →
    ∃ entry, listed.filter (·.source = job.source) = [entry] ∧
      Feed.entry job.source job.fields context.config.baseURL context.outputDirectory =
        .ok entry ∧
      Page.canonicalURL context.config.baseURL job.output context.outputDirectory =
        .ok entry.link ∧
      ∀ html document url, Page.render job html context = .ok (document, url) →
        url = if job.fields.isNoIndex then [] else entry.link
  newestFirst : listed.Pairwise fun first second =>
    second.published.toSeconds ≤ first.published.toSeconds ∧
      (second.published.toSeconds = first.published.toSeconds →
        Text.lessEqual first.source.name second.source.name = true)

theorem require_of_readDocument {path : Path} {document : FrontMatter.Document}
    (ran : Runs (readDocument path) before document after) :
    ∃ location, before.files.require path = .ok location := by
  unfold readDocument readMarkedText at ran
  simp only [runs_bind, runs_inspect] at ran
  obtain ⟨_, _, ⟨content, _, ⟨read, -⟩, -⟩, -⟩ := ran
  obtain ⟨location, led, -⟩ := read_eq_ok_iff.1 read
  exact ⟨location, led⟩

section Listed

variable {fields : Fields} {entries : List FeedEntry}
  (wellFormed : before.files.WellFormed)
  (opens : before.files.Opens (base.extend folder) (origin ++ folder))
  (posts : Posts context before (base.extend folder) fields entries)

include opens posts

/-- The sources of the entries are children of the folder, in order. -/
theorem Posts.sources_sublist :
    (entries.map FeedEntry.source).Sublist
      ((before.files.names (origin ++ folder)).map (base.extend folder).child) := by
  obtain ⟨-, children, listed, lists⟩ := posts
  rw [opens.children_eq, Except.ok.injEq] at listed
  subst listed
  exact (source_of_postEntries lists).trans List.filter_sublist

include wellFormed in
theorem Posts.nodup_sources : (entries.map FeedEntry.source).Nodup := by
  apply (posts.sources_sublist opens).nodup
  rw [List.Nodup, List.pairwise_map]
  apply (wellFormed.nodup_names _).imp
  intro first second other same
  apply other
  rw [← Path.name_child (base.extend folder) first, same, Path.name_child]

theorem Posts.pairwise_name : entries.Pairwise fun first second =>
    Text.lessEqual first.source.name second.source.name = true := by
  have sorted : ((before.files.names (origin ++ folder)).map (base.extend folder).child).Pairwise
      fun first second => Text.lessEqual first.name second.name = true := by
    rw [List.pairwise_map]
    simp only [Path.name_child]
    exact Text.pairwise_sort _
  exact List.pairwise_map.1 (sorted.sublist (posts.sources_sublist opens))

include wellFormed in
/-- The entry of a job in the folder of the feed. -/
theorem Posts.exists_entry {job : Job}
    (isJob : JobOf context.buildDrafts base origin before.files folder stem job)
    (other : documentName stem ≠ indexDocument) :
    ∃ entry ∈ entries, Feed.entry job.source job.fields context.config.baseURL
      context.outputDirectory = .ok entry := by
  obtain ⟨-, children, listed, lists⟩ := posts
  rw [opens.children_eq, Except.ok.injEq] at listed
  subst listed
  obtain ⟨content, modified, there, fields, published⟩ := isJob.document
  have isName := isJob.isName wellFormed
  rw [← List.append_assoc] at there
  have isPost : isPost ((base.extend folder).child (documentName stem)) = true := by
    rw [isPost, Path.name_child, Bool.and_eq_true, bne_iff_ne]
    exact ⟨Page.endsWith_append stem ".md", other⟩
  have member : job.source ∈ ((before.files.names (origin ++ folder)).map
      (base.extend folder).child).filter Build.isPost := by
    rw [isJob.source, ← Path.child_extend]
    refine List.mem_filter.2 ⟨List.mem_map_of_mem (wellFormed.mem_names.2 ?_), isPost⟩
    rw [there]
    simp
  obtain ⟨document, read, found⟩ := exists_entry_of_postEntries lists member
  have source : job.source = (base.extend folder).child (documentName stem) := by
    rw [isJob.source, Path.child_extend]
  have required : before.files.require job.source =
      .ok (origin ++ folder ++ [documentName stem]) := by
    obtain ⟨location, led⟩ := require_of_readDocument read
    rw [source] at led ⊢
    rw [led, opens.eq_of_require_child isName led]
  obtain ⟨-, octets, time, held, known⟩ := runs_readDocument required read
  rw [there] at held
  cases held
  rw [fields] at known
  have same : job.fields = document.header.fields := Option.some.inj known
  rw [same] at fields ⊢
  apply found
  rw [← Bool.not_eq_true]
  intro skipped
  exact published ((isSkippedDraft_iff (isDocument_documentName isJob.named) fields).2 skipped)

end Listed

/-- Every feed that is found lists the jobs of its directory, each of them once and with the
address of its page, the newest first and posts of one moment in the order of their names. -/
theorem gather_lists_posts (wellFormed : before.files.WellFormed)
    (ran : Runs (gather context) before findings after) :
    ∀ feed ∈ findings.feeds, ∃ directory fields entries,
      feed = directory.child Feed.fileName ∧ Posts context before directory fields entries ∧
        after.files.read feed = .ok (feedOctets context fields entries) ∧
        Lists context findings.jobs directory (Feed.sort entries) := by
  obtain ⟨origin, opens⟩ := opens_of_gather ran
  have walked := walked_gather wellFormed opens ran
  intro feed member
  obtain ⟨folder, -, rfl, fields, entries, modified, opened, posts, led, there⟩ :=
    feedsListed_gather wellFormed opens ran feed member
  refine ⟨_, fields, entries, (Path.child_extend _ _ _).symm, posts, read_of_file led there, ?_,
    Feed.pairwise_sort (posts.pairwise_name opened)⟩
  intro job found belongs
  obtain ⟨inner, stem, -, isJob⟩ := walked.sound job found
  obtain ⟨above, other⟩ := belongs_gather ran job found _ belongs
  rw [isJob.source, ← Path.child_extend, Path.parent_child] at above
  obtain rfl := Path.extend_injective above
  rw [isJob.source, Path.name_extend] at other
  obtain ⟨entry, inside, known⟩ := posts.exists_entry wellFormed opened isJob other
  obtain ⟨source, linked⟩ := Feed.entry_eq_ok known
  rw [isJob.source] at linked
  have addressed : Page.canonicalURL context.config.baseURL job.output context.outputDirectory =
      .ok entry.link := by
    rw [isJob.output]
    exact canonicalURL_of_postLink (isJob.isName wellFormed) isJob.named other linked
  refine ⟨entry, ?_, known, addressed, ?_⟩
  · rw [← source]
    exact Feed.filter_source_sort (posts.nodup_sources wellFormed opened) inside
  · intro html document url rendered
    obtain ⟨canonical, also, rfl⟩ := url_eq_of_render rendered
    rw [also, Except.ok.injEq] at addressed
    rw [addressed]

end Build

namespace Build.Example

open StaticSite.Action FileTree

def newsDocument : Text := "---\ntype: feed\n---\n"

def releaseDocument : Text := "---\ndate: Mon, 01 Jan 2024 00:00:00 UTC\n---\n"

def news : Path := ⟨.here, ["public".toList, "news".toList]⟩

/-- An output with a feed and a post whose name has two dots. -/
def newsCopied : Workspace where
  files := ⟨[], [
    (["public".toList], .directory),
    (["public".toList, "news".toList], .directory),
    (["public".toList, "news".toList, indexDocument], .file (Utf8.encode newsDocument) 0),
    (["public".toList, "news".toList, "v1.2.md".toList],
      .file (Utf8.encode releaseDocument) 0)]⟩

def newsContext : Context where
  root := {}
  config := ⟨"/", "en-us", []⟩
  templates := ∅
  components := ∅

def newsFields : Fields := Dictionary.ofList [("type".toList, "feed".toList)]

def releaseFields : Fields :=
  Dictionary.ofList [("date".toList, "Mon, 01 Jan 2024 00:00:00 UTC".toList)]

def release : FeedEntry where
  title := []
  link := "/news/v1.2"
  source := news.child "v1.2.md"
  publishedText := "Mon, 01 Jan 2024 00:00:00 UTC"
  published := ⟨⟨2024, 1, 1⟩, 0, 0, 0⟩
  description := "/news/v1.2"

/-- The output with a feed of some content. -/
def newsGathered (feed : Bytes) : Workspace :=
  (newsCopied.edited (.write ["public".toList, "news".toList, Feed.fileName] feed 0)).saying
    "Generated RSS feed at: public/news/index.xml"

def newsFindings : Findings where
  jobs := [
    { source := news.child indexDocument
      output := news.child "index.html"
      fields := newsFields
      body := [] },
    { source := news.child "v1.2.md"
      output := news.child "v1.2.html"
      fields := releaseFields
      body := []
      isFeedMember := true
      feedDirectory := some news }]
  feeds := [news.child Feed.fileName]

theorem runs_writeFeed_news :
    Runs (writeFeed news newsFields newsContext) newsCopied (news.child Feed.fileName)
      (newsGathered (feedOctets newsContext newsFields [release])) := by
  have opens : newsCopied.files.Opens news ["public".toList, "news".toList] := ⟨by cbv, by cbv⟩
  have listed : newsCopied.files.children news =
      .ok [news.child indexDocument, news.child "v1.2.md"] := by cbv
  rw [writeFeed, runs_bind]
  refine ⟨_, newsCopied, runs_inspect.2 ⟨listed, rfl⟩, ?_⟩
  rw [runs_bind]
  refine ⟨[release], newsCopied, by cbv, ?_⟩
  rw [runs_bind]
  refine ⟨(), _, runs_writeText_of_require opens (by cbv) (by decide), ?_⟩
  rw [runs_bind]
  exact ⟨(), _, runs_print_iff.2 rfl, rfl⟩

variable (feed : Bytes)

theorem runs_walkEntries_news :
    Runs (walkEntries newsContext 2 news true [news.child indexDocument, news.child Feed.fileName,
      news.child "v1.2.md"]) (newsGathered feed) ⟨newsFindings.jobs, []⟩ (newsGathered feed) := by
  have first : Runs (walkEntry newsContext 2 news true (news.child indexDocument))
      (newsGathered feed) ⟨newsFindings.jobs.take 1, []⟩ (newsGathered feed) := by
    cbv
  have second : Runs (walkEntry newsContext 2 news true (news.child Feed.fileName))
      (newsGathered feed) {} (newsGathered feed) := by
    cbv
  have third : Runs (walkEntry newsContext 2 news true (news.child "v1.2.md"))
      (newsGathered feed) ⟨newsFindings.jobs.drop 1, []⟩ (newsGathered feed) := by
    cbv
  simp only [walkEntries, runs_bind]
  exact ⟨_, _, first, _, _, ⟨_, _, second, _, _, ⟨_, _, third, _, _, rfl, rfl⟩, rfl⟩, rfl⟩

theorem runs_gather_news {feed : Bytes}
    (written : Runs (writeFeed news newsFields newsContext) newsCopied (news.child Feed.fileName)
      (newsGathered feed)) :
    Runs (gather newsContext) newsCopied newsFindings (newsGathered feed) := by
  have listed : newsCopied.files.children newsContext.outputDirectory = .ok [news] := by cbv
  have inner : (newsGathered feed).files.children news = .ok [news.child indexDocument,
      news.child Feed.fileName, news.child "v1.2.md"] := by
    cbv
  have declared : Runs (feedFields? news) newsCopied (some newsFields) newsCopied := by cbv
  have depth : newsCopied.files.depth = 3 := by decide
  rw [gather, runs_bind]
  refine ⟨newsCopied, newsCopied, rfl, ?_⟩
  rw [depth, walk, runs_bind]
  refine ⟨_, newsCopied, runs_inspect.2 ⟨listed, rfl⟩, ?_⟩
  simp only [walkEntries, runs_bind]
  refine ⟨newsFindings, newsGathered feed, ?_, {}, _, rfl, rfl⟩
  rw [walkEntry, runs_bind]
  refine ⟨false, newsCopied, by cbv, ?_⟩
  rw [if_neg (by decide), runs_bind]
  refine ⟨true, newsCopied, by cbv, ?_⟩
  rw [if_pos rfl, runs_bind]
  refine ⟨some newsFields, newsCopied, declared, ?_⟩
  simp only [runs_bind]
  refine ⟨news.child Feed.fileName, newsGathered feed, written, ⟨newsFindings.jobs, []⟩,
    newsGathered feed, ?_, rfl⟩
  rw [walk, runs_bind]
  exact ⟨_, _, runs_inspect.2 ⟨inner, rfl⟩, runs_walkEntries_news feed⟩

theorem gather_lists_posts_news :
    let after := newsGathered (feedOctets newsContext newsFields [release])
    newsCopied.files.WellFormed ∧ Runs (gather newsContext) newsCopied newsFindings after ∧
      ∀ feed ∈ newsFindings.feeds, ∃ directory fields entries,
        feed = directory.child Feed.fileName ∧
          Posts newsContext newsCopied directory fields entries ∧
          after.files.read feed = .ok (feedOctets newsContext fields entries) ∧
          Lists newsContext newsFindings.jobs directory (Feed.sort entries) := by
  have wellFormed : newsCopied.files.WellFormed := ⟨by decide, by decide, by decide⟩
  have ran := runs_gather_news runs_writeFeed_news
  exact ⟨wellFormed, ran, gather_lists_posts wellFormed ran⟩

end Build.Example

end StaticSite
