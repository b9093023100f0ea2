import StaticSite.Proofs.Build.Walking
import StaticSite.Proofs.Text.Sorting

/-!
# Gathering is a walk

Each entry of a directory is walked by itself, and a directory is what its entries come to.
A walk goes deep enough, because the directories are nested no deeper than the tree tells.
-/

namespace StaticSite

namespace Build

open StaticSite.Action FileTree

variable {context : Context} {base : Path} {origin : Location} {before after : Workspace}
  {tree : FileTree} {folder parts : List Text} {name : Text} {isFeed : Bool}

/-- Nothing lies below what is no directory. -/
theorem eq_of_above (wellFormed : tree.WellFormed) {above : List Text}
    (closed : tree.node? (origin ++ above) ≠ some .directory) (inside : above <+: parts)
    (found : tree.node? (origin ++ parts) ≠ none) : parts = above := by
  obtain ⟨rest, rfl⟩ := inside
  by_contra longer
  have below : rest ≠ [] := by
    rintro rfl
    simp at longer
  rw [← List.append_assoc] at found
  exact closed (wellFormed.node?_above found below)

theorem not_feedIn_of_above (wellFormed : tree.WellFormed) {above : List Text}
    (closed : tree.node? (origin ++ above) ≠ some .directory) (inside : above <+: folder) :
    ¬ FeedIn tree (origin ++ folder) := by
  rintro ⟨content, modified, there, -⟩
  rw [List.append_assoc] at there
  have deeper : above <+: folder ++ [indexDocument] := inside.trans (List.prefix_append _ _)
  have same := eq_of_above wellFormed closed deeper (by simp [there])
  have short := inside.length_le
  rw [← same, List.length_append, List.length_singleton] at short
  omega

theorem isSkippedDraft_iff {content : Bytes} {fields : Fields} (document : isDocument name = true)
    (read : fieldsOf content = some fields) :
    IsSkippedDraft context.buildDrafts name content ↔ isSkipped context fields = true := by
  unfold IsSkippedDraft isSkipped
  simp [document, read, and_comm]

section Documents

variable {buildDrafts : Bool} {content : Bytes} {modified : Int} {stem : Text} {job : Job}

/-- To walk a skipped draft is to remove it. -/
theorem walked_erase (wellFormed : tree.WellFormed)
    (there : tree.node? (origin ++ (folder ++ [name])) = some (.file content modified))
    (skipped : IsSkippedDraft buildDrafts name content) :
    Walked buildDrafts base origin (folder ++ [name] <+: ·) (folder ++ [name] <+: ·)
      tree (tree.erase (origin ++ (folder ++ [name]))) [] := by
  have file : tree.HasFile (origin ++ (folder ++ [name])) := ⟨content, modified, there⟩
  have within : origin ++ (folder ++ [name]) ≠ [] := by simp
  refine ⟨wellFormed.erase within file.ne_directory,
    SameDirectories.erase_file within file.ne_directory, ?_, ?_, ?_, ?_, ?_, .nil⟩
  · rintro parts inside ⟨last, text, time, -, held, -⟩
    obtain rfl := eq_of_above wellFormed file.ne_directory inside (by simp [held])
    rw [node?_erase within, if_pos rfl]
  · intro inner inside feed
    exact absurd feed (not_feedIn_of_above wellFormed file.ne_directory inside)
  · intro parts unskipped _
    rw [node?_erase within, if_neg]
    intro same
    obtain rfl := List.append_cancel_left same
    exact unskipped ⟨List.prefix_refl _, skipsAt_concat.2 ⟨content, modified, there, skipped⟩⟩
  · intro job member
    cases member
  · intro inner stem text time inside named held unskipped
    have same := eq_of_above wellFormed file.ne_directory inside (by simp [held])
    have last := (List.append_singleton_inj.1 same).2
    rw [same, there] at held
    cases held
    exact absurd skipped (last ▸ unskipped)

/-- To walk another document is to find its job. -/
theorem walked_document (wellFormed : tree.WellFormed)
    (isJob : JobOf buildDrafts base origin tree folder stem job) :
    Walked buildDrafts base origin (folder ++ [documentName stem] <+: ·)
      (folder ++ [documentName stem] <+: ·) tree tree [job] := by
  obtain ⟨content, modified, there, -, published⟩ := isJob.document
  have file : tree.HasFile (origin ++ (folder ++ [documentName stem])) := ⟨content, modified, there⟩
  refine ⟨wellFormed, SameDirectories.refl _, ?_, ?_, fun _ _ _ => rfl, ?_, ?_,
    List.pairwise_singleton _ job⟩
  · intro parts inside skips
    have found : tree.node? (origin ++ parts) ≠ none := by
      obtain ⟨last, text, time, -, held, -⟩ := skips
      simp [held]
    obtain rfl := eq_of_above wellFormed file.ne_directory inside found
    obtain ⟨text, time, held, skipped⟩ := skipsAt_concat.1 skips
    rw [there] at held
    cases held
    exact absurd skipped published
  · intro inner inside feed
    exact absurd feed (not_feedIn_of_above wellFormed file.ne_directory inside)
  · intro other member
    obtain rfl := List.mem_singleton.1 member
    exact ⟨folder, stem, List.prefix_refl _, isJob⟩
  · intro inner last text time inside named held unskipped
    have same := eq_of_above wellFormed file.ne_directory inside (by simp [held])
    exact ⟨job, List.mem_singleton_self job, by rw [isJob.source, same]⟩

end Documents

theorem walked_jobOf {job : Option Job} (wellFormed : before.files.WellFormed)
    (opens : before.files.Opens (base.extend folder) (origin ++ folder)) (isName : IsName name)
    (required : before.files.require (base.extend (folder ++ [name])) =
      .ok (origin ++ (folder ++ [name])))
    (document : isDocument name = true)
    (ran : Runs (jobOf context (base.extend folder) isFeed (base.extend (folder ++ [name])))
      before job after) :
    Walked context.buildDrafts base origin (folder ++ [name] <+: ·) (folder ++ [name] <+: ·)
      before.files after.files job.toList := by
  unfold jobOf at ran
  obtain ⟨read, _, reading, ran⟩ := runs_bind.1 ran
  obtain ⟨rfl, content, modified, there, known⟩ := documentOf_of_runs required reading
  have fields : fieldsOf content = some read.header.fields := by
    rw [fieldsOf_eq, known]
    rfl
  have skipped := @isSkippedDraft_iff context name content _ document fields
  split at ran
  · next skip =>
      obtain ⟨_, middle, removed, ended⟩ := runs_bind.1 ran
      obtain ⟨rfl, rfl⟩ := runs_pure.1 ended
      rw [← Path.child_extend] at removed
      obtain ⟨-, rfl⟩ := runs_removeFile_child opens isName removed
      have gone : ((before.edited (.remove (origin ++ folder ++ [name]))).files) =
          before.files.erase (origin ++ (folder ++ [name])) := by
        rw [Workspace.edited_files, List.append_assoc]
        rfl
      rw [gone]
      exact walked_erase wellFormed there (skipped.2 skip)
  · next keep =>
      obtain ⟨rfl, rfl⟩ := runs_pure.1 ran
      have named := eq_documentName document
      have output : (base.extend (folder ++ [name])).withSuffix ".html" =
          base.extend (folder ++ [pageName (Path.splitName name).1]) := by
        rw [← Path.child_extend, Path.withSuffix_child, Path.child_extend]
        rfl
      have published : ¬ IsSkippedDraft context.buildDrafts name content :=
        fun skip => keep (skipped.1 skip)
      rw [named] at there published ⊢
      exact walked_document wellFormed
        ⟨stem_ne_nil document, opens, rfl, named ▸ output,
          ⟨content, modified, there, fields, published⟩, content, modified, read, there, known, rfl⟩

/-- Whether components lead to something in a folder. -/
def Beneath (folder parts : List Text) : Prop := ∃ name, folder ++ [name] <+: parts

/-- Whether components lead through one of the names in a folder. -/
def Among (folder names parts : List Text) : Prop := ∃ name ∈ names, folder ++ [name] <+: parts

theorem beneath_iff : Beneath folder parts ↔ folder <+: parts ∧ parts ≠ folder := by
  constructor
  · rintro ⟨name, rest, rfl⟩
    simp
  · rintro ⟨⟨rest, rfl⟩, other⟩
    cases rest with
    | nil => exact absurd (List.append_nil folder) other
    | cons name rest => exact ⟨name, rest, by simp⟩

theorem beneath_nil_iff : Beneath [] parts ↔ parts ≠ [] := by
  rw [beneath_iff, and_iff_right (List.nil_prefix)]

/-- Below a directory, every file is beneath it. -/
theorem beneath_iff_isPrefix (directory : tree.node? (origin ++ folder) = some .directory)
    (file : tree.HasFile (origin ++ parts)) : Beneath folder parts ↔ folder <+: parts := by
  rw [beneath_iff, and_iff_left]
  rintro rfl
  exact absurd directory file.ne_directory

theorem eq_or_beneath_iff : parts = folder ∨ Beneath folder parts ↔ folder <+: parts := by
  rw [beneath_iff]
  constructor
  · rintro (rfl | ⟨inside, -⟩)
    · exact List.prefix_refl _
    · exact inside
  · intro inside
    by_cases same : parts = folder
    · exact Or.inl same
    · exact Or.inr ⟨inside, same⟩

theorem among_cons_iff {names : List Text} :
    Among folder (name :: names) parts ↔ folder ++ [name] <+: parts ∨ Among folder names parts := by
  simp [Among]

theorem not_among_of_isPrefix {names : List Text} (new : name ∉ names)
    (inside : folder ++ [name] <+: parts) : ¬ Among folder names parts := by
  rintro ⟨other, member, also⟩
  have same := List.prefix_of_prefix_length_le inside also (by simp)
  obtain rfl : name = other := by simpa using same
  exact new member

/-- Whatever there is in a folder is reached through one of its names. -/
theorem among_names_iff (wellFormed : tree.WellFormed)
    (found : tree.node? (origin ++ parts) ≠ none) :
    Among folder (tree.names (origin ++ folder)) parts ↔ Beneath folder parts := by
  constructor
  · rintro ⟨name, -, inside⟩
    exact ⟨name, inside⟩
  · rintro ⟨name, rest, rfl⟩
    refine ⟨name, wellFormed.mem_names.2 ?_, List.prefix_append _ _⟩
    by_cases last : rest = []
    · simpa [last] using found
    · rw [← List.append_assoc] at found
      rw [List.append_assoc, wellFormed.node?_above found last]
      simp

/-- What is reached through a name comes before what is reached through a later one. -/
theorem walksBefore_of_among {names first second : List Text}
    (sorted : ∀ later ∈ names, Text.lessEqual name later = true) (new : name ∉ names)
    (inside : folder ++ [name] <+: first) (also : Among folder names second) :
    WalksBefore first second := by
  obtain ⟨other, member, within⟩ := also
  exact ⟨folder, name, other, fun same => new (same ▸ member), sorted other member, inside, within⟩

/-- Of two files in one folder, a walk comes to that with the first name. -/
theorem lessEqual_of_walksBefore {first second : Text}
    (before : WalksBefore (folder ++ [first]) (folder ++ [second])) :
    Text.lessEqual first second = true := by
  obtain ⟨inner, name, other, different, sorted, one, two⟩ := before
  rcases List.prefix_concat_iff.1 one with whole | above
  · obtain ⟨rfl, rfl⟩ := List.append_singleton_inj.1 whole
    obtain rfl : other = second := by simpa using two.eq_of_length_le (by simp)
    exact sorted
  · have same := List.prefix_of_prefix_length_le (above.trans (List.prefix_append _ [second])) two
      (by simp)
    exact absurd (List.append_singleton_inj.1 (same.eq_of_length (by simp))).2 different

/-- A walk of a directory has visited what is in it. -/
def WalksWithin (context : Context) (base : Path) (origin : Location) (limit depth : Nat) : Prop :=
  ∀ folder isFeed before findings after, before.files.WellFormed →
    before.files.node? origin = some .directory →
    before.files.Opens (base.extend folder) (origin ++ folder) →
    before.files.NestedWithin limit → limit < (origin ++ folder).length + depth →
    Runs (walk context depth (base.extend folder) isFeed) before findings after →
    Walked context.buildDrafts base origin (Beneath folder) (Beneath folder)
      before.files after.files findings.jobs

variable {limit depth : Nat}

/-- A feed is written where the index document declares one. -/
theorem walked_writeFeed {fields : Fields} {output : Path}
    (wellFormed : before.files.WellFormed) (root : before.files.node? origin = some .directory)
    (opens : before.files.Opens (base.extend folder) (origin ++ folder))
    (feed : FeedIn before.files (origin ++ folder))
    (ran : Runs (writeFeed (base.extend folder) fields context) before output after) :
    Walked context.buildDrafts base origin (fun _ => False) (· = folder)
      before.files after.files [] := by
  obtain ⟨file, content, modified, changed⟩ := runs_writeFeed opens ran
  have within : origin ++ folder ++ [Feed.fileName] ≠ [] := by simp
  have still := @walked_still context.buildDrafts base origin (fun _ => False) (fun _ => False)
    before.files wellFormed root (fun _ _ visited => visited.elim) fun _ searched => searched.elim
  rw [changed]
  refine ⟨wellFormed.set opens.2 (by decide) fun same => absurd same file,
    SameDirectories.set_file within file content modified, ?_, ?_, ?_, still.sound, ?_, .nil⟩
  · rintro parts ⟨⟩
  · rintro inner rfl -
    refine ⟨content, modified, ?_⟩
    rw [← List.append_assoc, node?_set within, if_pos rfl]
  · intro parts _ unfed
    rw [node?_set within, if_neg]
    intro same
    rw [List.append_assoc] at same
    exact unfed folder (List.append_cancel_left same) rfl feed
  · rintro inner stem text time ⟨⟩

theorem walked_directory {findings : Findings} (walks : WalksWithin context base origin limit depth)
    (wellFormed : before.files.WellFormed) (root : before.files.node? origin = some .directory)
    (opens : before.files.Opens (base.extend folder) (origin ++ folder))
    (nested : before.files.NestedWithin limit) (deep : limit < (origin ++ folder).length + depth)
    (ran : Runs (do
      match ← feedFields? (base.extend folder) with
      | some fields =>
        let feed ← writeFeed (base.extend folder) fields context
        return (Findings.mk [] [feed]).append (← walk context depth (base.extend folder) true)
      | none => walk context depth (base.extend folder) false) before findings after) :
    Walked context.buildDrafts base origin (folder <+: ·) (folder <+: ·)
      before.files after.files findings.jobs := by
  simp only [runs_bind] at ran
  obtain ⟨fields, middle, found, ran⟩ := ran
  obtain ⟨rfl, declared⟩ := runs_feedFields? opens found
  split at ran
  · next known =>
      simp only [runs_bind] at ran
      obtain ⟨feed, middle, written, deeper, last, walked, ended⟩ := ran
      obtain ⟨rfl, rfl⟩ := runs_pure.1 ended
      have one := walked_writeFeed wellFormed root opens (declared.1 rfl) written
      have two := walks folder true middle deeper last one.wellFormed
        ((one.same.directory_iff origin).2 root) (one.same.opens opens)
        (one.same.nestedWithin nested) deep walked
      have both := one.trans two (fun _ visited => visited.elim) (fun _ _ visited => visited.elim)
        fun _ _ visited => visited.elim
      apply both.congr
      · intro parts file
        rw [false_or]
        exact beneath_iff_isPrefix opens.2 file
      · exact fun inner _ => eq_or_beneath_iff
  · have walked := walks folder false _ _ _ wellFormed root opens nested deep ran
    apply walked.congr fun parts file => beneath_iff_isPrefix opens.2 file
    intro inner feed
    rw [beneath_iff, and_iff_left]
    rintro rfl
    cases declared.2 feed

theorem walked_walkEntry {findings : Findings}
    (walks : WalksWithin context base origin limit depth)
    (wellFormed : before.files.WellFormed) (root : before.files.node? origin = some .directory)
    (opens : before.files.Opens (base.extend folder) (origin ++ folder)) (isName : IsName name)
    (nested : before.files.NestedWithin limit)
    (deep : limit < (origin ++ folder).length + (depth + 1))
    (ran : Runs (walkEntry context depth (base.extend folder) isFeed
      (base.extend (folder ++ [name]))) before findings after) :
    Walked context.buildDrafts base origin (folder ++ [name] <+: ·) (folder ++ [name] <+: ·)
      before.files after.files findings.jobs := by
  have suffix : ((base.extend (folder ++ [name])).suffix == ".md".toList) = isDocument name := by
    rw [Path.suffix, Path.name_extend]
    rfl
  rw [walkEntry, suffix] at ran
  obtain ⟨answer, _, asking, ran⟩ := runs_bind.1 ran
  obtain ⟨asked, rfl⟩ := runs_inspect.1 asking
  rw [← Path.child_extend] at asked
  obtain ⟨required, isFile⟩ := opens.isFile_child isName asked
  rw [Path.child_extend, List.append_assoc] at required
  rw [List.append_assoc] at isFile
  split at ran
  · next document =>
      simp only [runs_bind] at ran
      obtain ⟨job, middle, found, ended⟩ := ran
      obtain ⟨rfl, rfl⟩ := runs_pure.1 ended
      rw [Bool.and_eq_true] at document
      exact walked_jobOf wellFormed opens isName required document.2 found
  · next other =>
      obtain ⟨inner, _, asking, ran⟩ := runs_bind.1 ran
      obtain ⟨inside, rfl⟩ := runs_inspect.1 asking
      rw [← Path.child_extend] at inside
      have isDirectory := (opens.isDirectory_child isName inside).2
      rw [List.append_assoc] at isDirectory
      split at ran
      · next directory =>
          apply walked_directory walks wellFormed root ⟨required, isDirectory.1 directory⟩ nested
            _ ran
          simp only [List.length_append, List.length_singleton] at deep ⊢
          omega
      · next noDirectory =>
          obtain ⟨rfl, rfl⟩ := runs_pure.1 ran
          have closed : before.files.node? (origin ++ (folder ++ [name])) ≠ some .directory :=
            fun there => noDirectory (isDirectory.2 there)
          apply walked_still wellFormed root
          · rintro above last inside document ⟨content, modified, there⟩
            have same := eq_of_above wellFormed closed inside (by simp [there])
            have named : last = name := (List.append_singleton_inj.1 same).2
            apply other
            rw [Bool.and_eq_true]
            exact ⟨isFile.2 ⟨content, modified, same ▸ there⟩, named ▸ document⟩
          · intro above inside
            exact not_feedIn_of_above wellFormed closed inside

/-- The entries of a directory are walked one after the other. -/
theorem walked_walkEntries {names : List Text} {findings : Findings}
    (walks : WalksWithin context base origin limit depth)
    (wellFormed : before.files.WellFormed) (root : before.files.node? origin = some .directory)
    (opens : before.files.Opens (base.extend folder) (origin ++ folder))
    (areNames : ∀ name ∈ names, IsName name) (distinct : names.Nodup)
    (sorted : names.Pairwise fun first second => Text.lessEqual first second = true)
    (nested : before.files.NestedWithin limit)
    (deep : limit < (origin ++ folder).length + (depth + 1))
    (ran : Runs (walkEntries context depth (base.extend folder) isFeed
      (names.map (base.extend folder).child)) before findings after) :
    Walked context.buildDrafts base origin (Among folder names) (Among folder names)
      before.files after.files findings.jobs := by
  induction names generalizing before findings with
  | nil =>
      rw [List.map_nil, walkEntries] at ran
      obtain ⟨rfl, rfl⟩ := runs_pure.1 ran
      apply walked_still wellFormed root
      · rintro above last ⟨name, member, -⟩
        cases member
      · rintro above ⟨name, member, -⟩
        cases member
  | cons name names ih =>
      rw [List.map_cons, walkEntries, Path.child_extend] at ran
      simp only [runs_bind] at ran
      obtain ⟨found, middle, first, later, last, second, ended⟩ := ran
      obtain ⟨rfl, rfl⟩ := runs_pure.1 ended
      rw [List.nodup_cons] at distinct
      rw [List.pairwise_cons] at sorted
      have one := walked_walkEntry walks wellFormed root opens
        (areNames name List.mem_cons_self) nested deep first
      have two := ih one.wellFormed ((one.same.directory_iff origin).2 root)
        (one.same.opens opens) (fun other member => areNames other (List.mem_cons_of_mem _ member))
        distinct.2 sorted.2 (one.same.nestedWithin nested) second
      have apart : ∀ parts, folder ++ [name] <+: parts → ¬ Among folder names parts :=
        fun parts inside => not_among_of_isPrefix distinct.1 inside
      have aside : ∀ inner, Among folder names inner →
          ¬ folder ++ [name] <+: inner ++ [indexDocument] := by
        rintro inner ⟨other, member, also⟩ inside
        exact apart _ inside ⟨other, member, also.trans (List.prefix_append _ _)⟩
      exact (one.trans two apart aside fun first second =>
        walksBefore_of_among sorted.1 distinct.1).congr (fun parts _ => among_cons_iff.symm)
        fun inner _ => among_cons_iff.symm

/-- Every walk does what it is said to do. -/
theorem walksWithin (context : Context) (base : Path) (origin : Location) (limit depth : Nat) :
    WalksWithin context base origin limit depth := by
  induction depth with
  | zero =>
      intro folder isFeed before findings after wellFormed root opens nested deep ran
      have short := nested _ opens.2
      omega
  | succ depth ih =>
      intro folder isFeed before findings after wellFormed root opens nested deep ran
      rw [walk] at ran
      obtain ⟨children, _, listing, ran⟩ := runs_bind.1 ran
      obtain ⟨listed, rfl⟩ := runs_inspect.1 listing
      rw [opens.children_eq, Except.ok.injEq] at listed
      subst listed
      have walked := walked_walkEntries ih wellFormed root opens
        (wellFormed.areNames (origin ++ folder)) (wellFormed.nodup_names _)
        (Text.pairwise_sort _) nested deep ran
      apply walked.congr
      · intro parts file
        exact among_names_iff wellFormed file.ne_none
      · rintro inner ⟨content, modified, there, -⟩
        have found : before.files.node? (origin ++ inner ++ [indexDocument]) ≠ none := by
          rw [there]
          simp
        exact among_names_iff wellFormed (by simp [wellFormed.node?_parent found])

/-- Gathering walks the whole output. -/
theorem walked_gather {findings : Findings} {origin : Location}
    (wellFormed : before.files.WellFormed)
    (opens : before.files.Opens context.outputDirectory origin)
    (ran : Runs (gather context) before findings after) :
    Walked context.buildDrafts context.outputDirectory origin (· ≠ []) (· ≠ [])
      before.files after.files findings.jobs := by
  unfold gather at ran
  obtain ⟨_, _, asking, ran⟩ := runs_bind.1 ran
  obtain ⟨rfl, rfl⟩ := runs_get.1 asking
  have whole := walksWithin context context.outputDirectory origin before.files.depth
    (before.files.depth + 1) [] false before findings after wellFormed opens.2
  rw [Path.extend_nil, List.append_nil] at whole
  have walked := whole opens (nestedWithin_depth _) (by omega) ran
  exact walked.congr (fun parts _ => beneath_nil_iff) fun inner _ => beneath_nil_iff

end Build

end StaticSite
