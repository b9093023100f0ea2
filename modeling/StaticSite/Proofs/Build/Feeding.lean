import StaticSite.Proofs.Build.Gathering

/-!
# The feeds of a walk

A walk finds a feed in every folder below its own whose index document declares one, and no other.
-/

namespace StaticSite

namespace Build

open StaticSite.Action FileTree

variable {context : Context} {base : Path} {origin : Location} {before after : Workspace}
  {folder : List Text} {name : Text} {names : List Text} {isFeed : Bool} {findings : Findings}
  {limit depth : Nat} {visited others : List Text → Prop} {feeds later : List Path}

/-- The feeds that are found are those of the visited folders whose index document declares one. -/
def AreFeeds (base : Path) (origin : Location) (tree : FileTree) (visited : List Text → Prop)
    (feeds : List Path) : Prop :=
  ∀ path, path ∈ feeds ↔ ∃ inner, visited inner ∧ FeedIn tree (origin ++ inner) ∧
    path = base.extend (inner ++ [Feed.fileName])

theorem areFeeds_nil {tree : FileTree}
    (unfed : ∀ inner, visited inner → ¬ FeedIn tree (origin ++ inner)) :
    AreFeeds base origin tree visited [] := by
  intro path
  refine iff_of_false List.not_mem_nil ?_
  rintro ⟨inner, inside, feed, -⟩
  exact unfed inner inside feed

/-- The feeds of two walks, where the first one leaves the index documents of the second alone. -/
theorem AreFeeds.append {tree middle : FileTree} (one : AreFeeds base origin tree visited feeds)
    (two : AreFeeds base origin middle others later)
    (kept : ∀ inner, others inner →
      (FeedIn middle (origin ++ inner) ↔ FeedIn tree (origin ++ inner))) :
    AreFeeds base origin tree (fun inner => visited inner ∨ others inner) (feeds ++ later) := by
  intro path
  rw [List.mem_append, one, two]
  constructor
  · rintro (⟨inner, inside, feed, rfl⟩ | ⟨inner, inside, feed, rfl⟩)
    · exact ⟨inner, Or.inl inside, feed, rfl⟩
    · exact ⟨inner, Or.inr inside, (kept inner inside).1 feed, rfl⟩
  · rintro ⟨inner, inside | inside, feed, rfl⟩
    · exact Or.inl ⟨inner, inside, feed, rfl⟩
    · exact Or.inr ⟨inner, inside, (kept inner inside).2 feed, rfl⟩

theorem AreFeeds.congr {tree : FileTree} (found : AreFeeds base origin tree visited feeds)
    (searches : ∀ inner, FeedIn tree (origin ++ inner) → (visited inner ↔ others inner)) :
    AreFeeds base origin tree others feeds := by
  intro path
  rw [found]
  constructor
  · rintro ⟨inner, inside, feed, rfl⟩
    exact ⟨inner, (searches inner feed).1 inside, feed, rfl⟩
  · rintro ⟨inner, inside, feed, rfl⟩
    exact ⟨inner, (searches inner feed).2 inside, feed, rfl⟩

theorem output_of_writeFeed {path output : Path} {fields : Fields}
    (ran : Runs (writeFeed path fields context) before output after) :
    output = path.child Feed.fileName := by
  unfold writeFeed at ran
  simp only [runs_bind] at ran
  obtain ⟨children, _, -, entries, _, -, _, _, -, _, _, -, ended⟩ := ran
  exact (runs_pure.1 ended).1

/-- A walk of a directory finds the feeds below it. -/
def FeedsWithin (context : Context) (base : Path) (origin : Location) (limit depth : Nat) : Prop :=
  ∀ folder isFeed before findings after, before.files.WellFormed →
    before.files.node? origin = some .directory →
    before.files.Opens (base.extend folder) (origin ++ folder) →
    before.files.NestedWithin limit → limit < (origin ++ folder).length + depth →
    Runs (walk context depth (base.extend folder) isFeed) before findings after →
    AreFeeds base origin before.files (Beneath folder) findings.feeds

theorem areFeeds_directory (feeds : FeedsWithin context base origin limit depth)
    (wellFormed : before.files.WellFormed) (root : before.files.node? origin = some .directory)
    (opens : before.files.Opens (base.extend folder) (origin ++ folder))
    (nested : before.files.NestedWithin limit) (deep : limit < (origin ++ folder).length + depth)
    (ran : Runs (do
      match ← feedFields? (base.extend folder) with
      | some fields =>
        let feed ← writeFeed (base.extend folder) fields context
        return (Findings.mk [] [feed]).append (← walk context depth (base.extend folder) true)
      | none => walk context depth (base.extend folder) false) before findings after) :
    AreFeeds base origin before.files (folder <+: ·) findings.feeds := by
  simp only [runs_bind] at ran
  obtain ⟨fields, middle, found, ran⟩ := ran
  obtain ⟨rfl, declared⟩ := runs_feedFields? opens found
  split at ran
  · next known =>
      simp only [runs_bind] at ran
      obtain ⟨feed, middle, written, deeper, last, walked, ended⟩ := ran
      obtain ⟨rfl, rfl⟩ := runs_pure.1 ended
      have own := declared.1 rfl
      have one := walked_writeFeed wellFormed root opens own written
      have two := feeds folder true middle deeper last one.wellFormed
        ((one.same.directory_iff origin).2 root) (one.same.opens opens)
        (one.same.nestedWithin nested) deep walked
      have here : AreFeeds base origin before.files (· = folder) [feed] := by
        intro path
        rw [List.mem_singleton, output_of_writeFeed written, Path.child_extend]
        constructor
        · rintro rfl
          exact ⟨folder, rfl, own, rfl⟩
        · rintro ⟨inner, rfl, -, same⟩
          exact same
      have both := here.append two fun inner _ => one.feedIn_iff id
      exact both.congr fun inner _ => eq_or_beneath_iff
  · have walked := feeds folder false _ _ _ wellFormed root opens nested deep ran
    apply walked.congr
    intro inner feed
    rw [beneath_iff, and_iff_left]
    rintro rfl
    cases declared.2 feed

theorem areFeeds_walkEntry (feeds : FeedsWithin context base origin limit depth)
    (wellFormed : before.files.WellFormed) (root : before.files.node? origin = some .directory)
    (opens : before.files.Opens (base.extend folder) (origin ++ folder)) (isName : IsName name)
    (nested : before.files.NestedWithin limit)
    (deep : limit < (origin ++ folder).length + (depth + 1))
    (ran : Runs (walkEntry context depth (base.extend folder) isFeed
      (base.extend (folder ++ [name]))) before findings after) :
    AreFeeds base origin before.files (folder ++ [name] <+: ·) findings.feeds := by
  rw [walkEntry] at ran
  obtain ⟨answer, _, asking, ran⟩ := runs_bind.1 ran
  obtain ⟨asked, rfl⟩ := runs_inspect.1 asking
  rw [← Path.child_extend] at asked
  obtain ⟨required, isFile⟩ := opens.isFile_child isName asked
  rw [Path.child_extend, List.append_assoc] at required
  rw [List.append_assoc] at isFile
  split at ran
  · next document =>
      simp only [runs_bind] at ran
      obtain ⟨job, middle, found, ended⟩ := ran
      obtain ⟨rfl, rfl⟩ := runs_pure.1 ended
      rw [Bool.and_eq_true] at document
      exact areFeeds_nil fun inner inside =>
        not_feedIn_of_above wellFormed (isFile.1 document.1).ne_directory inside
  · obtain ⟨inner, _, asking, ran⟩ := runs_bind.1 ran
    obtain ⟨inside, rfl⟩ := runs_inspect.1 asking
    rw [← Path.child_extend] at inside
    have isDirectory := (opens.isDirectory_child isName inside).2
    rw [List.append_assoc] at isDirectory
    split at ran
    · next directory =>
        apply areFeeds_directory feeds wellFormed root ⟨required, isDirectory.1 directory⟩ nested
          _ ran
        simp only [List.length_append, List.length_singleton] at deep ⊢
        omega
    · next noDirectory =>
        obtain ⟨rfl, rfl⟩ := runs_pure.1 ran
        exact areFeeds_nil fun inner inside =>
          not_feedIn_of_above wellFormed (fun there => noDirectory (isDirectory.2 there)) inside

theorem areFeeds_walkEntries (feeds : FeedsWithin context base origin limit depth)
    (wellFormed : before.files.WellFormed) (root : before.files.node? origin = some .directory)
    (opens : before.files.Opens (base.extend folder) (origin ++ folder))
    (areNames : ∀ name ∈ names, IsName name) (distinct : names.Nodup)
    (nested : before.files.NestedWithin limit)
    (deep : limit < (origin ++ folder).length + (depth + 1))
    (ran : Runs (walkEntries context depth (base.extend folder) isFeed
      (names.map (base.extend folder).child)) before findings after) :
    AreFeeds base origin before.files (Among folder names) findings.feeds := by
  induction names generalizing before findings with
  | nil =>
      rw [List.map_nil, walkEntries] at ran
      obtain ⟨rfl, rfl⟩ := runs_pure.1 ran
      apply areFeeds_nil
      rintro inner ⟨name, member, -⟩
      cases member
  | cons name names ih =>
      rw [List.map_cons, walkEntries, Path.child_extend] at ran
      simp only [runs_bind] at ran
      obtain ⟨found, middle, first, later, last, second, ended⟩ := ran
      obtain ⟨rfl, rfl⟩ := runs_pure.1 ended
      rw [List.nodup_cons] at distinct
      have isName := areNames name List.mem_cons_self
      have walked := walked_walkEntry (walksWithin context base origin limit depth) wellFormed root
        opens isName nested deep first
      have one := areFeeds_walkEntry feeds wellFormed root opens isName nested deep first
      have two := ih walked.wellFormed ((walked.same.directory_iff origin).2 root)
        (walked.same.opens opens)
        (fun other member => areNames other (List.mem_cons_of_mem _ member)) distinct.2
        (walked.same.nestedWithin nested) second
      -- The first walk stays below its entry, away from the index documents of the others.
      have both := one.append two fun inner among => walked.feedIn_iff fun inside => by
        obtain ⟨other, member, also⟩ := among
        exact not_among_of_isPrefix distinct.1 inside
          ⟨other, member, also.trans (List.prefix_append _ _)⟩
      exact both.congr fun inner _ => among_cons_iff.symm

theorem feedsWithin (context : Context) (base : Path) (origin : Location) (limit depth : Nat) :
    FeedsWithin context base origin limit depth := by
  induction depth with
  | zero =>
      intro folder isFeed before findings after wellFormed root opens nested deep ran
      have short := nested _ opens.2
      omega
  | succ depth ih =>
      intro folder isFeed before findings after wellFormed root opens nested deep ran
      rw [walk] at ran
      obtain ⟨children, _, listing, ran⟩ := runs_bind.1 ran
      obtain ⟨listed, rfl⟩ := runs_inspect.1 listing
      rw [opens.children_eq, Except.ok.injEq] at listed
      subst listed
      have found := areFeeds_walkEntries ih wellFormed root opens
        (wellFormed.areNames (origin ++ folder)) (wellFormed.nodup_names _) nested deep ran
      apply found.congr
      rintro inner ⟨content, modified, there, -⟩
      have held : before.files.node? (origin ++ inner ++ [indexDocument]) ≠ none := by
        rw [there]
        simp
      exact among_names_iff wellFormed (by simp [wellFormed.node?_parent held])

/-- Gathering finds the feeds of all folders but the output itself. -/
theorem areFeeds_gather (wellFormed : before.files.WellFormed)
    (opens : before.files.Opens context.outputDirectory origin)
    (ran : Runs (gather context) before findings after) :
    AreFeeds context.outputDirectory origin before.files (· ≠ []) findings.feeds := by
  unfold gather at ran
  obtain ⟨_, _, asking, ran⟩ := runs_bind.1 ran
  obtain ⟨rfl, rfl⟩ := runs_get.1 asking
  have whole := feedsWithin context context.outputDirectory origin before.files.depth
    (before.files.depth + 1) [] false before findings after wellFormed opens.2
  rw [Path.extend_nil, List.append_nil] at whole
  have found := whole opens (nestedWithin_depth _) (by omega) ran
  exact found.congr fun inner _ => beneath_nil_iff

end Build

end StaticSite
