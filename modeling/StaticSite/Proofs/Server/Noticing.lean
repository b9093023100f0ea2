import StaticSite.Proofs.Server.Watching

/-!
# Which edits a server notices

The time that a server remembers when it starts is that of the last change then, and the site was
built before.  An edit that the first build came too early for is therefore taken for built; every
later one is noticed by the next tick.
-/

namespace StaticSite

namespace Server

open FileTree Relation

/-- Before the server serves, its look will come to every change but later edits. -/
structure Starting (root : Path) (files : FileTree) (edits : List Made) (scan : Scan) : Prop where
  sound : scan.Sound root files
  fresh : ∀ made ∈ edits, made.stage ≠ .serving ∧ made.ticked = false ∧ made.built = false
  seen : ∀ made ∈ edits, made.stage = .building → scan.Sees root files made.time
  covered : ∀ time, Known root files time →
    scan.Sees root files time ∨ ∃ made ∈ edits, time ≤ made.time

/-- What holds all the while that a server serves: a change later than the recorded one is an
edit's, and no build begins before there is one. -/
structure Serving (root : Path) (files : FileTree) (edits : List Made) (mark last : Int) :
    Prop where
  nonneg : 0 ≤ mark
  recorded : mark ≤ last
  reached : last ≤ 0 ∨ Known root files last
  covered : ∀ time, Known root files time → time ≤ mark ∨ ∃ made ∈ edits, time ≤ made.time
  early : ∀ made ∈ edits, made.stage = .building → made.time ≤ mark
  late : ∀ made ∈ edits, made.stage = .serving → 0 < made.time → mark < made.time
  idle : (∀ made ∈ edits, made.time ≤ mark) → ∀ made ∈ edits, made.built = false

/-- An edit that no build has begun after is at most as late as the recorded change, or later than
the last one that was seen. -/
def Pending (edits : List Made) (mark last : Int) : Prop :=
  ∀ made ∈ edits, made.built = true ∨ made.time ≤ mark ∨ last < made.time

/-- A server between two ticks. -/
structure Settled (root : Path) (files : FileTree) (edits : List Made) (mark last : Int) : Prop
    extends Serving root files edits mark last where
  pending : Pending edits mark last
  caught : ∀ made ∈ edits, made.ticked = true → made.built = true ∨ made.time ≤ mark

/-- A server that looks for a later change. -/
structure Checking (root : Path) (files : FileTree) (edits : List Made) (mark last : Int)
    (scan : Scan) : Prop extends Serving root files edits mark last where
  sound : scan.Sound root files
  pending : Pending edits mark last
  seen : ∀ made ∈ edits, made.ticked = true →
    made.built = true ∨ made.time ≤ mark ∨ scan.Sees root files made.time

/-- A server that has found a later change. -/
structure Due (root : Path) (files : FileTree) (edits : List Made) (mark last : Int) : Prop
    extends Serving root files edits mark last where
  called : ∃ made ∈ edits, mark < made.time

section Phases

variable {root : Path} {files changed : FileTree} {edits further : List Made} {mark last : Int}
  {scan next : Scan}

theorem Starting.happens (starting : Starting root files edits scan)
    (happens : Happens root .starting files changed edits further) :
    Starting root changed further scan := by
  refine ⟨starting.sound.grow happens.grows, ?_, ?_, ?_⟩
  · intro made member
    rcases happens.added made member with before | ⟨⟨stage, fresh⟩, -⟩
    · exact starting.fresh made before
    · exact ⟨by simp [stage], fresh⟩
  · intro made member building
    rcases happens.added made member with before | ⟨⟨stage, -⟩, -⟩
    · exact (starting.seen made before building).grow happens.grows
    · simp [stage] at building
  · intro time known
    rcases happens.covered time known with before | new
    · refine (starting.covered time before).imp (·.grow happens.grows) ?_
      exact fun ⟨made, member, late⟩ => ⟨made, happens.kept made member, late⟩
    · exact Or.inr new

/-- What is later than every change is later than the last one that was seen. -/
theorem Serving.lt_of_newer (serving : Serving root files edits mark last) {time : Int}
    (newer : ∀ earlier, Known root files earlier → earlier < time) (positive : 0 < time) :
    last < time := by
  rcases serving.reached with never | known
  · exact never.trans_lt positive
  · exact newer last known

theorem Serving.happens (serving : Serving root files edits mark last)
    (happens : Happens root .serving files changed edits further) :
    Serving root changed further mark last := by
  refine ⟨serving.nonneg, serving.recorded, serving.reached.imp_right happens.grows.known,
    ?_, ?_, ?_, ?_⟩
  · intro time known
    rcases happens.covered time known with before | new
    · refine (serving.covered time before).imp_right ?_
      exact fun ⟨made, member, late⟩ => ⟨made, happens.kept made member, late⟩
    · exact Or.inr new
  · intro made member building
    rcases happens.added made member with before | ⟨⟨stage, -⟩, -⟩
    · exact serving.early made before building
    · simp [stage] at building
  · intro made member stage positive
    rcases happens.added made member with before | ⟨-, -, newer⟩
    · exact serving.late made before stage positive
    · exact serving.recorded.trans_lt (serving.lt_of_newer newer positive)
  · intro none made member
    rcases happens.added made member with before | ⟨⟨-, -, unbuilt⟩, -⟩
    · exact serving.idle (fun other among => none other (happens.kept other among)) made before
    · exact unbuilt

theorem Serving.pending (serving : Serving root files edits mark last)
    (pending : Pending edits mark last)
    (happens : Happens root .serving files changed edits further) :
    Pending further mark last := by
  intro made member
  rcases happens.added made member with before | ⟨-, -, newer⟩
  · exact pending made before
  · refine Or.inr ?_
    by_cases positive : 0 < made.time
    · exact Or.inr (serving.lt_of_newer newer positive)
    · exact Or.inl ((not_lt.1 positive).trans serving.nonneg)

theorem Settled.happens (settled : Settled root files edits mark last)
    (happens : Happens root .serving files changed edits further) :
    Settled root changed further mark last := by
  refine ⟨settled.toServing.happens happens, settled.toServing.pending settled.pending happens, ?_⟩
  intro made member ticked
  rcases happens.added made member with before | ⟨⟨-, unticked, -⟩, -⟩
  · exact settled.caught made before ticked
  · simp [unticked] at ticked

theorem Checking.happens (checking : Checking root files edits mark last scan)
    (happens : Happens root .serving files changed edits further) :
    Checking root changed further mark last scan := by
  refine ⟨checking.toServing.happens happens, checking.sound.grow happens.grows,
    checking.toServing.pending checking.pending happens, ?_⟩
  intro made member ticked
  rcases happens.added made member with before | ⟨⟨-, unticked, -⟩, -⟩
  · exact (checking.seen made before ticked).imp_right (·.imp_right (·.grow happens.grows))
  · simp [unticked] at ticked

theorem Due.happens (due : Due root files edits mark last)
    (happens : Happens root .serving files changed edits further) :
    Due root changed further mark last := by
  obtain ⟨made, member, late⟩ := due.called
  exact ⟨due.toServing.happens happens, made, happens.kept made member, late⟩

/-- A look begins that comes to every change that there is. -/
theorem starting_begin
    (fresh : ∀ made ∈ edits, made.stage = .building ∧ made.ticked = false ∧ made.built = false)
    (kept : ∀ made ∈ edits, Known root files made.time) :
    Starting root files edits (.begin root) := by
  refine ⟨Scan.sound_begin, ?_, fun made member _ => Scan.sees_begin (kept made member),
    fun time known => Or.inl (Scan.sees_begin known)⟩
  intro made member
  obtain ⟨stage, rest⟩ := fresh made member
  exact ⟨by simp [stage], rest⟩

theorem Starting.step (starting : Starting root files edits scan) (watchable : Watchable root files)
    (step : scan.Step root files next) : Starting root files edits next where
  sound := starting.sound.step step
  fresh := starting.fresh
  seen made member building :=
    (starting.seen made member building).step watchable starting.sound step
  covered time known :=
    (starting.covered time known).imp_left (·.step watchable starting.sound step)

theorem Starting.serve (starting : Starting root files edits scan) (done : scan.Done) :
    Settled root files edits scan.latest scan.latest where
  nonneg := starting.sound.nonneg
  recorded := le_rfl
  reached := starting.sound.reached
  covered time known := (starting.covered time known).imp_left (·.le_latest done)
  early made member building := (starting.seen made member building).le_latest done
  late made member serving := absurd serving (starting.fresh made member).1
  idle _ made member := (starting.fresh made member).2.2
  pending made _ := Or.inr (le_or_gt made.time scan.latest)
  caught made member ticked := by simp [(starting.fresh made member).2.1] at ticked

theorem Settled.tick (settled : Settled root files edits mark last)
    (kept : ∀ made ∈ edits, Known root files made.time) :
    Checking root files (edits.map Made.tick) mark last (.begin root) := by
  refine ⟨⟨settled.nonneg, settled.recorded, settled.reached, ?_, ?_, ?_, ?_⟩, Scan.sound_begin,
    ?_, ?_⟩
  · simpa [Made.tick] using settled.covered
  · simpa [Made.tick] using settled.early
  · simpa [Made.tick] using settled.late
  · simpa [Made.tick] using settled.idle
  · simpa [Pending, Made.tick] using settled.pending
  · simp only [List.forall_mem_map, Made.tick]
    exact fun made member _ => Or.inr (Or.inr (Scan.sees_begin (kept made member)))

theorem Checking.step (checking : Checking root files edits mark last scan)
    (watchable : Watchable root files) (step : scan.Step root files next) :
    Checking root files edits mark last next where
  toServing := checking.toServing
  sound := checking.sound.step step
  pending := checking.pending
  seen made member ticked := (checking.seen made member ticked).imp_right
    (·.imp_right (·.step watchable checking.sound step))

theorem Checking.pass (checking : Checking root files edits mark last scan) (done : scan.Done)
    (old : scan.latest ≤ last) : Settled root files edits mark last where
  toServing := checking.toServing
  pending := checking.pending
  caught made member ticked := by
    rcases checking.seen made member ticked with built | recorded | sees
    · exact Or.inl built
    · exact Or.inr recorded
    · -- The look has come to the edit, so it is not later than the last change that was seen.
      have early := (sees.le_latest done).trans old
      rcases checking.pending made member with built | recorded | later
      · exact Or.inl built
      · exact Or.inr recorded
      · exact absurd early (not_le.2 later)

theorem Checking.change (checking : Checking root files edits mark last scan)
    (new : last < scan.latest) : Due root files edits mark scan.latest := by
  have later : mark < scan.latest := checking.recorded.trans_lt new
  refine ⟨⟨checking.nonneg, later.le, checking.sound.reached, checking.covered, checking.early,
    checking.late, checking.idle⟩, ?_⟩
  have known : Known root files scan.latest :=
    checking.sound.reached.resolve_left (not_le.2 (checking.nonneg.trans_lt later))
  obtain recorded | ⟨made, member, late⟩ := checking.covered _ known
  · exact absurd recorded (not_le.2 later)
  · exact ⟨made, member, later.trans_le late⟩

theorem Due.begin (due : Due root files edits mark last) :
    Settled root files (edits.map Made.build) mark last := by
  refine ⟨⟨due.nonneg, due.recorded, due.reached, ?_, ?_, ?_, ?_⟩, ?_, ?_⟩
  · simpa [Made.build] using due.covered
  · simpa [Made.build] using due.early
  · simpa [Made.build] using due.late
  · simp only [List.forall_mem_map, Made.build]
    obtain ⟨made, member, late⟩ := due.called
    exact fun none => absurd (none made member) (not_le.2 late)
  · simp [Pending, Made.build]
  · simp [Made.build]

end Phases

namespace Session

/-- What a phase promises of the files and the edits. -/
def Fits (root : Path) (files : FileTree) (edits : List Made) (mark : Int) : Phase → Prop
  | .building =>
    ∀ made ∈ edits, made.stage = .building ∧ made.ticked = false ∧ made.built = false
  | .starting scan => Starting root files edits scan
  | .waiting last => Settled root files edits mark last
  | .checking last scan => Checking root files edits mark last scan
  | .due last => Due root files edits mark last
  | .rebuilding last => Settled root files edits mark last

/-- What every session comes with that began with what can be watched. -/
structure Sound (root : Path) (session : Session) : Prop where
  watchable : Watchable root session.files
  kept : ∀ made ∈ session.edits, Known root session.files made.time
  fits : Fits root session.files session.edits session.mark session.phase

variable {root : Path} {files changed : FileTree} {edits further : List Made} {mark : Int}
  {phase : Phase} {session next : Session}

theorem Fits.happens (fits : Fits root files edits mark phase)
    (happens : Happens root phase.stage files changed edits further) :
    Fits root changed further mark phase := by
  cases phase with
  | building =>
      intro made member
      rcases happens.added made member with before | ⟨new, -⟩
      · exact fits made before
      · exact new
  | starting scan => exact Starting.happens fits happens
  | waiting last => exact Settled.happens fits happens
  | checking last scan => exact Checking.happens fits happens
  | due last => exact Due.happens fits happens
  | rebuilding last => exact Settled.happens fits happens

theorem Sound.happens (sound : Sound root ⟨files, phase, edits, mark⟩)
    (happens : Happens root phase.stage files changed edits further)
    (watchable : Watchable root changed) : Sound root ⟨changed, phase, further, mark⟩ := by
  refine ⟨watchable, fun made member => ?_, Fits.happens sound.fits happens⟩
  rcases happens.added made member with before | ⟨-, known, -⟩
  · exact happens.grows.known (sound.kept made before)
  · exact known

theorem Sound.step (sound : Sound root session) (step : Step root session next) :
    Sound root next := by
  cases step with
  | edit watched parent file newer =>
      exact sound.happens (happens_edit watched newer)
        (sound.watchable.set parent fun there => absurd there file)
  | makeDirectory parent free =>
      exact sound.happens (happens_makeDirectory free)
        (sound.watchable.set parent fun _ => rfl)
  | building confined =>
      exact sound.happens (happens_confined confined) (sound.watchable.confined confined)
  | rebuilding confined =>
      exact sound.happens (happens_confined confined) (sound.watchable.confined confined)
  | start => exact ⟨sound.watchable, sound.kept, starting_begin sound.fits sound.kept⟩
  | starting step =>
      exact ⟨sound.watchable, sound.kept, Starting.step sound.fits sound.watchable step⟩
  | serve done => exact ⟨sound.watchable, sound.kept, Starting.serve sound.fits done⟩
  | tick =>
      refine ⟨sound.watchable, ?_, Settled.tick sound.fits sound.kept⟩
      simpa [Made.tick] using sound.kept
  | checking step =>
      exact ⟨sound.watchable, sound.kept, Checking.step sound.fits sound.watchable step⟩
  | pass done old => exact ⟨sound.watchable, sound.kept, Checking.pass sound.fits done old⟩
  | change done new => exact ⟨sound.watchable, sound.kept, Checking.change sound.fits new⟩
  | begin =>
      refine ⟨sound.watchable, ?_, Due.begin sound.fits⟩
      simpa [Made.build] using sound.kept
  | finish => exact ⟨sound.watchable, sound.kept, sound.fits⟩

theorem sound_of_reaches (watchable : Watchable root files)
    (reached : Reaches root (first files) session) : Sound root session := by
  induction reached with
  | refl => exact ⟨watchable, by simp [first], by simp [first, Fits]⟩
  | tail _ step sound => exact sound.step step

end Session

/-- Whatever way a session goes, a build has begun after every edit before the last tick. -/
def KeepsUp (root : Path) (files : FileTree) : Prop :=
  ∀ session last, Session.Reaches root (Session.first files) session →
    session.phase = .waiting last → ∀ made ∈ session.edits, made.ticked = true → made.built = true

section Missing

variable {root : Path} {files : FileTree} {time : Int}

theorem le_latestChange (wellFormed : files.WellFormed) (watchable : Watchable root files)
    (known : Known root files time) : time ≤ latestChange files (watchedRoots root) := by
  have looks : ∀ scan, ReflTransGen (Scan.Step root files) (.begin root) scan →
      scan.Sound root files ∧ scan.Sees root files time := by
    intro scan looked
    induction looked with
    | refl => exact ⟨Scan.sound_begin, Scan.sees_begin known⟩
    | tail _ step sees => exact ⟨sees.1.step step, sees.2.step watchable sees.1 step⟩
  exact (looks _ (scan_latestChange wellFormed)).2.le_latest ⟨rfl, rfl⟩

theorem exists_free_name (files : FileTree) (folder : Location) :
    ∃ name, IsName name ∧ files.node? (folder ++ [name]) = none := by
  -- A name that is longer than all names together is free.
  let size : Location × Node → Nat := fun entry => (entry.1.getLast?.getD []).length
  refine ⟨'x' :: List.replicate (files.entries.map size).sum 'x', by simp [IsName], ?_⟩
  by_contra taken
  obtain ⟨node, found⟩ := Option.ne_none_iff_exists'.1 taken
  have member := mem_of_node? found (by simp)
  have short := List.le_sum_of_mem (List.mem_map_of_mem (f := size) member)
  simp only [size, List.getLast?_append, List.getLast?_singleton, Option.some_or,
    Option.getD_some, List.length_cons, List.length_replicate] at short
  omega

/-- Every site with sources loses an edit during its first build. -/
theorem not_keepsUp_of_sources (wellFormed : files.WellFormed) (watchable : Watchable root files)
    {sources : Location} (opens : files.Opens (root.child Context.sourceName) sources) :
    ¬ KeepsUp root files := by
  obtain rfl := eq_resolve_of_require opens.1
  set sources := (root.child Context.sourceName).resolve files.here
  obtain ⟨name, isName, free⟩ := exists_free_name files sources
  have noDirectory : files.node? (sources ++ [name]) ≠ some .directory := by simp [free]
  have watched : IsWatched root files (sources ++ [name]) :=
    ⟨_, List.mem_cons_self, List.prefix_append _ _, by simp [sources]⟩
  -- A page is written, later than every change before.
  let time := latestChange files (watchedRoots root) + 1
  have newer : ∀ place earlier, IsWatched root files place → ChangedAt files place earlier →
      earlier < time := by
    intro place earlier inside changed
    have known : Known root files earlier := ⟨place, inside, earlier, le_rfl, changed⟩
    exact Int.lt_add_one_of_le (le_latestChange wellFormed watchable known)
  let written := files.apply (.write (sources ++ [name]) [] time)
  have formed : written.WellFormed := wellFormed.set opens.2 isName (by simp [free])
  have edits : Session.Reaches root (Session.first files)
      ⟨written, .building, [⟨time, .building, false, false⟩], 0⟩ :=
    .single (.edit watched opens.2 noDirectory newer)
  intro law
  cases law _ _ (edits.trans (reaches_ticked formed)) rfl _ List.mem_cons_self rfl

end Missing

/-- When a server waits, a build has begun after every edit before the last tick, but for those
whose time is not later than the one that was recorded at the start.  All edits during the first
build are such, and of the edits while the server serves only those without a positive time.  As
long as there are no others, the server does not build again; so no site with sources keeps up. -/
theorem watching_notices_later_edits {root : Path} {files : FileTree}
    (watchable : Watchable root files) :
    (∀ session last, Session.Reaches root (Session.first files) session →
      session.phase = .waiting last →
      (∀ made ∈ session.edits, made.ticked = true →
        made.built = true ∨ made.time ≤ session.mark) ∧
      ((∀ made ∈ session.edits, made.time ≤ session.mark) →
        ∀ made ∈ session.edits, made.built = false) ∧
      ∀ made ∈ session.edits, (made.stage = .building → made.time ≤ session.mark) ∧
        (made.stage = .serving → 0 < made.time → session.mark < made.time)) ∧
    ∀ sources, files.WellFormed → files.Opens (root.child Context.sourceName) sources →
      ¬ KeepsUp root files := by
  constructor
  · intro session last reached waiting
    have fits := (Session.sound_of_reaches watchable reached).fits
    rw [waiting] at fits
    have settled : Settled root session.files session.edits session.mark last := fits
    exact ⟨settled.caught, settled.idle, fun made member =>
      ⟨settled.early made member, settled.late made member⟩⟩
  · exact fun sources wellFormed opens => not_keepsUp_of_sources wellFormed watchable opens

end Server

namespace Server.Example

open Build Build.Example FileTree Relation Session

/-- A project without sources. -/
def bare : Workspace where
  files := ⟨[], [
    (["config".toList], .file (Utf8.encode "\x7b\"baseURL\":\"/\"\x7d") 0),
    (["src".toList], .directory)]⟩

def built : Workspace where
  files := ⟨[], bare.files.entries ++ [
    (["public".toList], .directory),
    (["public".toList, Sitemap.fileName], .file (Utf8.encode (Sitemap.text [])) 0)]⟩
  printed := [.text "Converting 0 markdown files...\n",
    .text "Generated sitemap at: public/sitemap.xml\n", .text "done building\n"]
  journal := [.write ["public".toList, Sitemap.fileName] (Utf8.encode (Sitemap.text [])) 0,
    .makeDirectory ["public".toList]]

def page : Location := ["src".toList] ++ ["index.html".toList]

/-- The site with a page that was written at a time. -/
def edited (time : Int) : Workspace := built.edited (.write page [72] time)

theorem wellFormed_bare : bare.files.WellFormed := ⟨by decide, by decide, by decide⟩

theorem runs_bare : (site request).Runs bare ⟨[], [], 0⟩ built := by cbv

theorem wellFormed_edited (time : Int) : (edited time).files.WellFormed :=
  (wellFormed_of_site wellFormed_bare runs_bare).set (by decide) (by decide)
    fun there => absurd there (by decide)

theorem latestChange_edited (time : Int) :
    latestChange (edited time).files (watchedRoots request.root) = max 0 time := by
  rfl

/-- A page is written when there is no watched file yet. -/
theorem edits_page (phase : Phase) (mark time : Int) :
    Step request.root ⟨built.files, phase, [], mark⟩
      ⟨(edited time).files, phase, [⟨time, phase.stage, false, false⟩], mark⟩ := by
  have watched : IsWatched request.root built.files page :=
    ⟨request.root.child Context.sourceName, by decide, by decide, by decide⟩
  refine .edit watched (by decide) (by decide) ?_
  rintro place earlier ⟨directory, member, inside, -⟩ ⟨content, file⟩
  have entry := mem_of_node? file (by rintro rfl; simp at file)
  have directories : ∀ directory ∈ watchedRoots request.root, ∀ entry ∈ built.files.entries,
      directory.resolve built.files.here <+: entry.1 → entry.2 = .directory := by decide
  cases directories directory member _ entry inside

/-- Before the page is written the server has not started, or it has. -/
theorem reaches_edited (time : Int) :
    Reaches request.root (first bare.files)
        ⟨(edited time).files, .building, [⟨time, .building, false, false⟩], 0⟩ ∧
      Reaches request.root (first bare.files)
        ⟨(edited time).files, .waiting 0, [⟨time, .serving, false, false⟩], 0⟩ := by
  constructor
  · have confined := @agreeOutside_site request bare wellFormed_bare
    have performed : (site request).perform bare = (.ok ⟨[], [], 0⟩, built) := runs_bare
    rw [performed] at confined
    exact .head (.building confined) (.single (edits_page .building 0 time))
  · have started := reaches_waiting wellFormed_bare runs_bare
    have quiet : latestChange built.files (watchedRoots request.root) = 0 := by decide
    rw [quiet] at started
    exact started.tail (edits_page (.waiting 0) 0 time)

/-- A page that is written while the server serves is found by the next tick. -/
theorem watching_finds_page :
    Watchable request.root bare.files ∧
      (∃ session, Reaches request.root (first bare.files) session ∧ session.phase = .waiting 7 ∧
        session.edits = [⟨7, .serving, true, true⟩] ∧ ∀ made ∈ session.edits,
          made.ticked = true → made.built = true ∨ made.time ≤ session.mark) ∧
      bare.files.Opens (request.root.child Context.sourceName) ["src".toList] ∧
      ¬ KeepsUp request.root bare.files := by
  have watchable := watchable_of_site wellFormed_bare runs_bare
  have opens : bare.files.Opens (request.root.child Context.sourceName) ["src".toList] :=
    ⟨by decide, by decide⟩
  obtain ⟨after, -, checked⟩ := @exists_check request (edited 7) [⟨7, .serving, false, false⟩] 0 0
    (wellFormed_edited 7)
  rw [latestChange_edited] at checked
  have reached := (reaches_edited 7).2.trans checked
  obtain ⟨notices, loses⟩ := watching_notices_later_edits watchable
  exact ⟨watchable, ⟨_, reached, rfl, rfl, (notices _ 7 reached rfl).1⟩, opens,
    loses _ wellFormed_bare opens⟩

/-- A page that is written while the site is built for the first time waits for the next edit, and
so does one with the time zero. -/
theorem not_keepsUp_bare :
    let rebuild : Action Unit := do let _ ← site request
    bare.files.WellFormed ∧ (site request).Runs bare ⟨[], [], 0⟩ built ∧
      ((check request.root 5 rebuild).Runs (edited 5) (false, 5) (edited 5) ∧
        Reaches request.root (first bare.files)
          ⟨(edited 5).files, .waiting 5, [⟨5, .building, true, false⟩], 5⟩) ∧
      ((check request.root 0 rebuild).Runs (edited 0) (false, 0) (edited 0) ∧
        Reaches request.root (first bare.files)
          ⟨(edited 0).files, .waiting 0, [⟨0, .serving, true, false⟩], 0⟩) ∧
      ¬ KeepsUp request.root bare.files := by
  intro rebuild
  have started := @reaches_ticked [⟨5, .building, false, false⟩] 0 request.root _
    (wellFormed_edited 5)
  rw [latestChange_edited] at started
  have lost := (reaches_edited 5).1.trans started
  obtain ⟨early, -⟩ := @check_of_old (edited 5) [] 5 5 request.root rebuild (wellFormed_edited 5)
    (latestChange_edited 5).le
  obtain ⟨zero, ticked⟩ := @check_of_old (edited 0) [⟨0, .serving, false, false⟩] 0 0
    request.root rebuild (wellFormed_edited 0) (latestChange_edited 0).le
  refine ⟨wellFormed_bare, runs_bare, ⟨early, lost⟩, ⟨zero, (reaches_edited 0).2.trans ticked⟩, ?_⟩
  intro law
  cases law _ 5 lost rfl _ List.mem_cons_self rfl

end Server.Example

end StaticSite
