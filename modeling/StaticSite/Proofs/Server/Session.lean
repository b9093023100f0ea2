import Mathlib.Logic.Relation
import StaticSite.Proofs.Build.Interrupting
import StaticSite.Server.Watch

/-!
# A served site step by step

Building, looking for the latest change and waiting take time, and a file may be edited at any
moment of it.  A session goes through what the server does in small steps, with edits between any
two of them, and remembers of each edit which ticks and builds have begun since.
-/

namespace StaticSite

/-- A workspace after a line about a fault. -/
def Workspace.reporting (workspace : Workspace) (line : Text) : Workspace :=
  { workspace with reported := workspace.reported ++ line ++ ['\n'] }

namespace Server

open FileTree

/-- The files below a directory; a directory that cannot be looked at is passed over. -/
def listing (files : FileTree) (directory : Path) : List Location :=
  match files.require directory with
  | .ok location =>
    if files.node? location = some .directory then
      (files.entriesBelow location).filterMap fun
        | (parts, .file _ _) => some (location ++ parts)
        | (_, .directory) => none
    else []
  | .error _ => []

/-- The later of a time and the time of change of a file, as far as the file is there. -/
def later (files : FileTree) (latest : Int) (place : Location) : Int :=
  match files.node? place with
  | some (.file _ modified) => max latest modified
  | _ => latest

/-- A file at a location was changed at a time. -/
def ChangedAt (files : FileTree) (place : Location) (time : Int) : Prop :=
  ∃ content, files.node? place = some (.file content time)

/-- A location below one of the watched directories. -/
def IsWatched (root : Path) (files : FileTree) (place : Location) : Prop :=
  ∃ directory ∈ watchedRoots root,
    directory.resolve files.here <+: place ∧ place ≠ directory.resolve files.here

/-- A look for the latest change that is going on. -/
structure Scan where
  latest : Int := 0
  /-- The files that have been found and are still to be looked at. -/
  found : List Location := []
  /-- The directories that are still to be listed. -/
  roots : List Path

namespace Scan

def begin (root : Path) : Scan where
  roots := watchedRoots root

def Done (scan : Scan) : Prop := scan.found = [] ∧ scan.roots = []

/-- A step of a look for the latest change.  A file that appears while the directories are listed
may be found or not. -/
inductive Step (root : Path) (files : FileTree) : Scan → Scan → Prop
  | list {latest found directory roots} :
      Step root files ⟨latest, found, directory :: roots⟩
        ⟨latest, found ++ listing files directory, roots⟩
  | find {latest found roots place} (watched : IsWatched root files place) :
      Step root files ⟨latest, found, roots⟩ ⟨latest, place :: found, roots⟩
  | look {latest place found roots} :
      Step root files ⟨latest, place :: found, roots⟩ ⟨later files latest place, found, roots⟩

end Scan

/-- The times at which a file may be edited: while the site is built for the first time, while the
server starts, and while it serves. -/
inductive Stage where
  | building
  | starting
  | serving
  deriving DecidableEq, Repr

/-- An edit of a file: the time of change that the file was given, when that was, and whether a tick
and a build have begun since. -/
structure Made where
  time : Int
  stage : Stage
  ticked : Bool := false
  built : Bool := false
  deriving DecidableEq, Repr

def Made.tick (made : Made) : Made := { made with ticked := true }

def Made.build (made : Made) : Made := { made with built := true }

/-- What a server is doing, with the time of the last change that it has seen. -/
inductive Phase where
  /-- The site is built for the first time. -/
  | building
  /-- The server looks for the last change before it serves. -/
  | starting (scan : Scan)
  | waiting (last : Int)
  /-- A tick looks for a later change. -/
  | checking (last : Int) (scan : Scan)
  /-- A later change has been found, and a build is to begin. -/
  | due (last : Int)
  | rebuilding (last : Int)

def Phase.stage : Phase → Stage
  | .building => .building
  | .starting _ => .starting
  | _ => .serving

/-- The files of a served site, what the server is doing, the edits since it began, from the last to
the first, and the time that was recorded when it started. -/
structure Session where
  files : FileTree
  phase : Phase
  edits : List Made := []
  mark : Int := 0

namespace Session

/-- The first build of a site begins. -/
def first (files : FileTree) : Session := ⟨files, .building, [], 0⟩

/-- A step of a session. -/
inductive Step (root : Path) : Session → Session → Prop
  /-- A watched file gets a new content and a time that is newer than all others. -/
  | edit {files phase edits mark folder name content time}
      (watched : IsWatched root files (folder ++ [name]))
      (parent : files.node? folder = some .directory)
      (file : files.node? (folder ++ [name]) ≠ some .directory)
      (newer : ∀ place earlier, IsWatched root files place → ChangedAt files place earlier →
        earlier < time) :
      Step root ⟨files, phase, edits, mark⟩
        ⟨files.apply (.write (folder ++ [name]) content time), phase,
          ⟨time, phase.stage, false, false⟩ :: edits, mark⟩
  /-- A directory is made; it may be a watched one. -/
  | makeDirectory {files phase edits mark folder name}
      (parent : files.node? folder = some .directory)
      (free : files.node? (folder ++ [name]) = none) :
      Step root ⟨files, phase, edits, mark⟩
        ⟨files.apply (.makeDirectory (folder ++ [name])), phase, edits, mark⟩
  /-- The first build makes a change of the output. -/
  | building {files changed edits mark}
      (confined : AgreeOutside (Build.outputLocation root files) files changed) :
      Step root ⟨files, .building, edits, mark⟩ ⟨changed, .building, edits, mark⟩
  | start {files edits mark} :
      Step root ⟨files, .building, edits, mark⟩ ⟨files, .starting (.begin root), edits, mark⟩
  | starting {files scan further edits mark} (step : scan.Step root files further) :
      Step root ⟨files, .starting scan, edits, mark⟩ ⟨files, .starting further, edits, mark⟩
  /-- The server remembers the last change that it has found, and serves. -/
  | serve {files scan edits mark} (done : scan.Done) :
      Step root ⟨files, .starting scan, edits, mark⟩
        ⟨files, .waiting scan.latest, edits, scan.latest⟩
  | tick {files last edits mark} :
      Step root ⟨files, .waiting last, edits, mark⟩
        ⟨files, .checking last (.begin root), edits.map Made.tick, mark⟩
  | checking {files last scan further edits mark} (step : scan.Step root files further) :
      Step root ⟨files, .checking last scan, edits, mark⟩
        ⟨files, .checking last further, edits, mark⟩
  /-- A tick ends without a later change. -/
  | pass {files last scan edits mark} (done : scan.Done) (old : scan.latest ≤ last) :
      Step root ⟨files, .checking last scan, edits, mark⟩ ⟨files, .waiting last, edits, mark⟩
  /-- A later change is remembered before the build that it calls for. -/
  | change {files last scan edits mark} (done : scan.Done) (new : last < scan.latest) :
      Step root ⟨files, .checking last scan, edits, mark⟩ ⟨files, .due scan.latest, edits, mark⟩
  | begin {files last edits mark} :
      Step root ⟨files, .due last, edits, mark⟩
        ⟨files, .rebuilding last, edits.map Made.build, mark⟩
  /-- A build makes a change of the output. -/
  | rebuilding {files changed last edits mark}
      (confined : AgreeOutside (Build.outputLocation root files) files changed) :
      Step root ⟨files, .rebuilding last, edits, mark⟩ ⟨changed, .rebuilding last, edits, mark⟩
  /-- A build ends, whatever comes of it, and the tick with it. -/
  | finish {files last edits mark} :
      Step root ⟨files, .rebuilding last, edits, mark⟩ ⟨files, .waiting last, edits, mark⟩

/-- One session can come from another. -/
abbrev Reaches (root : Path) : Session → Session → Prop := Relation.ReflTransGen (Step root)

end Session

open Relation Session

section Scans

variable {root : Path} {files : FileTree} {directory : Path} {latest : Int} {roots : List Path}

theorem looks (found : List Location) :
    ReflTransGen (Scan.Step root files) ⟨latest, found, roots⟩
      ⟨found.foldl (later files) latest, [], roots⟩ := by
  induction found generalizing latest with
  | nil => exact .refl
  | cons place found ih => exact .head .look ih

theorem probe_of_require_error {fault : Fault} (refused : files.require directory = .error fault) :
    (∃ other, files.probe directory = .error other) ∨ files.probe directory = .ok none := by
  unfold FileTree.require at refused
  unfold probe
  split at refused
  · next null => exact Or.inr (if_pos null)
  · next clean =>
      rw [if_neg clean]
      split at refused
      · cases refused
      · next refusal located =>
          rw [located]
          cases refusal
          case nameTooLong => exact Or.inl ⟨_, rfl⟩
          all_goals exact Or.inr rfl

/-- Looking at entries one by one gives the latest of their times. -/
theorem foldl_later {location : Location} {entries : List (List Text × Node)} (base : Path)
    (held : ∀ entry ∈ entries, files.node? (location ++ entry.1) = some entry.2) :
    (entries.filterMap fun
        | (parts, .file _ _) => some (location ++ parts)
        | (_, .directory) => none).foldl (later files) latest =
      (entries.filterMap fun
        | (parts, .file _ modified) => some ((⟨base.anchor, base.parts ++ parts⟩ : Path), modified)
        | (_, .directory) => none).foldl (fun latest file => max latest file.2) latest := by
  induction entries generalizing latest with
  | nil => rfl
  | cons entry entries ih =>
      have rest := fun latest => @ih latest fun other member =>
        held other (List.mem_cons_of_mem _ member)
      have here := held entry List.mem_cons_self
      obtain ⟨parts, ⟨content, modified⟩ | _⟩ := entry
      · have seen : later files latest (location ++ parts) = max latest modified := by
          rw [later, here]
        simpa [seen] using rest (max latest modified)
      · simpa using rest latest

/-- Looking at the files of a directory one by one gives the latest of their times. -/
theorem foldl_listing (wellFormed : files.WellFormed) :
    (listing files directory).foldl (later files) latest =
      match files.filesBelow directory with
      | .error _ => latest
      | .ok found => found.foldl (fun latest file => max latest file.2) latest := by
  unfold listing filesBelow
  cases required : files.require directory with
  | error fault =>
      rcases probe_of_require_error required with ⟨other, probed⟩ | probed
      · rw [probed]
        rfl
      · rw [probed]
        rfl
  | ok location =>
      have held : ∀ entry ∈ files.entriesBelow location,
          files.node? (location ++ entry.1) = some entry.2 := by
        rintro ⟨parts, node⟩ member
        obtain ⟨longer, inside⟩ := mem_entriesBelow.1 member
        exact wellFormed.node?_of_mem inside (by simp [longer])
      have looked := @foldl_later files latest location _ directory held
      rw [probe_of_require required]
      rcases there : files.node? location with _ | ⟨content, modified⟩ | _
      · simp [there, bind, Except.bind, pure, Except.pure]
      · simp [there, bind, Except.bind, pure, Except.pure]
      · simp only [there, if_true, bind, Except.bind, pure, Except.pure]
        exact looked

/-- A look that nothing comes between finds the latest change. -/
theorem scan_latestChange (wellFormed : files.WellFormed) :
    ReflTransGen (Scan.Step root files) (.begin root)
      ⟨latestChange files (watchedRoots root), [], []⟩ := by
  have lists : ∀ (directories : List Path) (latest : Int),
      ReflTransGen (Scan.Step root files) ⟨latest, [], directories⟩
        ⟨directories.foldl (fun latest directory => match files.filesBelow directory with
          | .error _ => latest
          | .ok found => found.foldl (fun latest file => max latest file.2) latest) latest,
          [], []⟩ := by
    intro directories
    induction directories with
    | nil => exact fun latest => .refl
    | cons directory directories ih =>
        intro latest
        have looked := @looks root files latest directories (listing files directory)
        rw [foldl_listing wellFormed] at looked
        exact .head .list (looked.trans (ih _))
  exact lists (watchedRoots root) 0

end Scans

section Running

variable {request : Build.Request} {before after : Workspace} {edits : List Made} {mark last : Int}

/-- The workspace that one run of a rebuild leaves, with what is said before and about its fault. -/
def rebuiltOnce (rebuild : Action Unit) (before : Workspace) : Workspace :=
  match rebuild.perform (before.saying "Rebuilding site...") with
  | (.ok _, after) => after
  | (.error fault, after) => after.reporting ("Build failed: " ++ fault.message)

theorem perform_rebuildSafely (rebuild : Action Unit) (before : Workspace) :
    ∃ succeeded, (rebuildSafely rebuild).perform before =
      (.ok succeeded, rebuiltOnce rebuild before) := by
  have said : (Action.print "Rebuilding site...").perform before =
      (.ok (), before.saying "Rebuilding site...") := rfl
  unfold rebuildSafely rebuiltOnce
  rw [Action.perform_bind, said]
  simp only
  rw [Action.perform_bind, Action.perform_tryCatch, Action.perform_bind]
  rcases rebuild.perform (before.saying "Rebuilding site...") with ⟨fault | value, middle⟩
  · exact ⟨false, rfl⟩
  · exact ⟨true, rfl⟩

/-- A check comes to an end whatever comes of the rebuild, which it runs once or not at all. -/
theorem perform_check (root : Path) (last : Int) (rebuild : Action Unit) (before : Workspace) :
    let current := latestChange before.files (watchedRoots root)
    (check root last rebuild).perform before =
      (.ok (decide (last < current), max last current),
        if last < current then rebuiltOnce rebuild before else before) := by
  intro current
  have asked : (get : Action Workspace).perform before = (.ok before, before) := rfl
  unfold check
  rw [Action.perform_bind, asked]
  show (if current ≤ last then _ else _ : Action (Bool × Int)).perform before = _
  by_cases new : last < current
  · obtain ⟨succeeded, rebuilt⟩ := perform_rebuildSafely rebuild before
    rw [if_neg (not_le.2 new), if_pos new, Action.perform_bind, rebuilt, max_eq_right new.le,
      decide_eq_true new]
    rfl
  · rw [if_pos (not_lt.1 new), if_neg new, max_eq_left (not_lt.1 new), decide_eq_false new]
    rfl

/-- A rebuild of the site leaves the files that the build leaves, with the lines that it says. -/
theorem files_rebuiltOnce_site (request : Build.Request) (before : Workspace) :
    (rebuiltOnce (do let _ ← Build.site request) before).files =
      ((Build.site request).perform (before.saying "Rebuilding site...")).2.files := by
  unfold rebuiltOnce
  rw [Action.perform_bind]
  rcases (Build.site request).perform (before.saying "Rebuilding site...") with
    ⟨fault | report, after⟩
  · rfl
  · rfl

theorem agreeOutside_site (wellFormed : before.files.WellFormed) :
    AgreeOutside (Build.outputLocation request.root before.files) before.files
      ((Build.site request).perform before).2.files := by
  have changes : before.EditsBelow (Build.outputLocation request.root before.files)
      ((Build.site request).perform before).2 := Build.editsBelow_site wellFormed
  exact ⟨changes.here, fun other outside =>
    changes.node?_eq (by simp [Build.outputLocation]) outside⟩

/-- The server starts while nothing else happens. -/
theorem reaches_serving {root : Path} {files : FileTree} (wellFormed : files.WellFormed) :
    let last := latestChange files (watchedRoots root)
    Reaches root ⟨files, .building, edits, mark⟩ ⟨files, .waiting last, edits, last⟩ := by
  have looked := ReflTransGen.lift (fun scan => (⟨files, .starting scan, edits, mark⟩ : Session))
    (fun _ _ step => Step.starting step) _ _ (@scan_latestChange root files wellFormed)
  exact .head .start (looked.tail (.serve ⟨rfl, rfl⟩))

/-- A build with nothing but the start of the server after it is a way that a session can go. -/
theorem reaches_waiting (wellFormed : before.files.WellFormed)
    (built : (Build.site request).Runs before result after) :
    let last := latestChange after.files (watchedRoots request.root)
    Reaches request.root (first before.files) ⟨after.files, .waiting last, [], last⟩ := by
  have confined := @agreeOutside_site request before wellFormed
  have performed : (Build.site request).perform before = (.ok result, after) := built
  rw [performed] at confined
  exact .head (.building confined) (reaches_serving (Build.wellFormed_of_site wellFormed built))

/-- A check without a later change does nothing. -/
theorem check_of_old {root : Path} {rebuild : Action Unit} (wellFormed : before.files.WellFormed)
    (old : latestChange before.files (watchedRoots root) ≤ last) :
    (check root last rebuild).Runs before (false, last) before ∧
      Reaches root ⟨before.files, .waiting last, edits, mark⟩
        ⟨before.files, .waiting last, edits.map Made.tick, mark⟩ := by
  have looked := ReflTransGen.lift
    (fun scan => (⟨before.files, .checking last scan, edits.map Made.tick, mark⟩ : Session))
    (fun _ _ step => Step.checking step) _ _ (@scan_latestChange root _ wellFormed)
  refine ⟨?_, .head .tick (looked.tail (.pass ⟨rfl, rfl⟩ old))⟩
  show (check root last rebuild).perform before = _
  rw [perform_check, if_neg (not_lt.2 old), decide_eq_false (not_lt.2 old), max_eq_left old]

/-- The first tick finds nothing that was there when the server started. -/
theorem reaches_ticked {root : Path} {files : FileTree} (wellFormed : files.WellFormed) :
    let last := latestChange files (watchedRoots root)
    Reaches root ⟨files, .building, edits, mark⟩
      ⟨files, .waiting last, edits.map Made.tick, last⟩ := by
  intro last
  have passes : Reaches root ⟨files, .waiting last, edits, last⟩
      ⟨files, .waiting last, edits.map Made.tick, last⟩ :=
    (@check_of_old { files } edits last last root (pure ()) wellFormed le_rfl).2
  exact (reaches_serving wellFormed).trans passes

/-- A check comes to an end whatever comes of the build, and is a way that a session can go. -/
theorem exists_check (wellFormed : before.files.WellFormed) :
    let current := latestChange before.files (watchedRoots request.root)
    ∃ after, (check request.root last (do let _ ← Build.site request)).Runs before
        (decide (last < current), max last current) after ∧
      Reaches request.root ⟨before.files, .waiting last, edits, mark⟩
        ⟨after.files, .waiting (max last current),
          if last < current then (edits.map Made.tick).map Made.build else edits.map Made.tick,
          mark⟩ := by
  intro current
  refine ⟨_, perform_check request.root last _ before, ?_⟩
  by_cases new : last < current
  · have looked := ReflTransGen.lift
      (fun scan => (⟨before.files, .checking last scan, edits.map Made.tick, mark⟩ : Session))
      (fun _ _ step => Step.checking step) _ _ (@scan_latestChange request.root _ wellFormed)
    have confined := @agreeOutside_site request (before.saying "Rebuilding site...") wellFormed
    rw [← files_rebuiltOnce_site] at confined
    rw [if_pos new, if_pos new, max_eq_right new.le]
    exact .head .tick (looked.trans (.head (.change ⟨rfl, rfl⟩ new) (.head .begin
      (.head (.rebuilding confined) (.single .finish)))))
  · rw [if_neg new, if_neg new, max_eq_left (not_lt.1 new)]
    exact (@check_of_old before edits mark last _ (pure ()) wellFormed (not_lt.1 new)).2

end Running

end Server

end StaticSite
