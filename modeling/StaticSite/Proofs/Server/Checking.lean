import StaticSite.Proofs.Server.Noticing

/-!
# When a served site is rebuilt

Edits and checks follow one another in any order, and a rebuild may fail.  The last change that the
server has seen is then the latest that any check has found, and a check rebuilds the site once if
it finds a later one, and not at all otherwise.  A build changes nothing that is watched, so it
never calls for another one.
-/

namespace StaticSite

namespace Server

open FileTree

/-- What happens to a served site: its files are changed from outside, or the server checks for
changes, with a rebuild that may fail. -/
inductive Event where
  | edit (edit : Edit)
  | check (rebuild : Action Unit)

/-- A served site with the last change that its server has seen. -/
structure Served where
  workspace : Workspace
  last : Int := 0

/-- The changes from outside among events. -/
def outsideEdits (events : List Event) : List Edit :=
  events.filterMap fun
    | .edit edit => some edit
    | .check _ => none

namespace Served

/-- The latest change that a check finds now. -/
def latest (root : Path) (served : Served) : Int :=
  latestChange served.workspace.files (watchedRoots root)

def next (root : Path) (served : Served) : Event → Served
  | .edit edit => ⟨served.workspace.edited edit, served.last⟩
  | .check rebuild =>
    match (check root served.last rebuild).perform served.workspace with
    | (.ok (_, last), workspace) => ⟨workspace, last⟩
    | (.error _, workspace) => ⟨workspace, served.last⟩

def run (root : Path) (served : Served) (events : List Event) : Served :=
  events.foldl (next root) served

/-- The latest changes that the checks among events find, in their order. -/
def seen (root : Path) : Served → List Event → List Int
  | _, [] => []
  | served, .edit edit :: events => seen root (served.next root (.edit edit)) events
  | served, .check rebuild :: events =>
    served.latest root :: seen root (served.next root (.check rebuild)) events

end Served

section Checks

variable {root : Path} {served : Served} {rebuild : Action Unit}

theorem next_check (root : Path) (served : Served) (rebuild : Action Unit) :
    served.next root (.check rebuild) =
      ⟨if served.last < served.latest root then rebuiltOnce rebuild served.workspace
        else served.workspace, max served.last (served.latest root)⟩ := by
  unfold Served.next
  simp only [perform_check]
  rfl

theorem run_cons (root : Path) (served : Served) (event : Event) (events : List Event) :
    served.run root (event :: events) = (served.next root event).run root events :=
  rfl

/-- The last change that the server has seen is the latest that any check has found. -/
theorem last_run (root : Path) (served : Served) (events : List Event) :
    (served.run root events).last = (served.seen root events).foldl max served.last := by
  induction events generalizing served with
  | nil => rfl
  | cons event events ih =>
      rw [run_cons, ih]
      cases event with
      | edit edit => rfl
      | check rebuild =>
          rw [Served.seen, List.foldl_cons]
          congr 1
          rw [next_check]

/-- As long as no check finds a later change, nothing happens but the changes from outside. -/
theorem run_of_quiet {events : List Event}
    (quiet : ∀ time ∈ served.seen root events, time ≤ served.last) :
    served.run root events =
      ⟨served.workspace.editedAll (outsideEdits events), served.last⟩ := by
  induction events generalizing served with
  | nil => rfl
  | cons event events ih =>
      cases event with
      | edit edit => exact ih quiet
      | check rebuild =>
          rw [Served.seen, List.forall_mem_cons] at quiet
          have still : served.next root (.check rebuild) = served := by
            rw [next_check, if_neg (not_lt.2 quiet.1), max_eq_left quiet.1]
          rw [still] at quiet
          rw [run_cons, still]
          exact ih quiet.2

end Checks

section Builds

variable {root directory : Path} {request : Build.Request} {before after : Workspace}

/-- The later of a time and the latest change below a directory. -/
def latestBelow (files : FileTree) (latest : Int) (directory : Path) : Int :=
  match files.filesBelow directory with
  | .error _ => latest
  | .ok found => found.foldl (fun latest file => max latest file.2) latest

theorem latestChange_eq (files : FileTree) (roots : List Path) :
    latestChange files roots = roots.foldl (latestBelow files) 0 :=
  rfl

theorem le_latestBelow (files : FileTree) (latest : Int) (directory : Path) :
    latest ≤ latestBelow files latest directory := by
  have grows : ∀ (found : List (Path × Int)) (latest : Int),
      latest ≤ found.foldl (fun latest file => max latest file.2) latest := by
    intro found
    induction found with
    | nil => exact fun latest => le_rfl
    | cons file found ih => exact fun latest => (le_max_left _ _).trans (ih _)
  unfold latestBelow
  split
  · exact le_rfl
  · exact grows _ latest

theorem latestBelow_mono {files : FileTree} {first second : Int} (le : first ≤ second) :
    latestBelow files first directory ≤ latestBelow files second directory := by
  have mono : ∀ (found : List (Path × Int)) {first second : Int}, first ≤ second →
      found.foldl (fun latest file => max latest file.2) first ≤
        found.foldl (fun latest file => max latest file.2) second := by
    intro found
    induction found with
    | nil => exact id
    | cons file found ih => exact fun le => ih (max_le_max_right _ le)
  unfold latestBelow
  split
  · exact le
  · exact mono _ le

theorem length_watched (watched : directory ∈ watchedRoots root) :
    ∃ name, IsName name ∧ (Utf8.encode name).length ≤ longestName ∧ directory = root.child name := by
  simp only [watchedRoots, List.mem_cons, List.not_mem_nil, or_false] at watched
  rcases watched with rfl | rfl | rfl
  · exact ⟨Context.sourceName, by decide, by cbv, rfl⟩
  · exact ⟨Context.templatesName, by decide, by cbv, rfl⟩
  · exact ⟨Context.componentsName, by decide, by cbv, rfl⟩

/-- From a directory that opens, a watched one is found unless its path is too long. -/
theorem require_watched {files : FileTree} {place : Location}
    (opens : files.Opens root place) (watched : directory ∈ watchedRoots root)
    (short : (Utf8.encode directory.text).length ≤ longestPath) :
    files.require directory = .ok (directory.resolve files.here) := by
  obtain ⟨name, isName, small, rfl⟩ := length_watched watched
  obtain rfl := eq_resolve_of_require opens.1
  obtain ⟨noNull, located⟩ := require_eq_ok_iff.1 opens.1
  have followed := (locate_eq_ok_iff.1 located).2
  rw [Path.resolve_child _ _ isName]
  refine require_eq_ok_iff.2 ⟨(hasNull_child root isName).trans noNull,
    locate_eq_ok_iff.2 ⟨short, ?_⟩⟩
  show files.follow (if root.anchor = .here then files.here else []) (root.parts ++ [name]) = _
  rw [follow_append, followed]
  show files.follow _ [name] = _
  rw [follow_name opens.2 isName, if_neg (not_lt.2 small)]

/-- What is found below a watched directory after changes of the output was found before. -/
theorem filesBelow_of_editsBelow {place : Location} (opens : before.files.Opens root place)
    (changes : before.EditsBelow (Build.outputLocation root before.files) after)
    (watched : directory ∈ watchedRoots root) {found : List (Path × Int)}
    (listed : after.files.filesBelow directory = .ok found) :
    found = [] ∨ before.files.filesBelow directory = .ok found := by
  have apart : ∀ place, directory.resolve before.files.here <+: place →
      ¬ Build.outputLocation root before.files <+: place := fun _ => apart_of_watched watched
  unfold filesBelow at listed ⊢
  obtain ⟨node, probed, listed⟩ := bind_eq_ok_iff.1 listed
  split at listed
  swap
  · exact Or.inl (Except.ok.inj listed).symm
  obtain ⟨target, required, listed⟩ := bind_eq_ok_iff.1 listed
  have there := Except.ok.inj ((probe_of_require required).symm.trans probed)
  -- Whether a path is too long is seen from its text, so it led there before as well.
  have short := (locate_eq_ok_iff.1 (require_eq_ok_iff.1 required).2).1
  have led := require_watched opens watched short
  obtain rfl : target = directory.resolve before.files.here := by
    rw [eq_resolve_of_require required, changes.here]
  have kept := changes.node?_eq (by simp [Build.outputLocation]) (apart _ (List.prefix_refl _))
  obtain ⟨edits, inside, files⟩ := changes.files
  have same : after.files.entriesBelow (directory.resolve before.files.here) =
      before.files.entriesBelow (directory.resolve before.files.here) := by
    rw [files]
    exact entriesBelow_foldl_apply fun edit member below => apart _ below (inside edit member)
  right
  rw [probe_of_require led, ← kept, there]
  simpa only [bind, Except.bind, led, ← same] using listed

/-- A build makes nothing that a check finds. -/
theorem latestChange_site_le (wellFormed : before.files.WellFormed) :
    latestChange ((Build.site request).perform before).2.files (watchedRoots request.root) ≤
      latestChange before.files (watchedRoots request.root) := by
  by_cases sources : before.files.isDirectory (request.root.child Context.sourceName) = .ok true
  swap
  · obtain ⟨fault, failed⟩ := (Build.TurnedDown.noSource sources).fails_site
    rw [show (Build.site request).perform before = (.error fault, before) from failed]
  obtain ⟨source, opened⟩ := opens_of_isDirectory sources
  obtain ⟨place, rooted, -⟩ := opens_of_require_child Build.isName_sourceName opened.1
  have changes : before.EditsBelow (Build.outputLocation request.root before.files)
      ((Build.site request).perform before).2 := Build.editsBelow_site wellFormed
  rw [latestChange_eq, latestChange_eq]
  refine List.foldl_rel le_rfl fun directory watched first second le => ?_
  suffices below : latestBelow ((Build.site request).perform before).2.files first directory ≤
      latestBelow before.files first directory from below.trans (latestBelow_mono le)
  rw [latestBelow]
  split
  · exact le_latestBelow _ _ _
  · next found listed =>
      rcases filesBelow_of_editsBelow rooted changes watched listed with rfl | same
      · exact le_latestBelow _ _ _
      · rw [latestBelow, same]

theorem latest_next_site_le {served : Served} (wellFormed : served.workspace.files.WellFormed) :
    (served.next request.root (.check (do let _ ← Build.site request))).latest request.root ≤
      max served.last (served.latest request.root) := by
  rw [next_check, Served.latest]
  by_cases new : served.last < served.latest request.root
  · rw [if_pos new, files_rebuiltOnce_site]
    let said := served.workspace.saying "Rebuilding site..."
    exact (@latestChange_site_le request said wellFormed).trans (le_max_right _ _)
  · rw [if_neg new]
    exact le_max_right _ _

end Builds

/-- Whatever edits and checks came before, and whatever the rebuilds did, the last change that the
server has seen is the latest of the first one and those that the checks found.  A check that finds
a later one remembers it and rebuilds once, and another leaves everything as it is; each comes to an
end, also if the rebuild fails.  Until a check finds a later change, only the edits have an effect.
A rebuild that builds the site is not followed by another one, if there is no edit between. -/
theorem checks_follow_changes (root : Path) (start : Served) (events : List Event)
    (rebuild : Action Unit) :
    let served := start.run root events
    let current := served.latest root
    let checked := served.next root (.check rebuild)
    served.last = (start.seen root events).foldl max start.last ∧
    ((check root served.last rebuild).perform served.workspace =
        (.ok (decide (served.last < current), checked.last), checked.workspace) ∧
      checked = if served.last < current then ⟨rebuiltOnce rebuild served.workspace, current⟩
        else served) ∧
    (∀ further : List Event, (∀ time ∈ checked.seen root further, time ≤ checked.last) →
      checked.run root further =
        ⟨checked.workspace.editedAll (outsideEdits further), checked.last⟩) ∧
    ∀ request : Build.Request, request.root = root → served.workspace.files.WellFormed →
      rebuild = (do let _ ← Build.site request) → ∀ again : Action Unit,
        (check root checked.last again).perform checked.workspace =
          (.ok (false, checked.last), checked.workspace) := by
  intro served current checked
  have next : checked = ⟨if served.last < current then rebuiltOnce rebuild served.workspace
      else served.workspace, max served.last current⟩ := next_check root served rebuild
  refine ⟨last_run root start events, ⟨?_, ?_⟩, fun further quiet => run_of_quiet quiet, ?_⟩
  · rw [perform_check, next]
    rfl
  · rw [next]
    by_cases new : served.last < current
    · rw [if_pos new, if_pos new, max_eq_right new.le]
    · rw [if_neg new, if_neg new, max_eq_left (not_lt.1 new)]
  · rintro request rfl wellFormed rfl again
    have still : latestChange checked.workspace.files (watchedRoots request.root) ≤ checked.last :=
      (latest_next_site_le wellFormed).trans_eq (by rw [next])
    rw [perform_check, if_neg (not_lt.2 still), max_eq_left still, decide_eq_false (not_lt.2 still)]

end Server

namespace Server.Example

open Build Build.Example

/-- The server has seen the site without pages, and then a page was written. -/
def served : Served := Served.run request.root ⟨built, 0⟩ [.edit (.write page [72] 7)]

/-- The page is found once, whether the site is built then or the rebuild fails. -/
theorem checks_find_page :
    let rebuild : Action Unit := do let _ ← site request
    let failing : Action Unit := throw (.value [])
    let checked := served.next request.root (.check rebuild)
    let failed := served.next request.root (.check failing)
    served.last < served.latest request.root ∧
      (request.root = request.root ∧ served.workspace.files.WellFormed ∧
        (check request.root checked.last rebuild).perform checked.workspace =
          (.ok (false, checked.last), checked.workspace)) ∧
      (∀ time ∈ failed.seen request.root [.check rebuild, .check failing], time ≤ failed.last) ∧
      failed.run request.root [.check rebuild, .check failing] = ⟨failed.workspace, 7⟩ := by
  intro rebuild failing checked failed
  have wellFormed : served.workspace.files.WellFormed := wellFormed_edited 7
  obtain ⟨-, -, -, still⟩ :=
    checks_follow_changes request.root ⟨built, 0⟩ [.edit (.write page [72] 7)] rebuild
  obtain ⟨-, -, quiet, -⟩ :=
    checks_follow_changes request.root ⟨built, 0⟩ [.edit (.write page [72] 7)] failing
  have seen : ∀ time ∈ failed.seen request.root [.check rebuild, .check failing],
      time ≤ failed.last := by decide
  exact ⟨by decide, ⟨rfl, wellFormed, still request rfl wellFormed rfl rebuild⟩, seen,
    quiet _ seen⟩

end Server.Example

end StaticSite
