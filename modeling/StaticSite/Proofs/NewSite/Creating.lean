import StaticSite.NewSite
import StaticSite.Page.Address
import StaticSite.Proofs.FileTree.Holding
import StaticSite.Proofs.Workspace.Making

/-!
# What a new site holds

A new site is made where nothing was before, so it holds the files that are written for it and nothing
else.  That is so if the path of the site does not lead upwards from a directory that is not there yet.
-/

namespace StaticSite

namespace NewSite

open StaticSite.Action FileTree

variable {before middle after : Workspace} {parent site : Path} {location place : Location}
  {name text file : Text} {folder : Text} {inner : List Text}
  {entries : List (Location × Node)} {clock : Int} {value : Unit}

/-- The name of the template of a new site. -/
def templateName : Text := "default.html"

/-- What a new site holds, with the time at which it was made. -/
def contents (name : Text) (clock : Int) : List (Location × Node) := [
  ([], .directory),
  ([Config.defaultName], .file (Utf8.encode (configuration name)) clock),
  ([Context.componentsName], .directory),
  ([Context.templatesName], .directory),
  ([Context.templatesName, templateName], .file (Utf8.encode template) clock),
  ([Context.sourceName], .directory),
  ([Context.sourceName, Page.indexName], .file (Utf8.encode (indexPage name)) clock)]

/-- No path of a new site and of what is built from it is longer than that of the template. -/
theorem length_below_le (site : Path)
    (short : (Utf8.encode folder).length + (Utf8.encode file).length ≤ 21) :
    (Utf8.encode ((site.child folder).child file).text).length ≤
      (Utf8.encode ((site.child Context.templatesName).child templateName).text).length := by
  have longest : (Utf8.encode Context.templatesName).length + (Utf8.encode templateName).length =
      21 := by decide
  exact Path.length_encode_text_child_le site (short.trans_eq longest.symm)

theorem length_child_le (site : Path) (short : (Utf8.encode folder).length ≤ 11) :
    (Utf8.encode (site.child folder).text).length ≤
      (Utf8.encode ((site.child Context.templatesName).child templateName).text).length := by
  have index : (Utf8.encode Page.indexName).length = 10 := by decide
  have below : (Utf8.encode folder).length + (Utf8.encode Page.indexName).length ≤ 21 := by omega
  exact (Path.length_encode_text_le (site.child folder) (by decide)).trans (length_below_le site below)

/-- A site that is being made. -/
structure Stage (site : Path) (location : Location) (clock : Int)
    (entries : List (Location × Node)) (workspace : Workspace) : Prop where
  clock : workspace.clock = clock
  wellFormed : workspace.files.WellFormed
  opens : workspace.files.Opens site location
  holds : workspace.files.Holds location entries

theorem Stage.congr (stage : Stage site location clock entries before)
    (same : after.clock = before.clock) (files : after.files = before.files) :
    Stage site location clock entries after := by
  refine ⟨same.trans stage.clock, ?_, ?_, ?_⟩ <;> rw [files]
  · exact stage.wellFormed
  · exact stage.opens
  · exact stage.holds

/-- Every path that leads somewhere still leads there. -/
def Leads (before after : Workspace) : Prop :=
  ∀ path location, before.files.require path = .ok location →
    after.files.require path = .ok location

/-- Making a new directory in one that holds something adds an entry. -/
theorem holds_of_reaches (holds : before.files.Holds location entries)
    (top : lookup [] entries = some .directory)
    (reaches : Reaches before after (site.child file) (location ++ [file])) :
    after.files.Holds location (setEntry [file] .directory entries) := by
  intro parts
  rw [lookup_setEntry]
  by_cases here : parts = [file]
  · rw [if_pos here, here, reaches.opens.2]
  · rw [if_neg here]
    by_cases root : parts = []
    · rw [root, List.append_nil, top]
      have held := holds []
      rw [List.append_nil, top] at held
      exact reaches.kept held
    · rw [reaches.elsewhere, holds]
      rw [List.prefix_append_right_inj, List.prefix_cons_iff]
      rintro (none | ⟨rest, whole, last⟩)
      · exact root none
      · exact here (by rw [whole, List.prefix_nil.1 last])

/-- A path leads on from a directory that is there, by names of what is below. -/
def Descends (files : FileTree) (path : Path) : Prop :=
  ∃ base location names, files.Opens base location ∧ (∀ part ∈ names, IsName part) ∧
    path = base.extend names

/-- The path of a site does that if it is made in a directory under a name that does not lead
upwards. -/
theorem descends_of_opens {files : FileTree} (opens : files.Opens parent place)
    (down : ∀ part ∈ (Path.parse name).parts, part ≠ ['.', '.'] ∧ '\x00' ∉ part) :
    Descends files (parent.append (Path.parse name)) := by
  have areNames : ∀ part ∈ (Path.parse name).parts, IsName part := fun part member =>
    Path.isName_of_parse member (down part member).1 (down part member).2
  unfold Path.append
  split
  · exact ⟨parent, place, _, opens, areNames, rfl⟩
  · next other =>
      refine ⟨⟨(Path.parse name).anchor, []⟩, [], _, ⟨?_, node?_nil files⟩, areNames, rfl⟩
      have start : (if (Path.parse name).anchor = .here then files.here else []) = [] :=
        if_neg other
      refine require_eq_ok_iff.2 ⟨rfl, locate_eq_ok_iff.2 ⟨?_, ?_⟩⟩
      · cases (Path.parse name).anchor <;> decide
      · rw [start]
        rfl

theorem runs_create_iff :
    Runs (create parent name) before site after ↔
      name ≠ [] ∧ site = parent.append (Path.parse name) ∧ before.files.exists? site = .ok false ∧
        ∃ first second third,
          Runs (writeText (site.child Config.defaultName) (configuration name)) before () first ∧
          Runs (makeDirectory (site.child Context.componentsName)) first () second ∧
          Runs (writeText ((site.child Context.templatesName).child templateName) template)
            second () third ∧
          Runs (writeText ((site.child Context.sourceName).child Page.indexName) (indexPage name))
            third () after := by
  unfold create
  constructor
  · intro created
    split at created
    · obtain ⟨_, _, thrown, -⟩ := runs_bind.1 created
      exact absurd thrown not_runs_throw
    · next named =>
        obtain ⟨answer, _, asked, created⟩ := runs_bind.1 created
        obtain ⟨known, rfl⟩ := runs_inspect.1 asked
        split at created
        · obtain ⟨_, _, thrown, -⟩ := runs_bind.1 created
          exact absurd thrown not_runs_throw
        · next fresh =>
            simp only [runs_bind] at created
            obtain ⟨_, first, one, _, second, two, _, third, three, _, last, four, made⟩ := created
            obtain ⟨rfl, rfl⟩ := runs_pure.1 made
            refine ⟨by simpa using named, rfl, ?_, first, second, third, one, two, three, four⟩
            rw [known, Bool.eq_false_iff.2 fresh]
  · rintro ⟨named, rfl, fresh, first, second, third, one, two, three, four⟩
    rw [if_neg (by simpa using named)]
    refine runs_bind.2 ⟨false, before, runs_inspect.2 ⟨fresh, rfl⟩, ?_⟩
    rw [if_neg (by decide)]
    simp only [runs_bind]
    exact ⟨(), first, one, (), second, two, (), third, three, (), after, four, rfl⟩

/-- Writing a file adds its entry. -/
theorem Stage.edited (stage : Stage site location clock entries before) (text : Text)
    (directory : before.files.node? (location ++ inner) = some .directory) (isName : IsName file)
    (free : before.files.node? (location ++ inner ++ [file]) ≠ some .directory) :
    Stage site location clock (setEntry (inner ++ [file]) (.file (Utf8.encode text) clock) entries)
      (before.edited (.write (location ++ inner ++ [file]) (Utf8.encode text) clock)) ∧
    Leads before (before.edited (.write (location ++ inner ++ [file]) (Utf8.encode text) clock)) := by
  have within : location ++ inner ++ [file] ≠ [] := by simp
  have same := SameDirectories.set_file within free (Utf8.encode text) clock
  have formed : (before.files.set (location ++ inner ++ [file])
      (.file (Utf8.encode text) clock)).WellFormed :=
    stage.wellFormed.set directory isName fun other => absurd other free
  refine ⟨⟨stage.clock, formed, same.opens stage.opens, ?_⟩, fun path place => same.require⟩
  rw [Workspace.edited_files, List.append_assoc]
  exact stage.holds.set (by simp)

theorem Stage.edited_child (stage : Stage site location clock entries before) (text : Text)
    (isName : IsName file) (free : before.files.node? (location ++ [file]) ≠ some .directory) :
    Stage site location clock (setEntry [file] (.file (Utf8.encode text) clock) entries)
      (before.edited (.write (location ++ [file]) (Utf8.encode text) clock)) := by
  have top : before.files.node? (location ++ []) = some .directory := by
    rw [List.append_nil]
    exact stage.opens.2
  have edited := (stage.edited text top isName (by rwa [List.append_nil])).1
  rwa [List.append_nil] at edited

theorem Stage.write (stage : Stage site location clock entries before) (isName : IsName file)
    (ran : Runs (writeText (site.child file) text) before value after) :
    Stage site location clock (setEntry [file] (.file (Utf8.encode text) clock) entries) after := by
  obtain ⟨-, free, rfl⟩ := runs_writeText_child stage.opens isName ran
  rw [stage.clock]
  exact stage.edited_child text isName free

/-- A new directory of the site adds its entry. -/
theorem Stage.reaches (stage : Stage site location clock entries before)
    (reaches : Reaches before after (site.child folder) (location ++ [folder])) :
    Stage site location clock (setEntry [folder] .directory entries) after := by
  have top : lookup [] entries = some .directory := by
    rw [← stage.holds [], List.append_nil, stage.opens.2]
  exact ⟨reaches.clock.trans stage.clock, reaches.wellFormed, reaches.keeps stage.opens,
    holds_of_reaches stage.holds top reaches⟩

/-- A file is written into a directory of the site, which is made if it is missing. -/
theorem Stage.writeBelow (stage : Stage site location clock entries before)
    (isFolder : IsName folder) (isName : IsName file)
    (ran : Runs (writeText ((site.child folder).child file) text) before value after) :
    Stage site location clock (setEntry [folder, file] (.file (Utf8.encode text) clock)
      (setEntry [folder] .directory entries)) after ∧
    Leads before after ∧
    after.files.require ((site.child folder).child file) = .ok (location ++ [folder, file]) := by
  have child : site.child folder = site.extend [folder] := by simp [Path.child, Path.extend]
  rw [child] at ran
  obtain ⟨middle, reaches, -, required, free, rfl⟩ :=
    reaches_writeText stage.wellFormed stage.opens (by simpa using isFolder) isName ran
  rw [← child] at reaches required
  obtain ⟨written, leads⟩ :=
    (stage.reaches reaches).edited text reaches.opens.2 isName free
  rw [stage.clock]
  refine ⟨written, fun path place led => leads _ _ (reaches.require led), ?_⟩
  rw [leads _ _ required, List.append_assoc]
  rfl

/-- The first file of a site is written where nothing was before. -/
theorem exists_stage (wellFormed : before.files.WellFormed) (descends : Descends before.files site)
    (fresh : before.files.exists? site = .ok false) (isName : IsName file)
    (ran : Runs (writeText (site.child file) text) before value after) :
    ∃ location, Stage site location before.clock
      [([], .directory), ([file], .file (Utf8.encode text) before.clock)] after := by
  obtain ⟨base, start, names, based, areNames, rfl⟩ := descends
  obtain ⟨middle, reaches, was, -, free, rfl⟩ :=
    reaches_writeText wellFormed based areNames isName ran
  have missing : before.files.node? (start ++ names) = none := by
    rcases was with opened | missing
    · cases fresh.symm.trans (exists?_of_opens opened)
    · exact missing
  have empty := (Cleared.of_missing wellFormed missing).node?
  have holds : middle.files.Holds (start ++ names) [([], .directory)] := by
    intro parts
    by_cases root : parts = []
    · rw [root, List.append_nil, reaches.opens.2]
      rfl
    · have apart : ¬ start ++ names ++ parts <+: start ++ names := by
        intro inside
        have short := inside.length_le
        have longer := List.length_pos_iff.2 root
        simp only [List.length_append] at short
        omega
      rw [reaches.elsewhere _ apart, empty, if_pos (List.prefix_append _ _), lookup,
        if_neg (Ne.symm root), lookup]
  have stage : Stage (base.extend names) (start ++ names) before.clock [([], .directory)] middle :=
    ⟨reaches.clock, reaches.wellFormed, reaches.opens, holds⟩
  exact ⟨_, stage.edited_child text isName free⟩

/-- A site can be made in a directory under a name that nothing has there, if the path of its template
is not too long. -/
theorem exists_created (wellFormed : before.files.WellFormed) (opens : before.files.Opens parent place)
    (isName : IsName name) (alone : Path.parse name = ⟨.here, [name]⟩)
    (missing : before.files.node? (place ++ [name]) = none)
    (short : (Utf8.encode name).length ≤ longestName)
    (fits : (Utf8.encode (((parent.child name).child Context.templatesName).child
      templateName).text).length ≤ longestPath) :
    ∃ made, Runs (create parent name) before (parent.child name) made := by
  have whole : parent.append (Path.parse name) = parent.child name := by
    rw [alone]
    rfl
  have descends : Descends before.files (parent.child name) :=
    ⟨parent, place, [name], opens, by simpa using isName, rfl⟩
  have child : ∀ {folder : Text}, (Utf8.encode folder).length ≤ 11 →
      (Utf8.encode ((parent.child name).child folder).text).length ≤ longestPath :=
    fun less => (length_child_le _ less).trans fits
  have fresh : before.files.exists? (parent.child name) = .ok false := by
    have led : before.files.require (parent.child name) = .ok (place ++ [name]) :=
      opens.require_child isName short
        ((Path.length_encode_text_le (parent.child name) (by decide)).trans
          (child (show (Utf8.encode Page.indexName).length ≤ 11 by decide)))
    rw [exists?, probe_of_require led, missing]
    rfl
  obtain ⟨first, one⟩ : ∃ first, Runs (writeText ((parent.child name).child Config.defaultName)
      (configuration name)) before () first :=
    exists_writeText wellFormed opens isName (by decide) missing short (by decide) (child (by decide))
  obtain ⟨location, begun⟩ := exists_stage wellFormed descends fresh (by decide) one
  have two : Runs (makeDirectory ((parent.child name).child Context.componentsName)) first () _ :=
    runs_makeDirectory.2 ⟨_, begun.opens.require_child (by decide) (by decide) (child (by decide)),
      begun.holds _, rfl⟩
  obtain ⟨reaches, -⟩ := reaches_makeDirectory begun.wellFormed begun.opens (by decide) two
  have second := begun.reaches reaches
  obtain ⟨third, three⟩ : ∃ third, Runs (writeText (((parent.child name).child
      Context.templatesName).child templateName) template) _ () third :=
    exists_writeText second.wellFormed second.opens (by decide) (by decide) (second.holds _)
      (by decide) (by decide) fits
  obtain ⟨templated, -⟩ := second.writeBelow (by decide) (by decide) three
  obtain ⟨made, four⟩ : ∃ made, Runs (writeText (((parent.child name).child
      Context.sourceName).child Page.indexName) (indexPage name)) third () made :=
    exists_writeText templated.wellFormed templated.opens (by decide) (by decide) (templated.holds _)
      (by decide) (by decide) ((length_below_le _ (by decide)).trans fits)
  exact ⟨made, runs_create_iff.2 ⟨isName.1, whole.symm, fresh, first, _, third, one, two, three, four⟩⟩

/-- A new site that has been made and not been changed.  Of the paths in it that of the template is
the longest. -/
structure Made (site : Path) (location : Location) (name : Text) (clock : Int)
    (workspace : Workspace) : Prop extends
    Stage site location clock (contents name clock) workspace where
  template : workspace.files.require ((site.child Context.templatesName).child templateName) =
    .ok (location ++ [Context.templatesName, templateName])

/-- A site that is made below a directory that is there holds what was written for it and nothing
else. -/
theorem exists_made (wellFormed : before.files.WellFormed) (descends : Descends before.files site)
    (created : Runs (create parent name) before site after) :
    ∃ location, Made site location name before.clock after := by
  obtain ⟨-, -, fresh, first, second, third, one, two, three, four⟩ :=
    runs_create_iff.1 created
  obtain ⟨location, begun⟩ := exists_stage wellFormed descends fresh (by decide) one
  obtain ⟨reaches, -⟩ := reaches_makeDirectory begun.wellFormed begun.opens (by decide) two
  obtain ⟨templated, -, led⟩ :=
    (begun.reaches reaches).writeBelow (by decide) (by decide) three
  obtain ⟨sourced, leads, -⟩ := templated.writeBelow (by decide) (by decide) four
  exact ⟨location, sourced, leads _ _ led⟩

end NewSite

end StaticSite
