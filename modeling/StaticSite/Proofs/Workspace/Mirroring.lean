import StaticSite.Proofs.FileTree.Contents
import StaticSite.Proofs.Text.LineEnds
import StaticSite.Proofs.Workspace.Mimicking
import StaticSite.Proofs.Workspace.Writing

/-!
# Workspaces that mirror each other

Below a location the second workspace holds the files of the first one, except for some that it
lacks.  Both have the directories of one tree, which stays the same while files are written and
removed, so a path leads to the same location in both.
-/

namespace StaticSite

open StaticSite.Action FileTree

/-- Below a location a workspace mirrors another one, except for the files that it lacks and for
the line ends of those that vary.  Of what is lacking the other one has nothing or what the tree
has, in which all directories are. -/
structure Mirror (tree : FileTree) (origin : Location) (lacks varies : List Text → Prop)
    (first second : Workspace) : Prop where
  firstFormed : first.files.WellFormed
  secondFormed : second.files.WellFormed
  firstSame : SameDirectories tree first.files
  secondSame : SameDirectories tree second.files
  programs : second.programs = first.programs
  convert : second.convert = first.convert
  shared : ∀ parts, ¬ lacks parts → ¬ varies parts →
    second.files.content? (origin ++ parts) = first.files.content? (origin ++ parts)
  alike : ∀ parts, ¬ lacks parts → Option.Rel Utf8.ReadAlike
    (first.files.content? (origin ++ parts)) (second.files.content? (origin ++ parts))
  absent : ∀ parts, lacks parts → second.files.content? (origin ++ parts) = none
  known : ∀ parts, lacks parts → first.files.content? (origin ++ parts) = none ∨
    first.files.content? (origin ++ parts) = tree.content? (origin ++ parts)

namespace Mirror

variable {tree : FileTree} {origin : Location} {lacks varies : List Text → Prop}
  {first second : Workspace} {parts : List Text} {base : Path} {folder : List Text}
  {name text : Text}

theorem sameDirectories (mirror : Mirror tree origin lacks varies first second) :
    SameDirectories first.files second.files :=
  mirror.firstSame.symm.trans mirror.secondSame

/-- The directories of the tree are no deeper than either workspace. -/
theorem nestedWithin_min (mirror : Mirror tree origin lacks varies first second) :
    tree.NestedWithin (min first.files.depth second.files.depth) := by
  intro location directory
  have one := mirror.firstSame.symm.nestedWithin (nestedWithin_depth _) location directory
  have two := mirror.secondSame.symm.nestedWithin (nestedWithin_depth _) location directory
  exact le_min one two

theorem isSome_eq (mirror : Mirror tree origin lacks varies first second) (shown : ¬ lacks parts) :
    (second.files.content? (origin ++ parts)).isSome =
      (first.files.content? (origin ++ parts)).isSome :=
  have same : ∀ {one two : Option Bytes}, Option.Rel Utf8.ReadAlike one two →
      two.isSome = one.isSome := fun alike => by cases alike <;> rfl
  same (mirror.alike parts shown)

theorem hasFile_iff (mirror : Mirror tree origin lacks varies first second)
    (shown : ¬ lacks parts) :
    second.files.HasFile (origin ++ parts) ↔ first.files.HasFile (origin ++ parts) := by
  rw [← isSome_content?_iff, ← isSome_content?_iff, mirror.isSome_eq shown]

/-- Nothing is lacked any more once it is gone from the first workspace. -/
theorem complete (mirror : Mirror tree origin lacks varies first second)
    (gone : ∀ parts, lacks parts → first.files.content? (origin ++ parts) = none) :
    Mirror tree origin (fun _ => False) varies first second where
  __ := mirror
  shared parts _ uniform := by
    by_cases lacked : lacks parts
    · rw [mirror.absent parts lacked, gone parts lacked]
    · exact mirror.shared parts lacked uniform
  alike parts _ := by
    by_cases lacked : lacks parts
    · rw [mirror.absent parts lacked, gone parts lacked]
      exact .none
    · exact mirror.alike parts lacked
  absent _ := False.elim
  known _ := False.elim

theorem saying (mirror : Mirror tree origin lacks varies first second) (line : Text) :
    Mirror tree origin lacks varies (first.saying line) (second.saying line) :=
  { mirror with }

section Edits

variable (mirror : Mirror tree origin lacks varies first second)
  (directory : tree.node? (origin ++ folder) = some .directory) (isName : IsName name)
include mirror

include directory isName in
/-- Both workspaces may write a file that is not lacked. -/
theorem write (shown : ¬ lacks (folder ++ [name]))
    (free : first.files.node? (origin ++ (folder ++ [name])) ≠ some .directory) (content : Bytes)
    (firstTime secondTime : Int) :
    Mirror tree origin lacks varies
      (first.edited (.write (origin ++ (folder ++ [name])) content firstTime))
      (second.edited (.write (origin ++ (folder ++ [name])) content secondTime)) := by
  have within : origin ++ (folder ++ [name]) ≠ [] := by simp
  have alsoFree : second.files.node? (origin ++ (folder ++ [name])) ≠ some .directory :=
    fun taken => free ((mirror.sameDirectories.directory_iff _).1 taken)
  have formed : ∀ workspace : Workspace, workspace.files.WellFormed →
      SameDirectories tree workspace.files →
      workspace.files.node? (origin ++ (folder ++ [name])) ≠ some .directory → ∀ time,
      (workspace.files.set (origin ++ (folder ++ [name])) (.file content time)).WellFormed := by
    intro workspace wellFormed same open_ time
    rw [← List.append_assoc] at open_ ⊢
    exact wellFormed.set ((same.directory_iff _).2 directory) isName fun taken => absurd taken open_
  refine ⟨formed first mirror.firstFormed mirror.firstSame free firstTime,
    formed second mirror.secondFormed mirror.secondSame alsoFree secondTime,
    mirror.firstSame.trans (SameDirectories.set_file within free content firstTime),
    mirror.secondSame.trans (SameDirectories.set_file within alsoFree content secondTime),
    mirror.programs, mirror.convert, ?_, ?_, ?_, ?_⟩
  · intro parts also uniform
    rw [Workspace.edited_files, Workspace.edited_files, FileTree.apply, FileTree.apply,
      content?_set_file within, content?_set_file within, mirror.shared parts also uniform]
  · intro parts also
    rw [Workspace.edited_files, Workspace.edited_files, FileTree.apply, FileTree.apply,
      content?_set_file within, content?_set_file within]
    split
    · exact .some (Utf8.readAlike_refl content)
    · exact mirror.alike parts also
  · intro parts lacked
    rw [Workspace.edited_files, FileTree.apply, content?_set_file within, if_neg]
    · exact mirror.absent parts lacked
    · exact fun same => shown (List.append_cancel_left same ▸ lacked)
  · intro parts lacked
    rw [Workspace.edited_files, FileTree.apply, content?_set_file within, if_neg]
    · exact mirror.known parts lacked
    · exact fun same => shown (List.append_cancel_left same ▸ lacked)

/-- Both workspaces may remove a file. -/
theorem remove (file : first.files.HasFile (origin ++ (folder ++ [name]))) :
    Mirror tree origin lacks varies (first.edited (.remove (origin ++ (folder ++ [name]))))
      (second.edited (.remove (origin ++ (folder ++ [name])))) := by
  have within : origin ++ (folder ++ [name]) ≠ [] := by simp
  have closed := file.ne_directory
  have alsoClosed : second.files.node? (origin ++ (folder ++ [name])) ≠ some .directory :=
    fun taken => closed ((mirror.sameDirectories.directory_iff _).1 taken)
  refine ⟨mirror.firstFormed.erase within closed, mirror.secondFormed.erase within alsoClosed,
    mirror.firstSame.trans (SameDirectories.erase_file within closed),
    mirror.secondSame.trans (SameDirectories.erase_file within alsoClosed),
    mirror.programs, mirror.convert, ?_, ?_, ?_, ?_⟩
  · intro parts also uniform
    rw [Workspace.edited_files, Workspace.edited_files, FileTree.apply, FileTree.apply,
      content?_erase within, content?_erase within, mirror.shared parts also uniform]
  · intro parts also
    rw [Workspace.edited_files, Workspace.edited_files, FileTree.apply, FileTree.apply,
      content?_erase within, content?_erase within]
    split
    · exact .none
    · exact mirror.alike parts also
  · intro parts lacked
    rw [Workspace.edited_files, FileTree.apply, content?_erase within, mirror.absent parts lacked,
      ite_self]
  · intro parts lacked
    rw [Workspace.edited_files, FileTree.apply, content?_erase within]
    split
    · exact Or.inl rfl
    · exact mirror.known parts lacked

/-- The first workspace may remove what the second one lacks. -/
theorem forget (lacked : lacks (folder ++ [name]))
    (file : first.files.HasFile (origin ++ (folder ++ [name]))) :
    Mirror tree origin lacks varies (first.edited (.remove (origin ++ (folder ++ [name]))))
      second := by
  have within : origin ++ (folder ++ [name]) ≠ [] := by simp
  have closed := file.ne_directory
  refine ⟨mirror.firstFormed.erase within closed, mirror.secondFormed,
    mirror.firstSame.trans (SameDirectories.erase_file within closed), mirror.secondSame,
    mirror.programs, mirror.convert, ?_, ?_, mirror.absent, ?_⟩
  · intro parts also
    rw [Workspace.edited_files, FileTree.apply, content?_erase within, if_neg]
    · exact mirror.shared parts also
    · exact fun same => also (List.append_cancel_left same ▸ lacked)
  · intro parts also
    rw [Workspace.edited_files, FileTree.apply, content?_erase within, if_neg]
    · exact mirror.alike parts also
    · exact fun same => also (List.append_cancel_left same ▸ lacked)
  · intro parts also
    rw [Workspace.edited_files, FileTree.apply, content?_erase within]
    split
    · exact Or.inl rfl
    · exact mirror.known parts also

end Edits

/-- The second workspace has the names of the first one, except for those that it lacks. -/
theorem names_eq (mirror : Mirror tree origin lacks varies first second) {keeps : Text → Bool}
    (closed : ∀ parts, lacks parts → tree.node? (origin ++ parts) ≠ some .directory)
    (kept : ∀ name, keeps name = true ↔ ¬ lacks (folder ++ [name])) :
    second.files.names (origin ++ folder) =
      (first.files.names (origin ++ folder)).filter keeps := by
  apply names_eq_filter mirror.firstFormed mirror.secondFormed
  intro name
  rw [List.append_assoc, kept, node?_ne_none_iff, node?_ne_none_iff,
    mirror.sameDirectories.directory_iff]
  by_cases lacked : lacks (folder ++ [name])
  · have noDirectory : first.files.node? (origin ++ (folder ++ [name])) ≠ some .directory :=
      fun directory => closed _ lacked ((mirror.firstSame.directory_iff _).1 directory)
    simp [lacked, noDirectory, mirror.absent _ lacked]
  · rw [← Option.isSome_iff_ne_none, ← Option.isSome_iff_ne_none, mirror.isSome_eq lacked,
      and_iff_left lacked]

/-- What is done with the names in a directory mimics what is done with all of them if it makes
no use of those that are lacked. -/
theorem mimics_children {α : Type} {next later : List Path → Action α}
    (opens : tree.Opens (base.extend folder) (origin ++ folder))
    (closed : ∀ parts, lacks parts → tree.node? (origin ++ parts) ≠ some .directory)
    (listed : ∀ (keeps : Text → Bool) (names : List Text), (∀ name ∈ names, IsName name) →
      (∀ name, keeps name = true ↔ ¬ lacks (folder ++ [name])) →
      Mimics (Mirror tree origin lacks varies)
        (next (names.map fun name => base.extend (folder ++ [name])))
        (later ((names.filter keeps).map fun name => base.extend (folder ++ [name])))) :
    Mimics (Mirror tree origin lacks varies) (inspect (·.children (base.extend folder)) >>= next)
      (inspect (·.children (base.extend folder)) >>= later) := by
  classical
  intro first second value after mirror ran
  have kept : ∀ name, decide (¬ lacks (folder ++ [name])) = true ↔ ¬ lacks (folder ++ [name]) :=
    fun name => decide_eq_true_iff
  have listing : ∀ workspace : Workspace, SameDirectories tree workspace.files →
      workspace.files.children (base.extend folder) =
        .ok ((workspace.files.names (origin ++ folder)).map
          fun name => base.extend (folder ++ [name])) := by
    intro workspace same
    rw [(same.opens opens).children_eq, Path.child_extend_eq]
  obtain ⟨children, _, asked, ran⟩ := runs_bind.1 ran
  obtain ⟨answered, rfl⟩ := runs_inspect.1 asked
  rw [listing first mirror.firstSame, Except.ok.injEq] at answered
  subst answered
  obtain ⟨last, finished, mirrored⟩ :=
    listed _ _ (mirror.firstFormed.areNames (origin ++ folder)) kept _ _ _ _ mirror ran
  rw [← mirror.names_eq closed kept] at finished
  exact ⟨last, runs_bind.2 ⟨_, second, runs_inspect.2 ⟨listing second mirror.secondSame, rfl⟩,
    finished⟩, mirrored⟩

theorem mimics_print (line : Text) :
    Mimics (Mirror tree origin lacks varies) (print line) (print line) := by
  intro first second value after mirror ran
  rw [runs_print_iff.1 ran]
  exact ⟨_, runs_print_iff.2 rfl, mirror.saying line⟩

section Actions

variable (opens : tree.Opens (base.extend folder) (origin ++ folder)) (isName : IsName name)
include opens isName

theorem mimics_isDirectory :
    Mimics (Mirror tree origin lacks varies)
      (inspect (·.isDirectory (base.extend (folder ++ [name]))))
      (inspect (·.isDirectory (base.extend (folder ++ [name])))) := by
  apply mimics_inspect
  intro first second answer mirror asked
  rw [← Path.child_extend] at asked ⊢
  rwa [mirror.sameDirectories.isDirectory_child (mirror.firstSame.opens opens) isName]

/-- What is found to be a directory opens. -/
theorem opens_of_yields
    (asked : Yields (Mirror tree origin lacks varies)
      (inspect (·.isDirectory (base.extend (folder ++ [name])))) true) :
    tree.Opens (base.extend (folder ++ [name])) (origin ++ (folder ++ [name])) := by
  obtain ⟨first, second, after, mirror, ran⟩ := asked
  obtain ⟨answered, rfl⟩ := runs_inspect.1 ran
  have here := mirror.firstSame.opens opens
  rw [← Path.child_extend] at answered ⊢
  obtain ⟨required, directory⟩ := here.isDirectory_child isName answered
  rw [← List.append_assoc]
  exact mirror.firstSame.symm.opens ⟨required, directory.1 rfl⟩

variable (shown : ¬ lacks (folder ++ [name]))
include shown

theorem mimics_isFile :
    Mimics (Mirror tree origin lacks varies) (inspect (·.isFile (base.extend (folder ++ [name]))))
      (inspect (·.isFile (base.extend (folder ++ [name])))) := by
  apply mimics_inspect
  intro first second answer mirror asked
  have held := mirror.isSome_eq shown
  rw [← List.append_assoc] at held
  rw [← Path.child_extend] at asked ⊢
  rwa [mirror.sameDirectories.isFile_child_of_isSome (mirror.firstSame.opens opens) isName held]

/-- What a file says is read alike. -/
theorem exists_read {content : Bytes} (mirror : Mirror tree origin lacks varies first second)
    (read : first.files.read (base.extend (folder ++ [name])) = .ok content) :
    ∃ other, second.files.read (base.extend (folder ++ [name])) = .ok other ∧
      Utf8.ReadAlike content other := by
  have held := mirror.alike _ shown
  rw [← List.append_assoc] at held
  rw [← Path.child_extend] at read ⊢
  exact mirror.sameDirectories.exists_read_child (mirror.firstSame.opens opens) isName held read

theorem mimics_readText :
    Mimics (Mirror tree origin lacks varies) (readText (base.extend (folder ++ [name])))
      (readText (base.extend (folder ++ [name]))) := by
  intro first second text after mirror ran
  obtain ⟨content, plain, read, decoded, rfl, rfl⟩ := runs_readText_iff.1 ran
  obtain ⟨other, again, alike⟩ := exists_read opens isName shown mirror read
  obtain ⟨also, reread, same⟩ := alike.plain plain decoded
  exact ⟨second, runs_readText_iff.2 ⟨other, also, again, reread, same.symm, rfl⟩, mirror⟩

theorem mimics_readMarkedText :
    Mimics (Mirror tree origin lacks varies) (readMarkedText (base.extend (folder ++ [name])))
      (readMarkedText (base.extend (folder ++ [name]))) := by
  intro first second text after mirror ran
  obtain ⟨content, plain, read, decoded, rfl, rfl⟩ := runs_readMarkedText_iff.1 ran
  obtain ⟨other, again, alike⟩ := exists_read opens isName shown mirror read
  obtain ⟨also, reread, same⟩ := alike.marked plain decoded
  exact ⟨second, runs_readMarkedText_iff.2 ⟨other, also, again, reread, same.symm, rfl⟩, mirror⟩

theorem mimics_writeText :
    Mimics (Mirror tree origin lacks varies) (writeText (base.extend (folder ++ [name])) text)
      (writeText (base.extend (folder ++ [name])) text) := by
  intro first second value after mirror ran
  rw [← Path.child_extend] at ran ⊢
  have here := mirror.firstSame.opens opens
  obtain ⟨required, free, rfl⟩ := runs_writeText_child here isName ran
  have also := (mirror.sameDirectories.require_child here isName).trans required
  have alsoFree : second.files.node? (origin ++ folder ++ [name]) ≠ some .directory :=
    fun taken => free ((mirror.sameDirectories.directory_iff _).1 taken)
  refine ⟨_, runs_writeText_of_require (mirror.secondSame.opens opens) also alsoFree, ?_⟩
  rw [List.append_assoc] at free ⊢
  exact mirror.write opens.2 isName shown free _ _ _

theorem mimics_removeFile :
    Mimics (Mirror tree origin lacks varies) (removeFile (base.extend (folder ++ [name])))
      (removeFile (base.extend (folder ++ [name]))) := by
  intro first second value after mirror ran
  rw [← Path.child_extend] at ran ⊢
  have here := mirror.firstSame.opens opens
  obtain ⟨target, required, file, rfl⟩ := runs_removeFile ran
  obtain rfl := here.eq_of_require_child isName required
  have also := (mirror.sameDirectories.require_child here isName).trans required
  rw [List.append_assoc] at file also ⊢
  have alsoFile := (mirror.hasFile_iff shown).2 file
  exact ⟨_, runs_removeFile_of_require also alsoFile, mirror.remove file⟩

end Actions

end Mirror

end StaticSite
