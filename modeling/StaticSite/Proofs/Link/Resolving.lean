import StaticSite.Proofs.Text.Splitting
import StaticSite.Server.Url

/-!
# References and where they lead

A reference leads from one address to another: what it leaves out it takes from the address that
it stands at, and segments of dots in its path go away.  A reference that is a path from the root
keeps the scheme and the host of that address and nothing of its path, so it never leads to a
longer address than these two and the reference make.
-/

namespace StaticSite

namespace Link

/-- The parts of an address, or of a reference to one. -/
structure Reference where
  scheme : Option Text := none
  authority : Option Text := none
  path : Text
  query : Option Text := none
  fragment : Option Text := none
  deriving DecidableEq, Repr

/-- A text up to the first occurrence of a mark, and what is behind the mark if there is one. -/
def cutOff (mark : Char) (text : Text) : Text × Option Text :=
  (text.takeWhile (· ≠ mark), (text.dropWhile (· ≠ mark)).tail?)

/-- The scheme that a text begins with, and what is behind it. -/
def splitScheme (text : Text) : Option Text × Text :=
  match cutOff ':' text with
  | (first :: scheme, some rest) =>
    if first.isAlpha && scheme.all Server.isSchemeChar then (some (first :: scheme), rest)
    else (none, text)
  | _ => (none, text)

/-- The authority that a text begins with, behind two slashes, and the path behind it. -/
def splitAuthority : Text → Option Text × Text
  | '/' :: '/' :: text => (some (text.takeWhile (· ≠ '/')), text.dropWhile (· ≠ '/'))
  | text => (none, text)

/-- Whether a segment of a path is no name but a direction: to stay, or to go one up. -/
def isDots (segment : Text) : Bool := segment = ['.'] || segment = ['.', '.']

/-- Walk along segments with a slash in front of each, behind parts of a path that are passed. -/
def walk (passed : List Text) : List Text → List Text
  | [] => passed
  | segment :: segments =>
    if isDots segment then
      let kept := if segment = ['.'] then passed else passed.dropLast
      if segments.isEmpty then kept ++ [['/']] else walk kept segments
    else walk (passed ++ ['/' :: segment]) segments

/-- Follow the segments of dots in a path. -/
def removeDots (path : Text) : Text :=
  match (Text.splitOn (· = '/') path).dropWhile isDots with
  | [] => []
  | first :: segments => (walk [first] segments).flatten

/-- Whether a path has no segment of dots. -/
def Dotless (path : Text) : Prop := ∀ segment ∈ Text.splitOn (· = '/') path, isDots segment = false

instance (path : Text) : Decidable (Dotless path) :=
  inferInstanceAs (Decidable (∀ segment ∈ Text.splitOn (· = '/') path, isDots segment = false))

namespace Reference

def parse (text : Text) : Reference :=
  let (text, fragment) := cutOff '#' text
  let (text, query) := cutOff '?' text
  let (scheme, text) := splitScheme text
  let (authority, path) := splitAuthority text
  ⟨scheme, authority, path, query, fragment⟩

def write (reference : Reference) : Text :=
  reference.scheme.elim [] (· ++ [':']) ++ reference.authority.elim [] ('/' :: '/' :: ·) ++
    reference.path ++ reference.query.elim [] ('?' :: ·) ++ reference.fragment.elim [] ('#' :: ·)

/-- A path that goes on from the last slash of the path of an address. -/
def merge (address : Reference) (path : Text) : Text :=
  if address.authority.isSome && address.path.isEmpty then '/' :: path
  else (address.path.reverse.dropWhile (· ≠ '/')).reverse ++ path

/-- The address that a reference leads to from another one. -/
def resolve (address reference : Reference) : Reference :=
  match reference.scheme, reference.authority with
  | some _, _ => { reference with path := removeDots reference.path }
  | none, some _ =>
    { reference with scheme := address.scheme, path := removeDots reference.path }
  | none, none =>
    if reference.path.isEmpty then
      { address with
        query := reference.query.or address.query
        fragment := reference.fragment }
    else
      let path :=
        if reference.path.head? = some '/' then reference.path else address.merge reference.path
      { address with
        path := removeDots path
        query := reference.query
        fragment := reference.fragment }

end Reference

/-- Where a reference leads from an address. -/
def resolve (address reference : Text) : Text :=
  ((Reference.parse address).resolve (Reference.parse reference)).write

/-- An address with a scheme, a host and a path. -/
structure Address where
  scheme : Text
  host : Text
  path : Text
  isScheme : ∃ first others, scheme = first :: others ∧ first.isAlpha = true ∧
    others.all Server.isSchemeChar = true
  isHost : '/' ∉ host ∧ '?' ∉ host ∧ '#' ∉ host
  isPath : '?' ∉ path ∧ '#' ∉ path
  fromRoot : path.head? = some '/'

def Address.text (address : Address) : Text :=
  address.scheme ++ ':' :: '/' :: '/' :: (address.host ++ address.path)

variable {text rest path segment : Text} {passed segments : List Text} {mark : Char}

theorem all_ne_of_not_mem (absent : mark ∉ text) :
    ∀ character ∈ text, decide (character ≠ mark) = true := by
  intro character member
  simpa using ne_of_mem_of_not_mem member absent

theorem cutOff_write (mark : Char) (text : Text) :
    (cutOff mark text).1 ++ (cutOff mark text).2.elim [] (mark :: ·) = text := by
  induction text with
  | nil => rfl
  | cons character text ih =>
      by_cases same : character = mark
      · simp [cutOff, same]
      · simpa [cutOff, same] using ih

theorem cutOff_of_not_mem (absent : mark ∉ text) : cutOff mark text = (text, none) := by
  have plain := all_ne_of_not_mem absent
  rw [cutOff, List.takeWhile_eq_self_iff.2 plain, List.dropWhile_eq_nil_iff.2 plain]
  rfl

theorem cutOff_append_cons (absent : mark ∉ text) (rest : Text) :
    cutOff mark (text ++ mark :: rest) = (text, some rest) := by
  have plain := all_ne_of_not_mem absent
  rw [cutOff, List.takeWhile_append_of_pos plain, List.dropWhile_append_of_pos plain]
  simp

theorem splitScheme_write (text : Text) :
    (splitScheme text).1.elim [] (· ++ [':']) ++ (splitScheme text).2 = text := by
  unfold splitScheme
  split
  · next first scheme rest cut =>
      split
      · have whole := cutOff_write ':' text
        rw [cut] at whole
        simpa using whole
      · rfl
  · rfl

theorem splitAuthority_write (text : Text) :
    (splitAuthority text).1.elim [] ('/' :: '/' :: ·) ++ (splitAuthority text).2 = text := by
  unfold splitAuthority
  split
  · simp
  · rfl

/-- The parts of a reference are all that it is written of. -/
theorem write_parse (text : Text) : (Reference.parse text).write = text := by
  have scheme := splitScheme_write (cutOff '?' (cutOff '#' text).1).1
  have authority := splitAuthority_write (splitScheme (cutOff '?' (cutOff '#' text).1).1).2
  calc (Reference.parse text).write
      = ((splitScheme (cutOff '?' (cutOff '#' text).1).1).1.elim [] (· ++ [':']) ++
          ((splitAuthority (splitScheme (cutOff '?' (cutOff '#' text).1).1).2).1.elim []
              ('/' :: '/' :: ·) ++
            (splitAuthority (splitScheme (cutOff '?' (cutOff '#' text).1).1).2).2)) ++
          (cutOff '?' (cutOff '#' text).1).2.elim [] ('?' :: ·) ++
          (cutOff '#' text).2.elim [] ('#' :: ·) := by
        simp [Reference.parse, Reference.write]
    _ = text := by rw [authority, scheme, cutOff_write, cutOff_write]

/-- A segment of dots is passed without being kept; at most a slash comes in for it, at the end. -/
theorem exists_walk_of_dots (dots : isDots segment = true) (passed segments : List Text) :
    ∃ kept : List Text, kept.flatten.length ≤ passed.flatten.length ∧
      (walk passed (segment :: segments)).flatten.length ≤
        (walk kept segments).flatten.length + 1 := by
  refine ⟨if segment = ['.'] then passed else passed.dropLast, ?_, ?_⟩
  · split
    · exact Nat.le_refl _
    · obtain rfl | ⟨above, last, rfl⟩ := List.eq_nil_or_concat passed
      · exact Nat.le_refl _
      · simp
  · rw [walk, if_pos dots]
    cases segments with
    | nil => simp [walk]
    | cons next segments => exact Nat.le_succ _

theorem length_walk_le (passed segments : List Text) :
    (walk passed segments).flatten.length ≤
      passed.flatten.length + (segments.flatMap ('/' :: ·)).length := by
  induction segments generalizing passed with
  | nil => exact Nat.le_refl _
  | cons segment segments ih =>
      rw [List.flatMap_cons, List.length_append, List.length_cons]
      cases dots : isDots segment with
      | true =>
          obtain ⟨kept, short, later⟩ := exists_walk_of_dots dots passed segments
          have rest := ih kept
          omega
      | false =>
          have rest := ih (passed ++ ['/' :: segment])
          rw [walk, dots]
          simp only [List.flatten_append, List.flatten_singleton, List.length_append,
            List.length_cons] at rest
          simpa [Nat.add_assoc] using rest

/-- Where there are dots, a walk makes a path shorter. -/
theorem length_walk_lt (dots : ∃ segment ∈ segments, isDots segment = true) (passed : List Text) :
    (walk passed segments).flatten.length <
      passed.flatten.length + (segments.flatMap ('/' :: ·)).length := by
  induction segments generalizing passed with
  | nil => simp at dots
  | cons segment segments ih =>
      rw [List.flatMap_cons, List.length_append, List.length_cons]
      cases here : isDots segment with
      | true =>
          obtain ⟨kept, short, later⟩ := exists_walk_of_dots here passed segments
          have rest := length_walk_le kept segments
          have long : 0 < segment.length := by
            refine List.length_pos_iff.2 ?_
            rintro rfl
            exact absurd here (by decide)
          omega
      | false =>
          have after : ∃ segment ∈ segments, isDots segment = true := by simpa [here] using dots
          have rest := ih after (passed ++ ['/' :: segment])
          rw [walk, here]
          simp only [List.flatten_append, List.flatten_singleton, List.length_append,
            List.length_cons] at rest
          simpa [Nat.add_assoc] using rest

theorem walk_of_dotless (plain : ∀ segment ∈ segments, isDots segment = false)
    (passed : List Text) : walk passed segments = passed ++ segments.map ('/' :: ·) := by
  induction segments generalizing passed with
  | nil => simp [walk]
  | cons segment segments ih =>
      obtain ⟨here, later⟩ := List.forall_mem_cons.1 plain
      rw [walk, here, if_neg (by decide), ih later, List.map_cons, List.append_assoc,
        List.singleton_append]

theorem splitOn_slash (rest : Text) :
    Text.splitOn (· = '/') ('/' :: rest) = [] :: Text.splitOn (· = '/') rest := by
  simp [Text.splitOn]

/-- A path from the root is written of its segments, each behind a slash. -/
theorem flatMap_splitOn (rest : Text) :
    (Text.splitOn (· = '/') rest).flatMap ('/' :: ·) = '/' :: rest := by
  have whole := Text.append_join ['/'] (Text.splitOn_ne_nil (· = '/') rest)
  rw [Text.join_splitOn] at whole
  exact whole.symm

theorem removeDots_slash (rest : Text) :
    removeDots ('/' :: rest) = (walk [[]] (Text.splitOn (· = '/') rest)).flatten := by
  rw [removeDots, splitOn_slash]
  rfl

theorem length_removeDots_le (rest : Text) :
    (removeDots ('/' :: rest)).length ≤ rest.length + 1 := by
  have short := length_walk_le [[]] (Text.splitOn (· = '/') rest)
  rw [flatMap_splitOn] at short
  simpa [removeDots_slash] using short

/-- Following dots changes every path from the root that has some. -/
theorem removeDots_eq_self_iff (rest : Text) :
    removeDots ('/' :: rest) = '/' :: rest ↔ Dotless ('/' :: rest) := by
  have dotless : Dotless ('/' :: rest) ↔
      ∀ segment ∈ Text.splitOn (· = '/') rest, isDots segment = false := by
    rw [Dotless, splitOn_slash, List.forall_mem_cons]
    exact and_iff_right (by decide)
  rw [dotless, removeDots_slash]
  constructor
  · intro same segment member
    by_contra dots
    have shorter := length_walk_lt ⟨segment, member, by simpa using dots⟩ [[]]
    rw [same, flatMap_splitOn] at shorter
    simp at shorter
  · intro plain
    rw [walk_of_dotless plain, List.flatten_append, ← List.flatMap_def, flatMap_splitOn]
    rfl

variable {address : Address} {place : Text}

namespace Address

/-- The scheme and the host of an address, with what stands around them. -/
def origin (address : Address) : Text := address.scheme ++ ':' :: '/' :: '/' :: address.host

theorem text_eq (address : Address) : address.text = address.origin ++ address.path := by
  simp [text, origin]

theorem not_mem_scheme (address : Address) (other : Server.isSchemeChar mark = false) :
    mark ∉ address.scheme := by
  obtain ⟨first, others, scheme, letter, word⟩ := address.isScheme
  rw [scheme, List.mem_cons, not_or]
  refine ⟨?_, fun member => ?_⟩
  · rintro rfl
    simp [Server.isSchemeChar, Char.isAlphanum, letter] at other
  · rw [List.all_eq_true.1 word mark member] at other
    cases other

theorem not_mem_text (address : Address) (other : Server.isSchemeChar mark = false)
    (noSlash : mark ≠ '/') (noColon : mark ≠ ':') (host : mark ∉ address.host)
    (path : mark ∉ address.path) : mark ∉ address.text := by
  simp [text, address.not_mem_scheme other, noSlash, noColon, host, path]

theorem parse_text (address : Address) :
    Reference.parse address.text =
      ⟨some address.scheme, some address.host, address.path, none, none⟩ := by
  have noFragment : '#' ∉ address.text :=
    address.not_mem_text (by decide) (by decide) (by decide) address.isHost.2.2 address.isPath.2
  have noQuery : '?' ∉ address.text :=
    address.not_mem_text (by decide) (by decide) (by decide) address.isHost.2.1 address.isPath.1
  have scheme : splitScheme address.text =
      (some address.scheme, '/' :: '/' :: (address.host ++ address.path)) := by
    obtain ⟨first, others, written, letter, word⟩ := address.isScheme
    rw [splitScheme, text, cutOff_append_cons (address.not_mem_scheme (by decide)), written]
    simp [letter, word]
  have authority : splitAuthority ('/' :: '/' :: (address.host ++ address.path)) =
      (some address.host, address.path) := by
    obtain ⟨rest, slash⟩ := List.head?_eq_some_iff.1 address.fromRoot
    have plain := all_ne_of_not_mem address.isHost.1
    rw [splitAuthority, slash, List.takeWhile_append_of_pos plain,
      List.dropWhile_append_of_pos plain]
    simp
  simp only [Reference.parse, cutOff_of_not_mem noFragment, cutOff_of_not_mem noQuery, scheme,
    authority]

end Address

theorem cutOff_cons {character : Char} (other : character ≠ mark) (text : Text) :
    cutOff mark (character :: text) = (character :: (cutOff mark text).1, (cutOff mark text).2) := by
  simp [cutOff, other]

theorem head?_cutOff_ne_slash (single : text.head? ≠ some '/') :
    (cutOff mark text).1.head? ≠ some '/' := by
  cases text with
  | nil => exact single
  | cons character text =>
      by_cases same : character = mark
      · simp [cutOff, same]
      · rwa [cutOff_cons same]

theorem splitScheme_slash (text : Text) : splitScheme ('/' :: text) = (none, '/' :: text) := by
  rw [splitScheme, cutOff_cons (by decide)]
  cases (cutOff ':' text).2 <;> rfl

theorem splitAuthority_slash (single : text.head? ≠ some '/') :
    splitAuthority ('/' :: text) = (none, '/' :: text) := by
  unfold splitAuthority
  split
  · next same => exact absurd (by rw [(List.cons.inj same).2]; rfl) single
  · rfl

/-- A path from the root that begins with one slash has no scheme and no authority. -/
theorem exists_parse_slash (single : text.head? ≠ some '/') :
    ∃ inner query fragment,
      Reference.parse ('/' :: text) = ⟨none, none, '/' :: inner, query, fragment⟩ := by
  have still : (cutOff '?' (cutOff '#' text).1).1.head? ≠ some '/' :=
    head?_cutOff_ne_slash (head?_cutOff_ne_slash single)
  refine ⟨(cutOff '?' (cutOff '#' text).1).1, (cutOff '?' (cutOff '#' text).1).2,
    (cutOff '#' text).2, ?_⟩
  have fragment := cutOff_cons (by decide : '/' ≠ '#') text
  have query := cutOff_cons (by decide : '/' ≠ '?') (cutOff '#' text).1
  simp only [Reference.parse, fragment, query, splitScheme_slash, splitAuthority_slash still]

/-- A path from the root takes the scheme and the host of an address, and follows its own dots. -/
theorem exists_resolve_slash (address : Address) (single : text.head? ≠ some '/') :
    ∃ inner behind, text = inner ++ behind ∧
      (Reference.parse ('/' :: text)).path = '/' :: inner ∧
      resolve address.text ('/' :: text) =
        address.origin ++ removeDots ('/' :: inner) ++ behind := by
  obtain ⟨inner, query, fragment, parts⟩ := exists_parse_slash single
  have whole := write_parse ('/' :: text)
  rw [parts] at whole
  refine ⟨inner, query.elim [] ('?' :: ·) ++ fragment.elim [] ('#' :: ·), ?_, by rw [parts], ?_⟩
  · simpa [Reference.write] using whole.symm
  · simp [resolve, parts, address.parse_text, Reference.resolve, Reference.write, Address.origin]

/-- Without dots a path from the root leads to itself, at the host of an address. -/
theorem resolve_of_dotless (address : Address) (single : text.head? ≠ some '/')
    (dotless : Dotless (Reference.parse ('/' :: text)).path) :
    resolve address.text ('/' :: text) = address.origin ++ '/' :: text := by
  obtain ⟨inner, behind, whole, path, led⟩ := exists_resolve_slash address single
  rw [path, ← removeDots_eq_self_iff] at dotless
  rw [led, dotless, whole, List.append_assoc, List.cons_append]

/-- A path from the root, or the beginning of one, leads from an address to what is written behind
the address exactly if the path of the address is the root, the path is whole and it has no dots. -/
theorem resolve_eq_iff (address : Address) (single : place.head? ≠ some '/')
    (begins : text <+: place) :
    resolve address.text ('/' :: text) = address.text ++ place ↔
      address.path = ['/'] ∧ text = place ∧ Dotless (Reference.parse ('/' :: text)).path := by
  have alone : text.head? ≠ some '/' := by
    intro slash
    obtain ⟨others, rfl⟩ := List.head?_eq_some_iff.1 slash
    obtain ⟨rest, rfl⟩ := begins
    exact single rfl
  obtain ⟨inner, behind, whole, path, led⟩ := exists_resolve_slash address alone
  rw [path, led, address.text_eq, List.append_assoc, List.append_assoc, List.append_cancel_left_eq,
    ← removeDots_eq_self_iff]
  constructor
  · intro same
    -- Nothing of the path of the address is left, so that there is room for its slash alone.
    have lengths := congrArg List.length same
    have short := length_removeDots_le inner
    have within := begins.length_le
    have parted := congrArg List.length whole
    obtain ⟨rest, slash⟩ := List.head?_eq_some_iff.1 address.fromRoot
    simp only [slash, List.length_append, List.length_cons] at lengths parted
    obtain rfl : rest = [] := List.eq_nil_of_length_eq_zero (by omega)
    have equal : text = place := begins.eq_of_length (by omega)
    refine ⟨slash, equal, ?_⟩
    rw [slash, ← equal, whole] at same
    exact List.append_cancel_right (same.trans (List.cons_append).symm)
  · rintro ⟨root, rfl, still⟩
    rw [root, still, List.cons_append, ← whole]
    rfl

end Link

end StaticSite
