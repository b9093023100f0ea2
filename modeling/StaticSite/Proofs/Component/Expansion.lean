import Mathlib.Data.List.Induction
import StaticSite.Proofs.Component.Filling
import StaticSite.Proofs.Component.Scanning
import StaticSite.Proofs.Text.Splitting

/-!
# Expanding one component

One expansion goes over the written form of a page and replaces the invocations of one name.
On the grammar this is the same as replacing the invocations in the page itself, and leads to
the grammar again.
-/

namespace StaticSite

namespace Component

variable {name text : Text} {source : Option Text}

/-- Whether an expansion turns one text into another, whatever stands around the text. -/
def Expands (name body : Text) (source : Option Text) (before after : Text) : Prop :=
  ∀ finished rest,
    expandFrom name body source finished (before ++ rest) =
      expandFrom name body source (finished ++ after) rest

variable {body : Text}

/-- An expansion goes over a text in which no invocation of the name begins. -/
theorem Expands.of_passes (braceless : '{' ∉ name) (passes : Text.Passes (opener name) text) :
    Expands name body source text text := by
  intro finished rest
  rw [expandFrom_eq_opener braceless, expandFrom_eq_opener braceless body source (finished ++ text),
    Text.cut?_append_of_passes passes]
  cases Text.cut? (opener name) rest with
  | none => simp
  | some found => simp

theorem Expands.append {first second newFirst newSecond : Text}
    (one : Expands name body source first newFirst)
    (other : Expands name body source second newSecond) :
    Expands name body source (first ++ second) (newFirst ++ newSecond) := by
  intro finished rest
  rw [List.append_assoc, one, other, List.append_assoc]

theorem Expands.flatMap {α : Type} {pieces : List α} {write newWrite : α → Text}
    (expands : ∀ piece ∈ pieces, Expands name body source (write piece) (newWrite piece)) :
    Expands name body source (pieces.flatMap write) (pieces.flatMap newWrite) := by
  induction pieces with
  | nil =>
      intro finished rest
      simp
  | cons piece pieces ih =>
      rw [List.flatMap_cons, List.flatMap_cons]
      exact (expands piece (by simp)).append
        (ih fun other member => expands other (List.mem_cons_of_mem _ member))

theorem Expands.expand_eq {newText : Text} (expands : Expands name body source text newText) :
    expand text name body source = .ok newText := by
  have whole := expands [] []
  rw [List.append_nil, List.nil_append] at whole
  rw [expand, whole, expandFrom_eq]
  simp [Text.cut?, opening]

section Arguments

/-- The arguments of a page have no placeholders, so that they are written without braces. -/
theorem isArgumentText_write {argument : Argument} (isArgument : IsArgument argument)
    (noPlaceholders : argument.flatMap ArgumentPart.placeholders = []) :
    IsArgumentText (writeArgument argument) := by
  have plain : ∀ part ∈ argument, '"' ∉ part.write ∧ '{' ∉ part.write ∧ '}' ∉ part.write := by
    intro part member
    cases part with
    | plain text => exact isArgument.1 _ member
    | placeholder index =>
        have none := List.flatMap_eq_nil_iff.1 noPlaceholders _ member
        simp [ArgumentPart.placeholders] at none
  refine ⟨isArgument.2, ?_, ?_, ?_⟩
  all_goals
    intro found
    obtain ⟨part, member, within⟩ := List.mem_flatMap.1 found
  · exact (plain part member).1 within
  · exact (plain part member).2.1 within
  · exact (plain part member).2.2 within

variable {others : List Argument}

/-- Text that ends neither the argument in which it stands nor the invocation. -/
def IsQuotable (text : Text) : Prop := '"' ∉ text ∧ ¬ closing <:+: text

instance (text : Text) : Decidable (IsQuotable text) := inferInstanceAs (Decidable (_ ∧ _))

theorem IsArgumentText.isQuotable (isText : IsArgumentText text) : IsQuotable text :=
  ⟨isText.2.1, fun closes => isText.2.2.2 (closes.subset (by decide))⟩

section Quotable

variable (quotable : ∀ argument ∈ others, IsQuotable (writeArgument argument))
include quotable

theorem passes_writeArguments : Text.Passes closing (writeArguments others) := by
  refine Text.Passes.flatMap fun argument member => ?_
  have front : Text.Passes closing [' ', '"'] :=
    Text.passes_of_second_not_mem (by decide) (by decide)
  rw [List.append_assoc]
  exact front.append (Text.passes_concat (quotable argument member).2 (by decide))

/-- Splitting at the quotation marks gives the arguments and the spaces between them.  A blank
argument cannot be told from such a space. -/
theorem filter_splitOn_writeArguments :
    (Text.splitOn (· = '"') (writeArguments others)).filter (! Text.blank ·) =
      (others.map writeArgument).filter (! Text.blank ·) := by
  induction others with
  | nil => rfl
  | cons argument others ih =>
      have quoteless : ∀ character ∈ writeArgument argument, decide (character = '"') = false :=
        fun character member => decide_eq_false fun quote =>
          (quotable argument List.mem_cons_self).1 (quote ▸ member)
      have later := ih fun other member => quotable other (List.mem_cons_of_mem _ member)
      have written : writeArguments (argument :: others) =
          [' '] ++ '"' :: (writeArgument argument ++ '"' :: writeArguments others) := by
        simp [writeArguments]
      rw [written, Text.splitOn_append_cons _ (by simp) (by decide),
        Text.splitOn_append_cons _ quoteless (by decide), List.filter_cons_of_neg (by decide),
        List.filter_cons, later, List.map_cons, List.filter_cons]

/-- Of the arguments of an invocation those are read that are not blank. -/
theorem arguments_writeArguments :
    arguments (writeArguments others) =
      (others.map writeArgument).filter (! Text.blank ·) := by
  have parts := filter_splitOn_writeArguments quotable
  cases others with
  | nil => exact parts
  | cons argument others =>
      obtain ⟨inner, written⟩ : ∃ inner, writeArguments (argument :: others) =
          ' ' :: '"' :: (inner ++ ['"']) := by
        cases others using List.reverseRecOn with
        | nil => exact ⟨writeArgument argument, by simp [writeArguments]⟩
        | append_singleton front last =>
            exact ⟨writeArgument argument ++ '"' :: (writeArguments front ++
              ' ' :: '"' :: writeArgument last), by simp [writeArguments]⟩
      have trimmed : Text.trim (writeArguments (argument :: others)) =
          '"' :: (inner ++ ['"']) := by
        rw [written, Text.trim, Text.trimOf, Text.trimLeftOf, List.dropWhile_cons_of_pos (by decide),
          List.dropWhile_cons_of_neg (by decide), Text.trimRightOf]
        simp [show Text.isBlank '"' = false by decide]
      have isQuote : decide ('"' = '"') = true := rfl
      have first : Text.splitOn (· = '"') (' ' :: '"' :: (inner ++ ['"'])) =
          [' '] :: Text.splitOn (· = '"') (inner ++ ['"']) :=
        @Text.splitOn_append_cons (· = '"') [' '] '"' (inner ++ ['"']) (by simp) isQuote
      have second : Text.splitOn (· = '"') ('"' :: (inner ++ ['"'])) =
          [] :: Text.splitOn (· = '"') (inner ++ ['"']) :=
        @Text.splitOn_append_cons (· = '"') [] '"' (inner ++ ['"']) (by simp) isQuote
      rw [written, first, List.filter_cons_of_neg (by decide)] at parts
      rw [arguments, trimmed, second, List.filter_cons_of_neg (by decide), parts]

end Quotable

end Arguments

section Invocations

variable {others : List Argument}

/-- What follows the name of an invocation begins with a space. -/
theorem exists_space (others : List Argument) (rest : Text) :
    ∃ tail, writeArguments others ++ closing ++ rest = ' ' :: tail := by
  cases others with
  | nil => exact ⟨_, rfl⟩
  | cons argument others => exact ⟨_, rfl⟩

/-- An invocation is replaced by the body with those arguments filled in that are not blank. -/
theorem expands_written_invocation
    (quotable : ∀ argument ∈ others, IsQuotable (writeArgument argument)) :
    Expands name body source (Piece.invocation name others).write
      (fill body 1 ((others.map writeArgument).filter (! Text.blank ·))) := by
  intro finished rest
  obtain ⟨tail, spaced⟩ := exists_space others rest
  have parted : (Piece.invocation name others).write ++ rest =
      (opening ++ name) ++ (writeArguments others ++ closing ++ rest) := by
    simp [Piece.write]
  have begins : Text.startsWith " " (writeArguments others ++ closing ++ rest) = true := by
    rw [spaced]
    simp [Text.startsWith]
  have closed : Text.cut? closing (writeArguments others ++ closing ++ rest) =
      some (writeArguments others, rest) := by
    rw [List.append_assoc, Text.cut?_append_of_passes (passes_writeArguments quotable),
      Text.cut?_append]
    simp
  rw [expandFrom_eq, parted, Text.cut?_append]
  simp only [begins, if_true, closed, arguments_writeArguments quotable, List.append_nil]

/-- An invocation is replaced by the body with the arguments filled in. -/
theorem expands_invocation (areTexts : ∀ argument ∈ others, IsArgumentText (writeArgument argument)) :
    Expands name body source (Piece.invocation name others).write
      (fill body 1 (others.map writeArgument)) := by
  have all : (others.map writeArgument).filter (! Text.blank ·) = others.map writeArgument := by
    rw [List.filter_eq_self]
    intro text member
    obtain ⟨argument, within, rfl⟩ := List.mem_map.1 member
    rw [(areTexts argument within).1]
    rfl
  rw [← all]
  exact expands_written_invocation fun argument member => (areTexts argument member).isQuotable

theorem IsName.not_mem (isName : IsName name) : ' ' ∉ name ∧ '{' ∉ name :=
  ⟨fun space => absurd (isName.2.2 ' ' space).1 (by decide),
    fun brace => (isName.2.2 '{' brace).2.2.1 rfl⟩

/-- No invocation begins in a placeholder. -/
theorem passes_opener_placeholder (isName : IsName name) (index : Nat) :
    Text.Passes (opener name) (placeholder index) := by
  have written : placeholder index = opening ++ ("$".toList ++ Text.ofNat index ++ closing) := by
    simp [placeholder]
  rw [written, opener_eq]
  refine passes_opening (fun brace => ?_) fun rest found => ?_
  · simp only [List.mem_append] at brace
    rcases brace with (dollar | digit) | close
    · exact absurd dollar (by decide)
    · exact absurd (isDigit_of_mem_ofNat digit) (by decide)
    · exact absurd close (by decide)
  · cases name with
    | nil => exact isName.1 rfl
    | cons first name =>
        have later : first :: (name ++ [' ']) <+: '$' :: (Text.ofNat index ++ closing ++ rest) := by
          simpa [opening] using found
        have dollar := (List.cons_prefix_cons.1 later).1
        exact isName.2.1 (by rw [dollar]; rfl)

/-- No invocation begins in the beginning of that of another name. -/
theorem passes_opener_other {other : Text} (isName : IsName name) (otherName : IsName other)
    (different : other ≠ name) : Text.Passes (opener name) (opener other) := by
  have written : opener other = opening ++ (other ++ [' ']) := by simp [opener]
  rw [written, opener_eq]
  refine passes_opening (by simp [otherName.not_mem.2]) fun rest found => ?_
  have begins : name ++ ' ' :: [] <+: other ++ ' ' :: rest := by
    simpa [opening] using found
  exact different (Text.eq_of_begins isName.not_mem.1 otherName.not_mem.1 begins).symm

variable (areArguments : ∀ argument ∈ others, IsArgument argument)
include areArguments

theorem passes_opener_arguments (isName : IsName name) :
    Text.Passes (opener name) (writeArguments others) := by
  have plain : ∀ text : Text, '{' ∉ text → Text.Passes (opener name) text := by
    intro text braceless
    rw [opener_eq]
    exact Text.passes_of_not_mem braceless
  refine Text.Passes.flatMap fun argument member => ?_
  refine ((plain _ (by decide)).append (Text.Passes.flatMap fun part partMember => ?_)).append
    (plain _ (by decide))
  cases part with
  | plain text => exact plain text ((areArguments argument member).1 _ partMember).2.1
  | placeholder index => exact passes_opener_placeholder isName index

/-- Behind the beginning of an invocation no other one begins in it. -/
theorem exists_write_invocation : ∃ tail,
    (∀ other, (Piece.invocation other others).write = opener other ++ tail) ∧
      ∀ name, IsName name → Text.Passes (opener name) tail := by
  obtain ⟨tail, spaced⟩ := exists_space others []
  rw [List.append_nil] at spaced
  refine ⟨tail, fun other => ?_, fun name isName => ?_⟩
  · rw [Piece.write, List.append_assoc, spaced]
    simp [opener]
  · have close : Text.Passes (opener name) closing := by
      rw [opener_eq]
      exact Text.passes_of_not_mem (by decide)
    have whole := (passes_opener_arguments areArguments isName).append close
    rw [spaced] at whole
    exact whole.2

/-- An invocation of a name does not begin in that of another. -/
theorem passes_invocation {other : Text} (isName : IsName name) (otherName : IsName other)
    (different : other ≠ name) :
    Text.Passes (opener name) (Piece.invocation other others).write := by
  obtain ⟨tail, written, passes⟩ := exists_write_invocation areArguments
  rw [written]
  exact (passes_opener_other isName otherName different).append (passes name isName)

end Invocations

/-- Put the body of a component in the place of its invocations. -/
def Piece.inline (name : Text) (body : Body) : Piece → Body
  | .invocation other arguments =>
    if other = name then instantiate arguments body else [.invocation other arguments]
  | piece => [piece]

/-- The indices of the placeholders in the arguments of an invocation. -/
def Piece.passedOn : Piece → List Nat
  | .invocation _ arguments => arguments.flatten.flatMap ArgumentPart.placeholders
  | _ => []

/-- A piece in whose text neither a placeholder nor an invocation of some names begins. -/
def Piece.Sound (names : List Text) (piece : Piece) : Prop :=
  piece.Fillable ∧ ∀ text, piece = .chunk text → ∀ name ∈ names, Text.Passes (opener name) text

theorem Piece.WellFormed.sound {piece : Piece} (wellFormed : piece.WellFormed) (names : List Text) :
    piece.Sound names := by
  refine ⟨wellFormed.fillable, ?_⟩
  rintro text rfl name -
  rw [opener_eq]
  exact IsChunk.passes wellFormed

/-- The arguments of an invocation that passes nothing on are texts. -/
theorem isArgumentText_of_mem {other : Text} {others : List Argument}
    (fillable : (Piece.invocation other others).Fillable)
    (settled : (Piece.invocation other others).passedOn = []) :
    ∀ argument ∈ others, IsArgumentText (writeArgument argument) := by
  intro argument member
  refine isArgumentText_write (fillable.2 argument member) ?_
  rw [Piece.passedOn, List.flatMap_eq_nil_iff] at settled
  exact List.flatMap_eq_nil_iff.2 fun part partMember =>
    settled part (List.mem_flatten.2 ⟨argument, member, partMember⟩)

variable {names : List Text} {piece : Piece}

/-- An invocation of a name begins in no piece but those invocations. -/
theorem Piece.Sound.passes (sound : piece.Sound names) (isName : IsName name) (member : name ∈ names)
    (other : ∀ arguments, piece ≠ .invocation name arguments) :
    Text.Passes (opener name) piece.write := by
  cases piece with
  | chunk text => exact sound.2 text rfl name member
  | placeholder index => exact passes_opener_placeholder isName index
  | invocation otherName arguments =>
      refine passes_invocation sound.1.2 isName sound.1.1 ?_
      rintro rfl
      exact other arguments rfl

section Pages

variable {page component : Body} (isName : IsName name) (member : name ∈ names)
  (fillable : ∀ piece ∈ component, piece.Fillable) (sound : ∀ piece ∈ page, piece.Sound names)
  (settled : ∀ piece ∈ page, piece.passedOn = [])
include isName member fillable sound settled

/-- Expanding one component in the written form of a page puts its body in the place of its
invocations. -/
theorem expands_writeBody :
    Expands name (writeBody component) source (writeBody page)
      (writeBody (page.flatMap (Piece.inline name component))) := by
  have written : writeBody (page.flatMap (Piece.inline name component)) =
      page.flatMap fun piece => writeBody (piece.inline name component) := by
    rw [writeBody, List.flatMap_assoc]
    rfl
  rw [written, writeBody]
  apply Expands.flatMap
  intro piece pieceMember
  have kept : (∀ arguments, piece ≠ .invocation name arguments) →
      Expands name (writeBody component) source piece.write piece.write := fun other =>
    .of_passes isName.not_mem.2 ((sound piece pieceMember).passes isName member other)
  cases piece with
  | chunk text => simpa [Piece.inline, writeBody] using kept (by simp)
  | placeholder index => simpa [Piece.inline, writeBody] using kept (by simp)
  | invocation other arguments =>
      rw [Piece.inline]
      split
      · next same =>
          subst same
          have areTexts := isArgumentText_of_mem (sound _ pieceMember).1 (settled _ pieceMember)
          have filled := @expands_invocation other source (writeBody component) arguments areTexts
          rw [fill_writeBody fillable (by simpa using areTexts)] at filled
          exact filled
      · next different =>
          simpa [writeBody] using kept (by simp [different])

theorem expand_writeBody :
    expand (writeBody page) name (writeBody component) source =
      .ok (writeBody (page.flatMap (Piece.inline name component))) :=
  (expands_writeBody isName member fillable sound settled).expand_eq

end Pages

end Component

end StaticSite
