import StaticSite.Proofs.Component.Grammar
import StaticSite.Proofs.Text.Searching

/-!
# Filling in arguments

The arguments of an invocation are put into the written form of a component's body one after
the other.  On the grammar this is the same as putting them in all at once, because no
argument has braces and the placeholder of one index is not found in that of another.
-/

namespace StaticSite

namespace Component

variable {index : Nat} {text : Text}

theorem IsChunk.tail {character : Char} (chunk : IsChunk (character :: text)) : IsChunk text := by
  obtain ⟨noDouble, noEnd⟩ := chunk
  refine ⟨fun double => noDouble (double.trans (List.suffix_cons character text).isInfix), ?_⟩
  intro ends
  cases text with
  | nil => simp at ends
  | cons next text => exact noEnd (by simpa using ends)

/-- No placeholder or invocation begins in a chunk. -/
theorem IsChunk.passes {others : Text} (chunk : IsChunk text) :
    Text.Passes ('{' :: '{' :: others) text := by
  induction text with
  | nil => trivial
  | cons character text ih =>
      refine ⟨fun rest found => ?_, ih chunk.tail⟩
      obtain ⟨rfl, later⟩ := List.cons_prefix_cons.1 found
      cases text with
      | nil => exact chunk.2 rfl
      | cons next text =>
          have same := (List.cons_prefix_cons.1 later).1
          exact chunk.1 ⟨[], text, by rw [← same]; rfl⟩

/-- A text without opening braces is a chunk. -/
theorem isChunk_of_not_mem (absent : '{' ∉ text) : IsChunk text := by
  refine ⟨fun ⟨front, back, whole⟩ => absent (by simp [← whole]), fun ends => ?_⟩
  exact absent (List.mem_of_getLast? ends)

/-- A mark passes two opening braces that it does not begin at, and the text behind them, if
there is no other opening brace in it. -/
theorem passes_opening {others : Text} (absent : '{' ∉ text)
    (noMark : ∀ rest, ¬ '{' :: '{' :: others <+: opening ++ (text ++ rest)) :
    Text.Passes ('{' :: '{' :: others) (opening ++ text) := by
  have later : Text.Passes ('{' :: '{' :: others) (' ' :: text) :=
    Text.passes_of_not_mem (by simpa using absent)
  refine ⟨fun rest => ?_, fun rest => ?_, later⟩
  · exact noMark rest
  · intro found
    have second := (List.cons_prefix_cons.1 found).2
    exact absurd (List.cons_prefix_cons.1 second).1 (by decide)

theorem ofNat_injective {first second : Nat} (same : Text.ofNat first = Text.ofNat second) :
    first = second := by
  have decoded := congrArg (Nat.ofDigitChars 10 · 0) same
  simpa only [Text.ofNat, Nat.ofDigitChars_ten_toDigits] using decoded

theorem isDigit_of_mem_ofNat {character : Char} (member : character ∈ Text.ofNat index) :
    character.isDigit :=
  Nat.isDigit_of_mem_toDigits (by decide) (by decide) member

theorem placeholder_eq (index : Nat) :
    placeholder index = '{' :: '{' :: (' ' :: '$' :: (Text.ofNat index ++ closing)) := by
  simp [placeholder, opening]

/-- The placeholder of one index is not found in front of that of another. -/
theorem eq_of_placeholder_begins {other : Nat} {rest : Text}
    (found : placeholder index <+: placeholder other ++ rest) : index = other := by
  have noBlank : ∀ number, ' ' ∉ Text.ofNat number := fun number member =>
    absurd (isDigit_of_mem_ofNat member) (by decide)
  simp only [placeholder_eq, List.cons_append, List.prefix_cons_inj, List.append_assoc] at found
  exact ofNat_injective (Text.eq_of_begins (noBlank index) (noBlank other) found)

/-- Text and the placeholders of other indices are passed over. -/
theorem passes_placeholder {other : Nat} (different : index ≠ other) :
    Text.Passes (placeholder index) (placeholder other) := by
  have absent : '{' ∉ "$".toList ++ Text.ofNat other ++ closing := by
    simp only [List.mem_append, not_or]
    refine ⟨⟨by decide, fun member => ?_⟩, by decide⟩
    exact absurd (isDigit_of_mem_ofNat member) (by decide)
  have written : placeholder other = opening ++ ("$".toList ++ Text.ofNat other ++ closing) := by
    simp [placeholder]
  rw [written, placeholder_eq index]
  refine passes_opening absent fun rest found => different ?_
  rw [← List.append_assoc, ← written, ← placeholder_eq index] at found
  exact eq_of_placeholder_begins found

/-- No placeholder begins in the opening of an invocation. -/
theorem passes_name {name : Text} (isName : IsName name) :
    Text.Passes (placeholder index) (opening ++ name) := by
  have absent : '{' ∉ name := fun member => (isName.2.2 '{' member).2.2.1 rfl
  rw [placeholder_eq]
  refine passes_opening absent fun rest found => ?_
  cases name with
  | nil => exact isName.1 rfl
  | cons first name =>
      have later : '$' :: (Text.ofNat index ++ closing) <+: first :: (name ++ rest) := by
        simpa [opening] using found
      have dollar := (List.cons_prefix_cons.1 later).1
      exact isName.2.1 (by rw [← dollar]; rfl)

theorem argumentAt?_cons {first : Nat} {argument : Text} {arguments : List Text} {place : Nat} :
    argumentAt? first (argument :: arguments) place =
      if place = first then some argument else argumentAt? (first + 1) arguments place := by
  by_cases same : place = first
  · simp [argumentAt?, same]
  · rw [if_neg same, argumentAt?, argumentAt?]
    by_cases less : place < first
    · rw [if_pos less, if_pos (by omega)]
    · have step : place - first = place - (first + 1) + 1 := by omega
      rw [if_neg less, if_neg (by omega), step, List.getElem?_cons_succ]

@[simp]
theorem argumentAt?_nil (first place : Nat) : argumentAt? first [] place = none := by
  simp [argumentAt?]

/-- A piece whose placeholders are seen when arguments are put in: none begins in its text. -/
def Piece.Fillable : Piece → Prop
  | .chunk text => ∀ index, Text.Passes (Component.placeholder index) text
  | .placeholder _ => True
  | .invocation name arguments => IsName name ∧ ∀ argument ∈ arguments, IsArgument argument

theorem Piece.WellFormed.fillable {piece : Piece} (wellFormed : piece.WellFormed) :
    piece.Fillable := by
  cases piece with
  | chunk text =>
      intro index
      rw [placeholder_eq]
      exact IsChunk.passes wellFormed
  | placeholder index => trivial
  | invocation name arguments => exact wellFormed

theorem replaces_placeholder (place : Nat) (argument : Text) :
    Text.Replaces (placeholder index) argument (placeholder place)
      ((ArgumentPart.placeholder place).fill index [argument]).write := by
  by_cases same : index = place
  · subst same
    simpa [ArgumentPart.fill, argumentAt?, ArgumentPart.write] using
      Text.Replaces.of_mark (by simp [placeholder_eq])
  · have absent : argumentAt? index [argument] place = none := by
      rw [argumentAt?_cons, if_neg (Ne.symm same), argumentAt?_nil]
    simpa [ArgumentPart.fill, absent, ArgumentPart.write] using
      Text.Replaces.of_passes (passes_placeholder same)

/-- Replacing one placeholder fills in one argument. -/
theorem replaces_part {part : ArgumentPart} (wellFormed : part.WellFormed) (argument : Text) :
    Text.Replaces (placeholder index) argument part.write (part.fill index [argument]).write := by
  cases part with
  | plain text =>
      rw [placeholder_eq]
      exact .of_passes (Text.passes_of_not_mem wellFormed.2.1)
  | placeholder place => exact replaces_placeholder place argument

theorem replaces_piece {piece : Piece} (fillable : piece.Fillable) (argument : Text) :
    Text.Replaces (placeholder index) argument piece.write (piece.fill index [argument]).write := by
  cases piece with
  | chunk text => exact .of_passes (fillable index)
  | placeholder place =>
      have part := @replaces_placeholder index place argument
      cases found : argumentAt? index [argument] place <;>
        simpa [Piece.fill, Piece.write, ArgumentPart.fill, ArgumentPart.write, found] using part
  | invocation name arguments =>
      obtain ⟨isName, areArguments⟩ := fillable
      have mark : Text.Replaces (placeholder index) argument ['"'] ['"'] := by
        rw [placeholder_eq]
        exact .of_passes (Text.passes_of_not_mem (by decide))
      have opens : Text.Replaces (placeholder index) argument [' ', '"'] [' ', '"'] := by
        rw [placeholder_eq]
        exact .of_passes (Text.passes_of_not_mem (by decide))
      have closes : Text.Replaces (placeholder index) argument closing closing := by
        rw [placeholder_eq]
        exact .of_passes (Text.passes_of_not_mem (by decide))
      have inner : Text.Replaces (placeholder index) argument (writeArguments arguments)
          (writeArguments (arguments.map fun other =>
            other.map (ArgumentPart.fill index [argument]))) := by
        rw [writeArguments, writeArguments, List.flatMap_map]
        apply Text.Replaces.flatMap
        intro other member
        refine (opens.append ?_).append mark
        rw [writeArgument, writeArgument, List.flatMap_map]
        exact Text.Replaces.flatMap fun part partMember =>
          replaces_part ((areArguments other member).1 part partMember) argument
      exact ((Text.Replaces.of_passes (passes_name isName)).append inner).append closes

theorem replace_writeBody {body : Body} (fillable : ∀ piece ∈ body, piece.Fillable)
    (argument : Text) :
    Text.replace (placeholder index) argument (writeBody body) =
      writeBody (body.map (Piece.fill index [argument])) := by
  rw [writeBody, writeBody, List.flatMap_map]
  exact (Text.Replaces.flatMap fun piece member => replaces_piece (fillable piece member)
    argument).eq

/-- Filling in the first argument and then the others is filling them in at once. -/
theorem ArgumentPart.fill_fill {first : Nat} {argument : Text} {arguments : List Text}
    (part : ArgumentPart) :
    (part.fill first [argument]).fill (first + 1) arguments =
      part.fill first (argument :: arguments) := by
  cases part with
  | plain text => rfl
  | placeholder place =>
      by_cases same : place = first
      · simp [fill, argumentAt?_cons, same]
      · simp [fill, argumentAt?_cons, same]

theorem Piece.fill_fill {first : Nat} {argument : Text} {arguments : List Text} (piece : Piece) :
    (piece.fill first [argument]).fill (first + 1) arguments =
      piece.fill first (argument :: arguments) := by
  cases piece with
  | chunk text => rfl
  | placeholder place =>
      by_cases same : place = first
      · simp [fill, argumentAt?_cons, same]
      · simp [fill, argumentAt?_cons, same]
  | invocation name others =>
      simp only [fill, List.map_map, invocation.injEq, true_and]
      refine List.map_congr_left fun other _ => ?_
      simp only [Function.comp_apply, List.map_map]
      exact List.map_congr_left fun part _ => part.fill_fill

theorem ArgumentPart.fill_nil (first : Nat) (part : ArgumentPart) : part.fill first [] = part := by
  cases part with
  | plain text => rfl
  | placeholder place => simp [fill]

theorem Piece.fill_nil (first : Nat) (piece : Piece) : piece.fill first [] = piece := by
  cases piece with
  | chunk text => rfl
  | placeholder place => simp [fill]
  | invocation name others =>
      have parts : (ArgumentPart.fill first []) = id := funext (ArgumentPart.fill_nil first)
      simp [fill, parts]

/-- Text that can stand in an argument: not blank, and without quotation marks and braces. -/
def IsArgumentText (text : Text) : Prop :=
  Text.blank text = false ∧ '"' ∉ text ∧ '{' ∉ text ∧ '}' ∉ text

theorem isArgumentText_of_argumentAt? {first place : Nat} {arguments : List Text} {argument : Text}
    (areTexts : ∀ argument ∈ arguments, IsArgumentText argument)
    (found : argumentAt? first arguments place = some argument) : IsArgumentText argument := by
  rw [argumentAt?] at found
  split at found
  · simp at found
  · exact areTexts argument (List.mem_of_getElem? found)

theorem ArgumentPart.wellFormed_fill {first : Nat} {arguments : List Text} {part : ArgumentPart}
    (wellFormed : part.WellFormed) (areTexts : ∀ argument ∈ arguments, IsArgumentText argument) :
    (part.fill first arguments).WellFormed := by
  cases part with
  | plain text => exact wellFormed
  | placeholder place =>
      rw [fill]
      split
      · next argument found => exact (isArgumentText_of_argumentAt? areTexts found).2
      · exact wellFormed

theorem blank_append (first second : Text) :
    Text.blank (first ++ second) = (Text.blank first && Text.blank second) := List.all_append

/-- An argument that is not blank is not blank with its placeholders filled in. -/
theorem blank_fill {first : Nat} {arguments : List Text} {argument : Argument}
    (notBlank : Text.blank (writeArgument argument) = false)
    (areTexts : ∀ argument ∈ arguments, IsArgumentText argument) :
    Text.blank (writeArgument (argument.map (ArgumentPart.fill first arguments))) = false := by
  induction argument with
  | nil => simp [writeArgument, Text.blank] at notBlank
  | cons part argument ih =>
      rw [writeArgument, List.flatMap_cons, blank_append] at notBlank
      rw [List.map_cons, writeArgument, List.flatMap_cons, blank_append]
      cases here : Text.blank part.write with
      | true =>
          rw [here, Bool.true_and] at notBlank
          have later := ih notBlank
          rw [writeArgument] at later
          rw [later, Bool.and_false]
      | false =>
          have filled : Text.blank (part.fill first arguments).write = false := by
            cases part with
            | plain text => exact here
            | placeholder place =>
                rw [ArgumentPart.fill]
                split
                · next argument found => exact (isArgumentText_of_argumentAt? areTexts found).1
                · exact here
          rw [filled, Bool.false_and]

theorem isArgument_fill {first : Nat} {arguments : List Text} {argument : Argument}
    (isArgument : IsArgument argument) (areTexts : ∀ argument ∈ arguments, IsArgumentText argument) :
    IsArgument (argument.map (ArgumentPart.fill first arguments)) := by
  refine ⟨fun part member => ?_, blank_fill isArgument.2 areTexts⟩
  obtain ⟨original, originalMember, rfl⟩ := List.mem_map.1 member
  exact ArgumentPart.wellFormed_fill (isArgument.1 original originalMember) areTexts

/-- Putting in arguments keeps what holds of the pieces, if it holds of the arguments. -/
theorem Piece.fill_keeps {holds : Piece → Prop} {first : Nat} {arguments : List Text} {piece : Piece}
    (here : holds piece) (areTexts : ∀ argument ∈ arguments, IsArgumentText argument)
    (texts : ∀ text, IsArgumentText text → holds (.chunk text))
    (invocations : ∀ name others, holds (.invocation name others) →
      (∀ other ∈ others, IsArgument other) ∧ ∀ more, (∀ other ∈ more, IsArgument other) →
        holds (.invocation name more)) :
    holds (piece.fill first arguments) := by
  cases piece with
  | chunk text => exact here
  | placeholder place =>
      rw [fill]
      split
      · next argument found => exact texts argument (isArgumentText_of_argumentAt? areTexts found)
      · exact here
  | invocation name others =>
      obtain ⟨areArguments, keeps⟩ := invocations name others here
      apply keeps
      intro other member
      obtain ⟨argument, argumentMember, rfl⟩ := List.mem_map.1 member
      exact isArgument_fill (areArguments argument argumentMember) areTexts

theorem Piece.wellFormed_fill {first : Nat} {arguments : List Text} {piece : Piece}
    (wellFormed : piece.WellFormed) (areTexts : ∀ argument ∈ arguments, IsArgumentText argument) :
    (piece.fill first arguments).WellFormed := by
  refine @fill_keeps WellFormed _ _ _ wellFormed areTexts
    (fun text isText => isChunk_of_not_mem isText.2.2.1) ?_
  exact fun name others both => ⟨both.2, fun more areArguments => ⟨both.1, areArguments⟩⟩

theorem Piece.fillable_fill {first : Nat} {arguments : List Text} {piece : Piece}
    (fillable : piece.Fillable) (areTexts : ∀ argument ∈ arguments, IsArgumentText argument) :
    (piece.fill first arguments).Fillable := by
  refine @fill_keeps Fillable _ _ _ fillable areTexts (fun text isText index => ?_) ?_
  · rw [placeholder_eq]
    exact Text.passes_of_not_mem isText.2.2.1
  · exact fun name others both => ⟨both.2, fun more areArguments => ⟨both.1, areArguments⟩⟩

/-- Filling the written form of a body is filling the body. -/
theorem fill_writeBody {body : Body} (fillable : ∀ piece ∈ body, piece.Fillable)
    {arguments : List Text} (areTexts : ∀ argument ∈ arguments, IsArgumentText argument)
    (first : Nat) :
    fill (writeBody body) first arguments = writeBody (body.map (Piece.fill first arguments)) := by
  induction arguments generalizing first body with
  | nil =>
      have pieces : Piece.fill first [] = id := funext (Piece.fill_nil first)
      rw [fill, pieces, List.map_id]
  | cons argument arguments ih =>
      have oneText : ∀ other ∈ [argument], IsArgumentText other := fun other member =>
        areTexts other (by simpa using Or.inl (List.mem_singleton.1 member))
      have stillFillable : ∀ piece ∈ body.map (Piece.fill first [argument]), piece.Fillable := by
        intro piece member
        obtain ⟨original, originalMember, rfl⟩ := List.mem_map.1 member
        exact Piece.fillable_fill (fillable original originalMember) oneText
      rw [fill, replace_writeBody fillable,
        ih stillFillable (fun other member => areTexts other (List.mem_cons_of_mem _ member)),
        List.map_map]
      exact congrArg writeBody (List.map_congr_left fun piece _ => piece.fill_fill)

end Component

end StaticSite
