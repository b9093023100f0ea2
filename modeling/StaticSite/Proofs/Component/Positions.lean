import StaticSite.Proofs.Component.Expansion
import StaticSite.Proofs.Component.Splicing

/-!
# Positions of arguments

The arguments of an invocation are told apart by the quotation marks around them, and the space
between two arguments is told from an argument by being blank.  So a blank argument is passed over,
and the arguments behind it move up by one position.
-/

namespace StaticSite

namespace Component

variable {name text : Text} {texts : List Text} {source : Option Text} {place : Nat}

/-- The invocation of a component with texts as its arguments, each between quotation marks. -/
def invocationOf (name : Text) (texts : List Text) : Text :=
  opening ++ name ++ (texts.flatMap fun text => [' ', '"'] ++ text ++ ['"']) ++ closing

theorem write_invocation_plain (name : Text) (texts : List Text) :
    (Piece.invocation name (texts.map fun text => [.plain text])).write =
      invocationOf name texts := by
  simp [Piece.write, writeArguments, writeArgument, ArgumentPart.write, invocationOf,
    List.flatMap_map]

/-- A placeholder ends with a closing mark, which no argument has. -/
theorem not_placeholder_of_isQuotable (quotable : IsQuotable text) (index : Nat) :
    ¬ placeholder index <:+: text := fun occurs =>
  quotable.2 (List.IsInfix.trans (List.suffix_append _ closing).isInfix occurs)

/-- Filling in a placeholder alone gives the argument of its index. -/
theorem fill_placeholder (quotable : ∀ text ∈ texts, IsQuotable text) (place first : Nat) :
    fill (placeholder place) first texts =
      (argumentAt? first texts place).getD (placeholder place) := by
  induction texts generalizing first with
  | nil => simp [fill]
  | cons argument texts ih =>
      have later : ∀ text ∈ texts, IsQuotable text := fun text member =>
        quotable text (List.mem_cons_of_mem _ member)
      rw [fill, argumentAt?_cons]
      by_cases same : place = first
      · subst same
        have put : Text.replace (placeholder place) argument (placeholder place) = argument :=
          (Text.Replaces.of_mark (by simp [placeholder_eq])).eq
        have absent := not_placeholder_of_isQuotable (quotable argument List.mem_cons_self)
        rw [if_pos rfl, put, fill_of_absent absent]
        rfl
      · have kept : Text.replace (placeholder first) argument (placeholder place) =
            placeholder place :=
          (Text.Replaces.of_passes (passes_placeholder (Ne.symm same))).eq
        rw [if_neg same, kept, ih later]

/-- A body that is one placeholder gives the argument of its position, where only the arguments
that are not blank are counted. -/
theorem expand_invocationOf (quotable : ∀ text ∈ texts, IsQuotable text) (name : Text)
    (place : Nat) (source : Option Text) :
    expand (invocationOf name texts) name (placeholder (place + 1)) source =
      .ok ((texts.filter (! Text.blank ·))[place]?.getD (placeholder (place + 1))) := by
  have written : (texts.map fun text => [ArgumentPart.plain text]).map writeArgument = texts := by
    simp [writeArgument, ArgumentPart.write, Function.comp_def]
  have expands := @expands_written_invocation name source (placeholder (place + 1))
    (texts.map fun text => [.plain text]) ?_
  · rw [written, write_invocation_plain] at expands
    rw [expands.expand_eq, fill_placeholder fun text member =>
      quotable text (List.mem_filter.1 member).1]
    simp [argumentAt?]
  · intro argument member
    obtain ⟨text, within, rfl⟩ := List.mem_map.1 member
    simpa [writeArgument, ArgumentPart.write] using quotable text within

theorem not_blank_placeholder (index : Nat) : Text.blank (placeholder index) = false := by
  simp [placeholder_eq, Text.blank, Text.isBlank]

/-- What takes the place of a placeholder is never blank. -/
theorem not_blank_position (texts : List Text) (place : Nat) :
    Text.blank ((texts.filter (! Text.blank ·))[place]?.getD (placeholder (place + 1))) = false := by
  cases found : (texts.filter (! Text.blank ·))[place]? with
  | none => exact not_blank_placeholder _
  | some text => simpa using (List.mem_filter.1 (List.mem_of_getElem? found)).2

/-- Arguments that are not blank, and all in front of them, keep their positions. -/
theorem getElem?_filter_of_take (filled : ∀ text ∈ texts.take (place + 1), Text.blank text = false)
    (within : place < texts.length) : (texts.filter (! Text.blank ·))[place]? = some texts[place] := by
  have front : (texts.take (place + 1)).filter (! Text.blank ·) = texts.take (place + 1) := by
    rw [List.filter_eq_self]
    exact fun text member => by simp [filled text member]
  have whole := congrArg (List.filter (! Text.blank ·)) (List.take_append_drop (place + 1) texts)
  rw [List.filter_append, front] at whole
  rw [← whole, List.getElem?_append_left (by simp; omega), List.getElem?_take_of_lt (by omega),
    List.getElem?_eq_getElem within]

/-- An expansion counts the arguments that are not blank: of a body that is the placeholder of one
of their positions, it makes the argument with that number, and it leaves the placeholder where
there are not as many.  The first arguments, up to any number of them, all keep their positions
exactly if none of them is blank. -/
theorem expand_keeps_positions_iff (quotable : ∀ text ∈ texts, IsQuotable text) (name : Text)
    (source : Option Text) :
    (∀ place, expand (invocationOf name texts) name (placeholder (place + 1)) source =
      .ok ((texts.filter (! Text.blank ·))[place]?.getD (placeholder (place + 1)))) ∧
    ∀ count,
      (∀ place (within : place < texts.length), place < count →
        expand (invocationOf name texts) name (placeholder (place + 1)) source = .ok texts[place]) ↔
      ∀ text ∈ texts.take count, Text.blank text = false := by
  refine ⟨fun place => expand_invocationOf quotable name place source, fun count => ?_⟩
  simp only [expand_invocationOf quotable, Except.ok.injEq]
  constructor
  · intro kept text member
    obtain ⟨place, within, rfl⟩ := List.getElem_of_mem member
    rw [List.length_take, Nat.lt_min] at within
    rw [List.getElem_take, ← kept place within.2 within.1]
    exact not_blank_position texts place
  · intro filled place within early
    rw [getElem?_filter_of_take (fun text member => ?_) within]
    · rfl
    · exact filled text (List.take_subset_take_left texts early member)

section Example

/-- An empty argument, and one with the name of a page. -/
def captions : List Text := [[], "about"]

/-- The second argument moves up to the first position. -/
theorem expand_keeps_positions_iff_captions :
    (∀ text ∈ captions, IsQuotable text) ∧
      expand (invocationOf "card" captions) "card" (placeholder 1) none = .ok "about" ∧
      ∀ count,
        (∀ place (within : place < captions.length), place < count →
          expand (invocationOf "card" captions) "card" (placeholder (place + 1)) none =
            .ok captions[place]) ↔
        ∀ text ∈ captions.take count, Text.blank text = false :=
  ⟨by decide, (expand_keeps_positions_iff (by decide) "card" none).1 0,
    (expand_keeps_positions_iff (by decide) "card" none).2⟩

/-- The placeholder of the second position finds no argument. -/
theorem not_keeps_positions_captions :
    expand "\x7b\x7b card \"\" \"about\" \x7d\x7d" "card" "\x7b\x7b $2 \x7d\x7d" none =
        .ok "\x7b\x7b $2 \x7d\x7d".toList ∧
      ¬ ∀ place (within : place < captions.length),
        expand (invocationOf "card" captions) "card" (placeholder (place + 1)) none =
          .ok captions[place] := by
  refine ⟨by cbv, fun kept => ?_⟩
  have second := kept 1 (by decide)
  rw [expand_invocationOf (by decide)] at second
  exact absurd second (by decide)

end Example

end Component

end StaticSite
