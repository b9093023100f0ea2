import StaticSite.Proofs.Component.Unfolding

/-!
# Inlining a page

On the grammar an unfolded page is its inlining.  Without a cycle there are no more levels of
nesting than components, so the passes end with the inlining of the page.
-/

namespace StaticSite

namespace Component

variable {library : Dictionary Body} {page body : Body} {depth : Nat}

section Pages

theorem Piece.fits_fill {first : Nat} {arguments : List Text} {piece : Piece}
    (fits : piece.Fits library) : (piece.fill first arguments).Fits library := by
  cases filled : piece.fill first arguments with
  | chunk text => trivial
  | placeholder index => trivial
  | invocation name others =>
      obtain ⟨originals, rfl, length⟩ := piece.fill_invocation filled
      intro target found index member
      rw [length]
      exact fits target found index member

/-- With an argument for each placeholder, no placeholder is left. -/
theorem Piece.placeholders_fill {arguments : List Text} {piece : Piece}
    (wellFormed : piece.WellFormed) (enough : ∀ index ∈ piece.placeholders, index ≤ arguments.length) :
    (piece.fill 1 arguments).placeholders = [] := by
  cases piece with
  | chunk text => rfl
  | placeholder index =>
      obtain ⟨argument, found⟩ := argumentAt?_isSome wellFormed (enough index (by simp [placeholders]))
      simp [fill, found, placeholders]
  | invocation name others => exact passedOn_fill wellFormed.fillable enough

theorem Piece.passedOn_subset (piece : Piece) : piece.passedOn ⊆ piece.placeholders := by
  cases piece with
  | chunk text => exact List.nil_subset _
  | placeholder index => exact List.nil_subset _
  | invocation name arguments => exact List.Subset.refl _

theorem Piece.Fits.reaches {piece : Piece} (fits : piece.Fits library) : piece.Reaches library := by
  cases piece with
  | chunk text => trivial
  | placeholder index => trivial
  | invocation name arguments =>
      intro target found index member
      obtain ⟨piece, pieceMember, within⟩ := List.mem_flatMap.1 member
      exact fits target found index
        (List.mem_flatMap.2 ⟨piece, pieceMember, piece.passedOn_subset within⟩)

theorem IsLibrary.separate (isLibrary : IsLibrary library) {names : List Text}
    (known : library.keys ⊆ names) : Separate names library where
  isName := isLibrary.isName
  known := known
  sound name body found piece member := (isLibrary.wellFormed name body found piece member).sound _
  reaches name body found piece member := (isLibrary.fits name body found piece member).reaches

theorem IsPage.separate (isPage : IsPage library page) (names : List Text) :
    SeparatePage names library page where
  sound piece member := (isPage.wellFormed piece member).sound _
  reaches piece member := (isPage.fits piece member).reaches
  settled piece member := by
    have nothing := piece.passedOn_subset
    rw [isPage.noPlaceholders piece member] at nothing
    exact List.subset_nil.1 nothing

/-- The body of a component with the arguments of an invocation in a page is a page. -/
theorem IsPage.instantiate (isLibrary : IsLibrary library) (isPage : IsPage library page)
    {name : Text} {arguments : List Argument} (member : .invocation name arguments ∈ page)
    (found : library.get? name = some body) :
    IsPage library (Component.instantiate arguments body) := by
  have areTexts : ∀ argument ∈ arguments.map writeArgument, IsArgumentText argument := by
    simpa using isArgumentText_of_mem (isPage.wellFormed _ member).fillable
      ((isPage.separate library.keys).settled _ member)
  refine ⟨?_, ?_, ?_⟩
  all_goals
    intro piece pieceMember
    obtain ⟨part, partMember, rfl⟩ := List.mem_map.1 pieceMember
    have wellFormed := isLibrary.wellFormed name body found part partMember
  · exact Piece.wellFormed_fill wellFormed areTexts
  · exact Piece.fits_fill (isLibrary.fits name body found part partMember)
  · refine Piece.placeholders_fill wellFormed fun index indexMember => ?_
    rw [List.length_map]
    exact isPage.fits _ member body found index (List.mem_flatMap.2 ⟨part, partMember, indexMember⟩)

theorem IsPage.tail {piece : Piece} (isPage : IsPage library (piece :: page)) :
    IsPage library page :=
  ⟨fun other member => isPage.wellFormed other (List.mem_cons_of_mem _ member),
    fun other member => isPage.fits other (List.mem_cons_of_mem _ member),
    fun other member => isPage.noPlaceholders other (List.mem_cons_of_mem _ member)⟩

end Pages

section Meaning

/-- A page has one inlining at most. -/
theorem Inlines.unique {text other : Text} (inlines : Inlines library page text)
    (others : Inlines library page other) : text = other := by
  induction inlines generalizing other with
  | nil => cases others; rfl
  | chunk _ ih =>
      cases others with
      | chunk later => rw [ih later]
  | foreign absent _ ih =>
      cases others with
      | foreign _ later => rw [ih later]
      | component found _ _ => simp [absent] at found
  | component found _ _ insideIH laterIH =>
      cases others with
      | foreign absent _ => simp [absent] at found
      | component again inside later =>
          obtain rfl := Option.some.inj (found.symm.trans again)
          rw [insideIH inside, laterIH later]

theorem Inlines.of_foreign (isPage : IsPage library page) (shallow : NestsWithin library 0 page) :
    Inlines library page (writeBody page) := by
  induction page with
  | nil => exact .nil
  | cons piece page ih =>
      have rest := ih isPage.tail fun name arguments member =>
        shallow name arguments (List.mem_cons_of_mem _ member)
      cases piece with
      | chunk text => exact .chunk rest
      | placeholder index =>
          have nothing := isPage.noPlaceholders (.placeholder index) List.mem_cons_self
          simp [Piece.placeholders] at nothing
      | invocation name arguments =>
          exact .foreign (shallow name arguments List.mem_cons_self) rest

/-- A page that is unfolded to the end is inlined. -/
theorem inlines_unfold (isLibrary : IsLibrary library) (isPage : IsPage library page)
    (nests : NestsWithin library depth page) :
    Inlines library page (writeBody (unfold library depth page)) := by
  induction depth generalizing page with
  | zero => exact .of_foreign isPage nests
  | succ depth inside =>
      induction page with
      | nil => exact .nil
      | cons piece page later =>
          have rest := later isPage.tail fun name arguments member =>
            nests name arguments (List.mem_cons_of_mem _ member)
          have parted : writeBody (unfold library (depth + 1) (piece :: page)) =
              writeBody (piece.unfold library (unfold library depth)) ++
                writeBody (unfold library (depth + 1) page) := by
            rw [unfold, List.flatMap_cons, writeBody, List.flatMap_append]
            rfl
          rw [parted]
          cases piece with
          | chunk text =>
              have single : writeBody (Piece.unfold library (unfold library depth) (.chunk text)) =
                  text := by
                simp [Piece.unfold, writeBody, Piece.write]
              rw [single]
              exact .chunk rest
          | placeholder index =>
              have nothing := isPage.noPlaceholders (.placeholder index) List.mem_cons_self
              simp [Piece.placeholders] at nothing
          | invocation name arguments =>
              cases found : library.get? name with
              | none =>
                  have single : writeBody (Piece.unfold library (unfold library depth)
                      (.invocation name arguments)) = (Piece.invocation name arguments).write := by
                    simp [Piece.unfold, found, writeBody]
                  rw [single]
                  exact .foreign found rest
              | some body =>
                  rw [Piece.unfold, found]
                  have nested := nests name arguments List.mem_cons_self body found
                  exact .component found (inside
                    (isPage.instantiate isLibrary List.mem_cons_self found)
                    (nestsWithin_instantiate.2 nested)) rest

end Meaning

/-- Expanding all components of a library in a page gives the full recursive inlining of the
page, and nothing else is an inlining of it. -/
theorem expandAll_eq_inlining (library : Dictionary Body) (page : Body) (source : Option Text)
    (isLibrary : IsLibrary library) (isPage : IsPage library page) :
    ∃ text,
      expandAll (writeBody page) (library.map writeBody) source = .ok text ∧
        Inlines library page text ∧ ∀ other, Inlines library page other → other = text := by
  have nests := NestsWithin.of_acyclic isLibrary.acyclic page
  have inlines := inlines_unfold isLibrary isPage nests
  have separate := isLibrary.separate (List.Subset.refl _)
  exact ⟨_, expandAll_writeBody separate (isPage.separate _) nests source, inlines,
    fun other others => others.unique inlines⟩

section Example

/-- A card shows its title and has an icon, whose name is made from the second argument. -/
def cardLibrary : Dictionary Body :=
  Dictionary.ofList [
    ("card".toList, [.chunk "<b>".toList, .placeholder 1, .chunk "</b>".toList,
      .invocation "icon".toList [[.plain "i-".toList, .placeholder 2]]]),
    ("icon".toList, [.chunk "<i>".toList, .placeholder 1, .chunk "</i>".toList])]

/-- A page with a card and an invocation that the library does not have. -/
def cardPage : Body :=
  [.chunk "x ".toList, .invocation "card".toList [[.plain "A B".toList], [.plain "c".toList]],
    .invocation "cards".toList []]

theorem cardLibrary_isLibrary : IsLibrary cardLibrary where
  isName := by decide
  wellFormed name body found := by
    have all : ∀ entry ∈ cardLibrary.entries, ∀ piece ∈ entry.2, piece.WellFormed := by decide
    exact all _ (Dictionary.get?_eq_some_iff.1 found)
  fits name body found := by
    have all : ∀ entry ∈ cardLibrary.entries, ∀ piece ∈ entry.2, piece.Fits cardLibrary := by
      decide
    exact all _ (Dictionary.get?_eq_some_iff.1 found)
  acyclic name := by
    -- Only the card invokes a component, and that is the icon.
    have calls : ∀ caller callee, Calls cardLibrary caller callee →
        caller = "card".toList ∧ callee = "icon".toList := by
      rintro caller callee ⟨body, arguments, found, member, -⟩
      have entry := Dictionary.get?_eq_some_iff.1 found
      rcases List.mem_cons.1 entry with card | rest
      · obtain ⟨rfl, rfl⟩ := Prod.mk.inj card
        simp only [List.mem_cons, reduceCtorEq, Piece.invocation.injEq, false_or,
          List.not_mem_nil, or_false] at member
        exact ⟨rfl, member.1⟩
      · obtain ⟨rfl, rfl⟩ := Prod.mk.inj (List.mem_singleton.1 rest)
        simp at member
    intro cycle
    obtain ⟨next, first, -⟩ := Relation.TransGen.head'_iff.1 cycle
    obtain ⟨before, -, last⟩ := Relation.TransGen.tail'_iff.1 cycle
    exact absurd ((calls _ _ first).1.symm.trans (calls _ _ last).2) (by decide)

theorem expandAll_eq_inlining_card :
    IsLibrary cardLibrary ∧ IsPage cardLibrary cardPage ∧
      ∃ text,
        expandAll (writeBody cardPage) (cardLibrary.map writeBody) none = .ok text ∧
          Inlines cardLibrary cardPage text ∧
            ∀ other, Inlines cardLibrary cardPage other → other = text :=
  have isPage : IsPage cardLibrary cardPage := ⟨by decide, by decide, by decide⟩
  ⟨cardLibrary_isLibrary, isPage,
    expandAll_eq_inlining cardLibrary cardPage none cardLibrary_isLibrary isPage⟩

end Example

end Component

end StaticSite
