import Mathlib.Data.List.Infix
import Mathlib.Logic.Relation
import StaticSite.Component
import StaticSite.Proofs.Dictionary

/-!
# The grammar of pages and components

A text with components is a sequence of chunks, placeholders and invocations.  Here are its
syntax, its written form, and what it means: the inlining of a page puts the inlining of a
component's body, with the arguments in the place of the placeholders, in the place of every
invocation.
-/

namespace StaticSite

namespace Component

/-- A part of an argument. -/
inductive ArgumentPart where
  | plain (text : Text)
  | placeholder (index : Nat)
  deriving DecidableEq, Repr

/-- An argument of an invocation, between its quotation marks. -/
abbrev Argument := List ArgumentPart

/-- A piece of a component's body. -/
inductive Piece where
  /-- Text that is neither a placeholder nor an invocation. -/
  | chunk (text : Text)
  | placeholder (index : Nat)
  | invocation (name : Text) (arguments : List Argument)
  deriving DecidableEq, Repr

/-- The body of a component, or a page. -/
abbrev Body := List Piece

section Writing

/-- The written form of a part of an argument. -/
def ArgumentPart.write : ArgumentPart → Text
  | .plain text => text
  | .placeholder index => Component.placeholder index

/-- The written form of an argument. -/
def writeArgument (argument : Argument) : Text := argument.flatMap ArgumentPart.write

/-- The written form of the arguments of an invocation: each stands between quotation marks
behind a space. -/
def writeArguments (arguments : List Argument) : Text :=
  arguments.flatMap fun argument => [' ', '"'] ++ writeArgument argument ++ ['"']

/-- The written form of a piece. -/
def Piece.write : Piece → Text
  | .chunk text => text
  | .placeholder index => Component.placeholder index
  | .invocation name arguments => opening ++ name ++ writeArguments arguments ++ closing

/-- The written form of a body. -/
def writeBody (body : Body) : Text := body.flatMap Piece.write

end Writing

section Grammar

/-- A chunk has no two opening braces in a row and does not end with one. -/
def IsChunk (text : Text) : Prop := ¬ ['{', '{'] <:+: text ∧ text.getLast? ≠ some '{'

instance (text : Text) : Decidable (IsChunk text) := inferInstanceAs (Decidable (_ ∧ _))

/-- A name is not empty, does not begin with a dollar sign and has neither white space nor
quotation marks nor braces. -/
def IsName (name : Text) : Prop :=
  name ≠ [] ∧ name.head? ≠ some '$' ∧
    ∀ character ∈ name,
      Text.isBlank character = false ∧ character ≠ '"' ∧ character ≠ '{' ∧ character ≠ '}'

instance (name : Text) : Decidable (IsName name) :=
  @instDecidableAnd _ _ _ (@instDecidableAnd _ _ _ (List.decidableBAll _ name))

/-- The text in an argument has neither quotation marks nor braces, and placeholders are
counted from one. -/
def ArgumentPart.WellFormed : ArgumentPart → Prop
  | .plain text => '"' ∉ text ∧ '{' ∉ text ∧ '}' ∉ text
  | .placeholder index => 1 ≤ index

instance (part : ArgumentPart) : Decidable part.WellFormed :=
  match part with
  | .plain _ => inferInstanceAs (Decidable (_ ∧ _ ∧ _))
  | .placeholder _ => inferInstanceAs (Decidable (_ ≤ _))

/-- An argument has well-formed parts and is not blank. -/
def IsArgument (argument : Argument) : Prop :=
  (∀ part ∈ argument, part.WellFormed) ∧ Text.blank (writeArgument argument) = false

instance (argument : Argument) : Decidable (IsArgument argument) :=
  inferInstanceAs (Decidable ((∀ part ∈ argument, _) ∧ _))

/-- A piece of the grammar. -/
def Piece.WellFormed : Piece → Prop
  | .chunk text => IsChunk text
  | .placeholder index => 1 ≤ index
  | .invocation name arguments => IsName name ∧ ∀ argument ∈ arguments, IsArgument argument

instance (piece : Piece) : Decidable piece.WellFormed :=
  match piece with
  | .chunk text => inferInstanceAs (Decidable (IsChunk text))
  | .placeholder _ => inferInstanceAs (Decidable (_ ≤ _))
  | .invocation _ arguments => inferInstanceAs (Decidable (_ ∧ ∀ argument ∈ arguments, _))

/-- The indices of the placeholders in a part of an argument. -/
def ArgumentPart.placeholders : ArgumentPart → List Nat
  | .plain _ => []
  | .placeholder index => [index]

/-- The indices of the placeholders in a piece. -/
def Piece.placeholders : Piece → List Nat
  | .chunk _ => []
  | .placeholder index => [index]
  | .invocation _ arguments => arguments.flatten.flatMap ArgumentPart.placeholders

/-- The indices of the placeholders in a body. -/
def placeholders (body : Body) : List Nat := body.flatMap Piece.placeholders

/-- Whether a piece, if it invokes a component of a library, passes an argument for each
placeholder of that component. -/
def Piece.Fits (library : Dictionary Body) : Piece → Prop
  | .invocation name arguments =>
    ∀ target, library.get? name = some target →
      ∀ index ∈ Component.placeholders target, index ≤ arguments.length
  | _ => True

instance (library : Dictionary Body) (piece : Piece) : Decidable (piece.Fits library) :=
  match piece with
  | .chunk _ => inferInstanceAs (Decidable True)
  | .placeholder _ => inferInstanceAs (Decidable True)
  | .invocation name arguments =>
    inferInstanceAs (Decidable (∀ target ∈ library.get? name,
      ∀ index ∈ Component.placeholders target, index ≤ arguments.length))

/-- Whether a component invokes another one of a library. -/
def Calls (library : Dictionary Body) (caller callee : Text) : Prop :=
  ∃ body arguments, library.get? caller = some body ∧ .invocation callee arguments ∈ body ∧
    callee ∈ library.keys

/-- Components that keep to the grammar. -/
structure IsLibrary (library : Dictionary Body) : Prop where
  isName : ∀ name ∈ library.keys, IsName name
  wellFormed : ∀ name body, library.get? name = some body → ∀ piece ∈ body, piece.WellFormed
  fits : ∀ name body, library.get? name = some body → ∀ piece ∈ body, piece.Fits library
  /-- No component invokes itself, directly or through others. -/
  acyclic : ∀ name, ¬ Relation.TransGen (Calls library) name name

/-- A page that keeps to the grammar.  Only components have placeholders. -/
structure IsPage (library : Dictionary Body) (page : Body) : Prop where
  wellFormed : ∀ piece ∈ page, piece.WellFormed
  fits : ∀ piece ∈ page, piece.Fits library
  noPlaceholders : ∀ piece ∈ page, piece.placeholders = []

end Grammar

section Meaning

/-- The argument of a placeholder, if the arguments are counted from an index on. -/
def argumentAt? (first : Nat) (arguments : List Text) (index : Nat) : Option Text :=
  if index < first then none else arguments[index - first]?

/-- Put arguments in the place of the placeholders in a part of an argument. -/
def ArgumentPart.fill (first : Nat) (arguments : List Text) : ArgumentPart → ArgumentPart
  | .plain text => .plain text
  | .placeholder index =>
    match argumentAt? first arguments index with
    | some argument => .plain argument
    | none => .placeholder index

/-- Put arguments in the place of the placeholders in a piece, all at once. -/
def Piece.fill (first : Nat) (arguments : List Text) : Piece → Piece
  | .chunk text => .chunk text
  | .placeholder index =>
    match argumentAt? first arguments index with
    | some argument => .chunk argument
    | none => .placeholder index
  | .invocation name others =>
    .invocation name (others.map fun argument => argument.map (ArgumentPart.fill first arguments))

/-- The body of a component with arguments, the first of which is for the placeholder of index
one. -/
def instantiate (arguments : List Argument) (body : Body) : Body :=
  body.map (Piece.fill 1 (arguments.map writeArgument))

/-- What a page stands for: the full recursive inlining of its invocations.  Invocations of
names that the library does not have are kept. -/
inductive Inlines (library : Dictionary Body) : Body → Text → Prop where
  | nil : Inlines library [] []
  | chunk {text rest : Text} {page : Body} (later : Inlines library page rest) :
      Inlines library (.chunk text :: page) (text ++ rest)
  | foreign {name rest : Text} {arguments : List Argument} {page : Body}
      (absent : library.get? name = none) (later : Inlines library page rest) :
      Inlines library (.invocation name arguments :: page)
        ((Piece.invocation name arguments).write ++ rest)
  | component {name inner rest : Text} {arguments : List Argument} {body page : Body}
      (found : library.get? name = some body)
      (inside : Inlines library (instantiate arguments body) inner)
      (later : Inlines library page rest) :
      Inlines library (.invocation name arguments :: page) (inner ++ rest)

end Meaning

end Component

end StaticSite
