import StaticSite.Dictionary
import StaticSite.Fault
import StaticSite.Text.Lemmas

/-!
# Components

A component is a named piece of text.  A page invokes it as `{{ name "first" "second" }}`,
and in the component's body `{{ $1 }}`, `{{ $2 }}` and so on stand for the arguments.  Text
that came in through an invocation is not searched again for the same name; invocations of
other names in it are expanded in a later pass.
-/

namespace StaticSite

namespace Component

/-- What begins an invocation or a placeholder. -/
def opening : Text := "\x7b\x7b "

/-- What ends an invocation or a placeholder. -/
def closing : Text := " \x7d\x7d"

/-- The arguments between a name and the closing mark: the parts between double quotes that
are not blank. -/
def arguments (raw : Text) : List Text :=
  (Text.splitOn (· = '"') (Text.trim raw)).filter (! Text.blank ·)

/-- The placeholder of an argument, counted from one. -/
def placeholder (index : Nat) : Text := opening ++ "$" ++ Text.ofNat index ++ closing

/-- Put arguments in the place of the placeholders from an index on, one index after the
other. -/
def fill (body : Text) : (index : Nat) → List Text → Text
  | _, [] => body
  | index, argument :: rest =>
    fill (Text.replace (placeholder index) argument body) (index + 1) rest

def placeAfter (source : Option Text) (text : Text) : Place :=
  ⟨source, some (Text.lineFeeds text + 1), some (Text.lastLineLength text + 1)⟩

/-- Expand the invocations of a component in what is left of a text, behind the part that
is finished. -/
def expandFrom (name body : Text) (source : Option Text) (finished rest : Text) :
    Except Fault Text :=
  match _ : Text.cut? (opening ++ name) rest with
  | none => .ok (finished ++ rest)
  | some (before, following) =>
    if Text.startsWith " " following then
      match _ : Text.cut? closing following with
      | none =>
        .error (.component (.unclosed name) (placeAfter source (finished ++ before)))
      | some (raw, following) =>
        expandFrom name body source (finished ++ before ++ fill body 1 (arguments raw)) following
    else expandFrom name body source (finished ++ before ++ opening ++ name) following
termination_by rest.length
decreasing_by
  all_goals
    have outer := Text.length_of_cut? ‹Text.cut? (opening ++ name) rest = _›
    have long : (opening ++ name).length = 3 + name.length := by
      simp only [opening, List.length_append]
      rfl
  · have inner := Text.length_of_cut? ‹Text.cut? closing _ = _›
    omega
  · omega

/-- Replace every invocation of a component by its body with the arguments filled in. -/
def expand (content name body : Text) (source : Option Text) : Except Fault Text :=
  expandFrom name body source [] content

/-- One pass: expand the components one after the other. -/
def expandEach (source : Option Text) : List (Text × Text) → Text → Except Fault Text
  | [], content => .ok content
  | (name, body) :: rest, content => do
    expandEach source rest (← expand content name body source)

/-- Repeat a pass until it changes nothing, a limited number of times. -/
def expandPasses (source : Option Text) (components : List (Text × Text)) :
    (passes : Nat) → Text → Except Fault Text
  | 0, _ => .error (.component .cyclic ⟨source, none, none⟩)
  | passes + 1, content => do
    let expanded ← expandEach source components content
    if expanded = content then return content
    else expandPasses source components passes expanded

def inOrder (components : Dictionary Text) : List (Text × Text) :=
  components.entries.mergeSort fun first second => Text.lessEqual first.1 second.1

/-- Expand all components, in passes that each visit them in the order of their names.
Without a cycle every pass resolves a level of nesting, so that one pass more than there
are components reaches the end. -/
def expandAll (content : Text) (components : Dictionary Text) (source : Option Text) :
    Except Fault Text :=
  expandPasses source (inOrder components) (components.entries.length + 1) content

end Component

end StaticSite
