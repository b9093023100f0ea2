import StaticSite.Markdown.Block.Basic
import StaticSite.Markdown.Mark

/-!
# Inline content

The text of an element is searched for inline markup by one rule after the other.  What a
rule finds is taken out of the text and held, and a mark stands in its place, so that later
rules do not look into it.
-/

namespace StaticSite

namespace Markdown

/-- What a mark in a text stands for. -/
inductive Held where
  | element (element : Element)
  | text (text : Text)

/-- What is kept while inline content is read. -/
structure InlineState where
  held : Array Held := #[]
  raws : RawStore := #[]

/-- A step that may keep inline content and look up references. -/
abbrev Inlining := ReaderT References (StateM InlineState)

/-- What a rule makes of a match. -/
inductive Finding where
  /-- It is none; the rule looks for the next match. -/
  | refused
  /-- It has no meaning, and the rule goes on behind it. -/
  | passed (stop : Pattern.Spot)
  | taken (held : Held) (stop : Pattern.Spot)

/-- A rule for inline markup: where it may begin, and what it makes of a match. -/
structure InlineRule where
  pattern : Pattern
  find : Pattern.Found → Inlining Finding

namespace Inline

/-- Hold something; the answer is its mark. -/
def hold (held : Held) : Inlining Text := do
  let number := (← get).held.size
  modify fun state => { state with held := state.held.push held }
  return (Mark.held number).text

/-- Keep raw markup; the answer is its mark. -/
def keepRaw (markup : Text) : Inlining Text := do
  let (mark, raws) := (Markdown.keepRaw markup).run (← get).raws
  modify fun state => { state with raws := raws }
  return mark

def Held.plainText : Held → Text
  | .element element => element.textWithin
  | .text text => text

def restoreText (text : Text) : Inlining Text := do
  let held := (← get).held
  return replaceMarks
    (fun
      | .held number => held[number]?.map Held.plainText
      | _ => none)
    text

/-- A text with the source of what its marks hold.  An element is written out, in which there
may be marks again; a text stands behind a backslash. -/
def sourceOf (held : Array Held) : (fuel : Nat) → Text → Text
  | 0, text => text
  | fuel + 1, text =>
    replaceMarks
      (fun
        | .held number =>
          match held[number]? with
          | some (.element element) => some (sourceOf held fuel element.write)
          | some (.text text) => some ('\\' :: text)
          | none => none
        | _ => none)
      text

/-- A text with the source of what its marks hold, and with escaped characters put back. -/
def restoreSource (text : Text) : Inlining Text := do
  let held := (← get).held
  return putEscapedBack (sourceOf held (held.size + 1) text)

/-- The rule of a pattern that gives an element or a text. -/
def ruleOf (pattern : Pattern) (make : Pattern.Found → Inlining Held) : InlineRule :=
  ⟨pattern, fun found => return .taken (← make found) found.stop⟩

end Inline

end Markdown

end StaticSite
