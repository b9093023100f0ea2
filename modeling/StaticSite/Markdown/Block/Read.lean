import StaticSite.Markdown.Block.List
import StaticSite.Markdown.Block.Table

/-!
# Reading blocks

The rules in the order in which they are tried, and the reader that they make.
-/

namespace StaticSite

namespace Markdown

namespace Block

/-- The rules, the first one that takes a block first. -/
def rules : List BlockRule :=
  [emptyRule, indentedRule, codeRule, tableRule, headingRule, underlinedRule, ruleRule,
    numberedListRule, bulletListRule, quotationRule, referenceRule, paragraphRule]

/-- Read blocks with at most so many steps one within or behind the other. -/
def readWithin (rules : List BlockRule) : (fuel : Nat) → BlockReader
  | 0, _, parent, _ => return parent
  | _, _, parent, [] => return parent
  | fuel + 1, surroundings, parent, block :: rest => do
    match rules.findSome? fun rule => rule (readWithin rules fuel) surroundings parent block rest with
    | some step => do
      let (parent, rest) ← step
      readWithin rules fuel surroundings parent rest
    | none => readWithin rules fuel surroundings parent rest

/-- The tree of a text, and the targets of references in it.  Every step takes a character
away or an indentation off, so that there are fewer steps than four for every character. -/
def read (text : Text) : Element × References :=
  (readWithin rules (4 * text.length + 16) [] (Element.named "div") (split text)).run ∅

end Block

end Markdown

end StaticSite
