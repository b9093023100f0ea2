import StaticSite.Markdown.Block.Read
import StaticSite.Markdown.Contents
import StaticSite.Markdown.Fence
import StaticSite.Markdown.Inline.Read
import StaticSite.Markdown.RawBlock

/-!
# Rendering documents in Markdown

A document is rendered in steps: fenced code and raw markup are taken out, blocks and then
inline content are read, and the tree is written with everything put back.
-/

namespace StaticSite

namespace Markdown

/-- Read the inline content of a tree that was made of so many characters. -/
def readInline (size : Nat) (references : References) (tree : Element) : Keeping Element := do
  let (tree, state) := ((Inline.readTree size tree).run references).run { raws := ← get }
  set state.raws
  return tree

/-- The tree of a text whose fenced code is kept already. -/
def readTree (text : Text) : Keeping Element := do
  let text ← RawBlock.keep text
  let (tree, references) := Block.read text
  let tree ← Layout.keepListings tree
  return Layout.lines (← readInline text.length references tree)

/-- The written form of what is within a tree. -/
def writeInside (raws : RawStore) (tree : Element) : Text :=
  let tree := (Contents.apply raws tree).mapTree Layout.unescape
  let written := Element.escapeText tree.inside.text ++ Element.writeAll tree.children
  Text.trim (Layout.restore raws (Text.trim written))

def render (source : Text) : Except ListingFault Text := do
  if Text.blank source then return []
  else
    let (text, raws) ← (Fence.keep (normalize source)).run #[]
    let (tree, raws) := (readTree text).run raws
    return writeInside raws tree

end Markdown

end StaticSite
