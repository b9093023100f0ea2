import StaticSite.Markdown.Mark

/-!
# The lines of a source

Before it is read, a source gets one kind of line end, spaces in the place of tabs, empty
lines in the place of blank ones, and two line ends behind it.
-/

namespace StaticSite

namespace Markdown

/-- The distance between two tab stops, and the depth of an indentation. -/
def tabWidth : Nat := 4

def indentation : Text := List.replicate tabWidth ' '

/-- A text with spaces in the place of tabs, from a column on. -/
def expandTabs : (column : Nat) → Text → Text
  | _, [] => []
  | column, '\t' :: rest =>
    let width := tabWidth - column % tabWidth
    List.replicate width ' ' ++ expandTabs (column + width) rest
  | _, '\n' :: rest => '\n' :: expandTabs 0 rest
  | column, character :: rest => character :: expandTabs (column + 1) rest

def emptyIfSpaces (line : Text) : Text := if line.all (· = ' ') then [] else line

/-- Lines in which blank lines are empty; the first line and what follows the last line end
are kept. -/
def emptySpaceLines (lines : List Text) : List Text :=
  match lines with
  | [] => []
  | first :: rest => first :: (rest.dropLast.map emptyIfSpaces ++ rest.getLast?.toList)

def normalize (source : Text) : Text :=
  let unmarked := source.filter fun character =>
    character ≠ markOpening && character ≠ markClosing
  let expanded := expandTabs 0 (Text.unifyLineEnds unmarked ++ "\n\n")
  Text.join "\n" (emptySpaceLines (Text.lines expanded))

end Markdown

end StaticSite
