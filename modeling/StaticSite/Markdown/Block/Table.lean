import StaticSite.Markdown.Block.Basic

/-!
# Tables

A table has a row of headings, a row of dashes that also aligns the columns, and any number
of rows.  Bars divide the cells of a row; a bar within a code span divides nothing.
-/

namespace StaticSite

namespace Markdown

namespace Block

/-- How the cells of a column are aligned. -/
inductive Alignment where
  | left
  | center
  | right
  deriving DecidableEq, Repr

def Alignment.word : Alignment → Text
  | .left => "left"
  | .center => "center"
  | .right => "right"

/-- The alignment that a cell of the row of dashes asks for. -/
def Alignment.ofCell? (cell : Text) : Option Alignment :=
  let cell := Text.trimOf (· = ' ') cell
  match Text.startsWith ":" cell, Text.endsWith ":" cell with
  | true, true => some .center
  | true, false => some .left
  | false, true => some .right
  | false, false => none

/-- What matters in a row: two backslashes, backticks behind a backslash, backticks, a bar
behind a backslash, and a bar. -/
def rowSign : Pattern :=
  .anyOf
    [.group 1 (.word "\\\\"), .group 2 (.both (.word "\\") (.plus (.word "`"))),
      .group 3 (.plus (.word "`")), .group 4 (.word "\\|"), .group 5 (.word "|")]

/-- A stretch of backticks in a row.  A backslash in front makes the first one count for
nothing where a code span would begin. -/
structure Ticks where
  count : Nat
  start : Nat
  last : Nat
  isEscaped : Bool
  deriving DecidableEq, Repr

/-- The stretches of backticks among the signs of a row. -/
def ticksOf (signs : List Pattern.Found) : List Ticks :=
  signs.filterMap fun sign =>
    if sign.has 2 then
      some ⟨(sign.group 2).length - 1, sign.start.offset, sign.stop.offset - 1, true⟩
    else if sign.has 3 then
      some ⟨(sign.group 3).length, sign.start.offset, sign.stop.offset - 1, false⟩
    else none

/-- The code spans of a row: a stretch of backticks is closed by the next one of its
length. -/
def codeSpans : List Ticks → List (Nat × Nat)
  | [] => []
  | opening :: later =>
    let size := opening.count - (if opening.isEscaped then 1 else 0)
    if size = 0 then codeSpans later
    else
      match _split : later.dropWhile (·.count ≠ size) with
      | [] => codeSpans later
      | closing :: rest => (opening.start, closing.last) :: codeSpans rest
termination_by ticks => ticks.length
decreasing_by
  · simp
  · simp
  · have shorter := (List.dropWhile_sublist (l := later) fun ticks : Ticks =>
      decide (ticks.count ≠ size)).length_le
    rw [_split] at shorter
    simp only [List.length_cons] at shorter ⊢
    omega

/-- Cut a row at some offsets; the characters there are dropped. -/
def cutAt : (offset : Nat) → List Nat → Text → List Text
  | _, [], row => [row]
  | offset, bar :: bars, row =>
    row.take (bar - offset) :: cutAt (bar + 1) bars (row.drop (bar + 1 - offset))

def cellsBetween (row : Text) : List Text :=
  let signs := rowSign.searchAll row
  let spans := codeSpans (ticksOf signs)
  let bars := signs.filterMap fun sign => if sign.has 5 then some sign.start.offset else none
  let dividing := bars.filter fun bar => spans.all fun (start, last) => bar < start || last < bar
  cutAt 0 dividing row

/-- A bar at the end of a row that is not escaped. -/
def endBorder : Pattern :=
  .all [.behind false (· = '\\'), .star (.word "\\\\"), .word "|", .ending false]

def withoutBorders (row : Text) : Text :=
  let row := (Text.after? "|" row).getD row
  endBorder.replace (fun _ => []) row

def cellsOf (hasBorder : Bool) (row : Text) : List Text :=
  cellsBetween (if hasBorder then withoutBorders row else row)

def hasBorder (row : Text) : Bool := Text.startsWith "|" row || (endBorder.search row).isSome

/-- The columns of a table: whether its rows have borders, and the alignments; nothing if
the rows are no table. -/
def columnsOf? (rows : List Text) : Option (Bool × List (Option Alignment)) :=
  match rows with
  | header :: dashes :: later =>
    let bordered := hasBorder header
    let width := (cellsOf bordered header).length
    let isWide := decide (1 < width) ||
      (decide (width = 1) && bordered && (dashes :: later).all hasBorder)
    let cells := cellsOf bordered dashes
    if isWide && cells.length = width &&
        cells.all fun cell => cell.all fun character => character ∈ "|:- ".toList then
      some (bordered, cells.map Alignment.ofCell?)
    else none
  | _ => none

def cellElement (tag : Text) (alignment : Option Alignment) (text : Text) : Element :=
  let cell := Element.holding tag (.plain text)
  match alignment with
  | some alignment => cell.withAttribute "style" ("text-align: " ++ alignment.word ++ ";")
  | none => cell

/-- A row of a table; it has as many cells as there are columns. -/
def rowElement (tag : Text) (columns : List (Option Alignment)) (cells : List Text) : Element :=
  (Element.named "tr").withChildren <| columns.zipIdx.map fun (alignment, index) =>
    cellElement tag alignment (Text.trimOf (· = ' ') (cells.getD index []))

def tableRule : BlockRule := fun _ _ parent block rest =>
  let rows := (Text.lines block).map (Text.trimOf (· = ' '))
  match columnsOf? rows, rows with
  | some (bordered, columns), header :: _ :: later =>
    let head := (Element.named "thead").add (rowElement "th" columns (cellsOf bordered header))
    let shown :=
      if later.isEmpty then [rowElement "td" (columns.map fun _ => none) []]
      else later.map fun row => rowElement "td" columns (cellsOf bordered row)
    let body := (Element.named "tbody").withChildren shown
    some (return (parent.add ((Element.named "table").withChildren [head, body]), rest))
  | _, _ => none

end Block

end Markdown

end StaticSite
