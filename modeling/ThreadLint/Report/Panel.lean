import ThreadLint.Markup
import ThreadLint.Text.Segment

/-!
This module contains boxes around some lines of text, with a title in the upper edge, and tables with
a heading, drawn with lines around every cell.
-/

namespace ThreadLint.Panel

/-! ### Boxes -/

/--
A text with blanks behind it that fill the given number of cells.
-/
def padded (room : Nat) (text : String) : String :=
  text ++ String.ofList (List.replicate (room - Text.width text.toList) ' ')

/--
A horizontal edge of so many cells.
-/
def edge (length : Nat) : String :=
  String.ofList (List.replicate length '─')

/--
What is shown of the markup of a title: one line, with a blank at each end.
-/
def titleText (title : String) : List Char :=
  let line := (Markup.plain title).toList.map fun c => if c == '\n' then ' ' else c
  ' ' :: Text.expandTabs Text.tabStop Text.cells line ++ [' ']

/--
The number of cells of the longest line of a text, where every character counts that ends a line.
-/
def longest (text : String) : Nat :=
  (Text.lines text).foldl (fun longest line => max longest (lineWidth line)) 0
where
  lineWidth (line : String) : Nat :=
    Text.width (line.toList.filter fun c => !Text.isLineEnd c)

/--
The width of a panel: that of its content or of its title, whichever is more, with two cells on each
side for the edge, as long as there is room.
-/
def width (room : Nat) (title content : String) : Nat :=
  min room (max (longest content + 4) (Text.width (titleText title) + 4))

/--
The upper edge of a panel, with the title in its middle. A title that is too long is cut, and a
panel of four cells or less has none.
-/
def top (width : Nat) (title : String) : String :=
  if width ≤ 4 then "╭" ++ edge (width - 2) ++ "╮"
  else
    let shown := Text.cropped (width - 4) (titleText title)
    let excess := width - 4 - Text.width shown
    let framed := (edge (excess / 2)).toList ++ shown ++ (edge (excess - excess / 2)).toList
    "╭─" ++ String.ofList (Text.fitted (width - 4) framed) ++ "─╮"

/--
A panel of the given width around lines that fit into it. In a panel of four cells or less there is
no room for any, and one of a single cell has only the left end of its edges.
-/
def framed (width : Nat) (title : String) (lines : List (List Char)) : List String :=
  let shown := if width ≤ 4 then [] else lines
  let panel := top width title ::
    shown.map (fun line => "│ " ++ padded (width - 4) (String.ofList line) ++ " │") ++
    ["╰" ++ edge (width - 2) ++ "╯"]
  if width < 2 then panel.map fun line => String.ofList (line.toList.take width) else panel

/--
A panel in which lines that are too long are broken.
-/
def wrapped (room : Nat) (title content : String) : List String :=
  let width := width room title content
  framed width title ((Text.wrap (width - 4) content).map String.toList)

/--
A text as a listing shows it: without a mark for the order of bytes in front, with every carriage
return as the end of a line or as part of one, and with blanks for tabs.
-/
def listing (text : String) : String :=
  let expanded := Text.expandTabs 4 (fun _ => 1) text.toList
  let marked := match expanded with
    | '\ufeff' :: rest => rest
    | cs => cs
  String.ofList (lineFeeds (marked ++ ['\n'])).dropLast
where
  lineFeeds : List Char → List Char
    | '\r' :: '\n' :: rest => '\n' :: lineFeeds rest
    | c :: rest => (if c == '\r' then '\n' else c) :: lineFeeds rest
    | [] => []

/--
A panel with a listing in which lines that are too long are cut.
-/
def cut (room : Nat) (title content : String) : List String :=
  let width := width room title content
  framed width title ((Text.pieces '\n' (listing content)).map fun line =>
    Text.fitted (width - 4) (line.toList.filter fun c => !Text.isCursorControl c))

end ThreadLint.Panel

namespace ThreadLint.Grid

/-! ### Tables -/

/--
A column: its heading, and whether its cells stand in the middle.
-/
structure Column where
  heading : String
  isCentred : Bool := false
  deriving DecidableEq, Repr, Inhabited

/--
The width of each column, which is that of its widest cell.
-/
def widths (columns : List Column) (rows : List (List String)) : List Nat :=
  columns.zipIdx.map fun (column, index) =>
    (rows.map fun row => Text.width (row.getD index "").toList).foldl max
      (Text.width column.heading.toList)

/--
A text in a cell of some width. Of the blanks around a centred text the right side gets the odd one.
-/
def cell (isCentred : Bool) (width : Nat) (text : String) : String :=
  let left := if isCentred then (width - Text.width text.toList) / 2 else 0
  Panel.padded width (String.ofList (List.replicate left ' ') ++ text)

/--
A line with a text for each column, blanks around it and bars between.
-/
def line (bar : String) (columns : List Column) (widths : List Nat) (texts : List String) :
    String :=
  let cells := (columns.zip widths).zip texts |>.map fun ((column, width), text) =>
    " " ++ cell column.isCentred width text ++ " "
  bar ++ bar.intercalate cells ++ bar

/--
A line between the rows of a table.
-/
def rule (left stroke cross right : String) (widths : List Nat) : String :=
  let runs := widths.map fun width => String.join (List.replicate (width + 2) stroke)
  left ++ cross.intercalate runs ++ right

/--
A table with its title above the middle.
-/
def lines (title : String) (columns : List Column) (rows : List (List String)) : List String :=
  let widths := widths columns rows
  let top := rule "┏" "━" "┳" "┓" widths
  let indent := (Text.width top.toList - Text.width title.toList) / 2
  [String.ofList (List.replicate indent ' ') ++ title, top,
    line "┃" columns widths (columns.map Column.heading),
    rule "┡" "━" "╇" "┩" widths] ++
    rows.map (line "│" columns widths) ++ [rule "└" "─" "┴" "┘" widths]

end ThreadLint.Grid
