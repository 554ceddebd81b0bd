import Dialogue.Console.Layout
import Dialogue.Console.Markup

/-!
# Tables

A table has a title, columns and a frame. Each column is as wide as its widest cell with a blank
on both sides, as far as the screen allows; where it does not, the widest columns are narrowed
first. The cells of a row start on the same line.
-/
namespace Dialogue.Console

/-- One line of a frame: its ends, what stands between columns, and what fills a column. -/
structure Rule where
  first : Char
  fill : Char
  divider : Char
  last : Char

/-- The lines of a frame. The fill of a line with cells is a blank. -/
structure Frame where
  top : Option Rule
  heading : Rule
  belowHeading : Rule
  row : Rule
  bottom : Option Rule

namespace Frame

/-- Only a heavy line below the headings. -/
def heavyRule : Frame :=
  ⟨some ⟨' ', ' ', ' ', ' '⟩, ⟨' ', ' ', ' ', ' '⟩, ⟨' ', '━', '━', ' '⟩, ⟨' ', ' ', ' ', ' '⟩,
    some ⟨' ', ' ', ' ', ' '⟩⟩

/-- Only light lines between the columns. -/
def dividers : Frame :=
  ⟨some ⟨' ', ' ', '╷', ' '⟩, ⟨' ', ' ', '│', ' '⟩, ⟨'╶', '─', '┼', '╴'⟩, ⟨' ', ' ', '│', ' '⟩,
    some ⟨' ', ' ', '╵', ' '⟩⟩

/-- Light lines everywhere, and heavy ones around the headings. -/
def heavyHeading : Frame :=
  ⟨some ⟨'┏', '━', '┳', '┓'⟩, ⟨'┃', ' ', '┃', '┃'⟩, ⟨'┡', '━', '╇', '┩'⟩, ⟨'│', ' ', '│', '│'⟩,
    some ⟨'└', '─', '┴', '┘'⟩⟩

end Frame

/-- A line of a frame around the parts of a line. -/
def Rule.around (r : Rule) (parts : List (List Char)) : List Char :=
  r.first :: [r.divider].intercalate parts ++ [r.last]

/-- A line of a frame over columns of these widths. -/
def Rule.line (r : Rule) (widths : List Nat) : List Char :=
  r.around (widths.map fun w => List.replicate w r.fill)

/-- A column and its cells, which are texts with markup. -/
structure Column where
  heading : String
  alignment : Alignment := .left
  cells : List String

structure Table where
  title : String
  frame : Frame
  /-- Whether the headings are shown. -/
  headed : Bool := true
  columns : List Column

/-- A column and what its cells show, the heading first if there is one. -/
structure ReadColumn where
  alignment : Alignment
  cells : List Styled

/-- The characters that end a line where cells are measured. -/
def endsLine (c : Char) : Bool :=
  [0x0a, 0x0b, 0x0c, 0x0d, 0x1c, 0x1d, 0x1e, 0x85, 0x2028, 0x2029].contains c.toNat

/-- The cells that the widest line of a text takes, without regard to tabs. -/
def naturalWidth (cs : List Char) : Nat :=
  ((cs.splitOnP endsLine).map Text.width).foldl max 0

namespace Column

/-- Reads the markup of the cells. -/
def read (headed : Bool) (c : Column) : Except ShowError ReadColumn := do
  let cells ← ((if headed then [c.heading] else []) ++ c.cells).mapM ofMarkup
  pure ⟨c.alignment, cells⟩

end Column

namespace ReadColumn

/-- The cells of the widest cell, with the blanks on both sides. A column without any cell takes
all there is. -/
def width (limit : Nat) (c : ReadColumn) : Nat :=
  ((c.cells.map fun t => min limit (naturalWidth t.chars + 2)).max?).getD limit

/-- The lines of a cell between their blanks. In a column without room nothing is looked at. -/
def cellLines (c : ReadColumn) (width i : Nat) : Except ShowError (List (List Char)) := do
  match c.cells[i]? with
  | none => pure []
  | some t =>
    if width ≤ 2 then return []
    let lines ← (Layout.shownLines ⟨width - 2, .ellipsis, some c.alignment⟩ t).mapError .number
    pure (lines.map fun line => ' ' :: Text.setWidth (width - 2) line ++ [' '])

end ReadColumn

/-- `n` divided by `k`, rounded to the nearest number and to an even one in the middle. -/
def roundedShare (n k : Nat) : Nat :=
  let q := n / k
  if k < 2 * (n % k) || (2 * (n % k) = k && q % 2 = 1) then q + 1 else q

/-- Takes `total` away from the widths that are `chosen`, of which `left` are still to come, in
even parts and at most `limit` from each. -/
def reduce (limit : Nat) (chosen : Nat → Bool) (total left : Nat) : List Nat → List Nat
  | [] => []
  | w :: ws =>
    if chosen w && left ≠ 0 then
      let part := min limit (roundedShare total left)
      (w - part) :: reduce limit chosen (total - part) (left - 1) ws
    else w :: reduce limit chosen total left ws

/-- The cells that columns take together. -/
def together (widths : List Nat) : Nat := widths.foldl (· + ·) 0

/-- Narrows columns until they fit into `limit` cells together: the widest ones come down to the
next ones. -/
def collapse (limit : Nat) : Nat → List Nat → List Nat
  | 0, widths => widths
  | fuel + 1, widths =>
    let excess := together widths - limit
    let widest := widths.foldl max 0
    let next := (widths.filter (· ≠ widest)).foldl max 0
    if excess = 0 || widest = next then widths
    else
      let chosen := fun w => w = widest
      collapse limit fuel
        (reduce (min excess (widest - next)) chosen excess (widths.countP chosen) widths)

/-- Cells of one row side by side, at the top or, in the heading, at the bottom. -/
def rowLines (rule : Rule) (bottom : Bool) (widths : List Nat) (cells : List (List (List Char))) :
    List (List Char) :=
  let height := (cells.map (·.length)).foldl max 1
  let filled := (widths.zip cells).map fun (w, cell) =>
    let missing := List.replicate (height - cell.length) (List.replicate w ' ')
    if bottom then missing ++ cell else cell ++ missing
  (List.range height).map fun k => rule.around (filled.map fun cell => cell.getD k [])

/-- The lines of a table. All cells are read before the first one is shown. -/
def Table.lines (t : Table) : Except ShowError (List (List Char)) := do
  let columns ← t.columns.mapM (Column.read t.headed)
  let limit := screenWidth - (columns.length + 1)
  let natural := columns.map (·.width limit)
  let widths := collapse limit (together natural) natural
  let whole := together widths + columns.length + 1
  let title ← (Layout.shownLines ⟨whole, .fold, some .centre⟩ (.plain t.title.toList)).mapError
    .number
  let height := (columns.map (·.cells.length)).foldl max 0
  let rows ← (List.range height).mapM fun i =>
    (columns.zip widths).mapM fun (c, w) => c.cellLines w i
  let heading := if t.headed then
      (rows.take 1).flatMap (rowLines t.frame.heading true widths)
        ++ [t.frame.belowHeading.line widths]
    else []
  let body := (if t.headed then rows.drop 1 else rows).flatMap (rowLines t.frame.row false widths)
  pure (title ++ t.frame.top.toList.map (·.line widths) ++ heading ++ body
    ++ t.frame.bottom.toList.map (·.line widths))

/-- A box of double lines as wide as the screen, with a title in its upper edge. -/
def panel (title : String) (text : Styled) : Except ShowError (List (List Char)) := do
  let inner := screenWidth - 2
  let lines ← (Layout.shownLines ⟨inner - 2, .fold, none⟩ text).mapError .number
  let title := ' ' :: title.toList ++ [' ']
  let around := inner - Text.width title
  let upper := List.replicate (around / 2) '═' ++ title ++ List.replicate (around - around / 2) '═'
  let row := fun line : List Char =>
    let missing := List.replicate (inner - 2 - Text.width line) ' '
    '║' :: ' ' :: line ++ missing ++ [' ', '║']
  pure (('╔' :: upper ++ ['╗']) :: lines.map row ++ ['╚' :: List.replicate inner '═' ++ ['╝']])

end Dialogue.Console
