import PathQuery.Terminal.Basic
import PathQuery.Terminal.Flow

/-!
# Tables

A table is laid out for the width of a terminal. Some columns have a fixed width, and the others
share what is left by weight, each within bounds. A cell that is too long is cut, or flows over
several lines where its column allows that.
-/

namespace PathQuery.Terminal

/-- A column of a table. -/
structure TableColumn where
  /-- Its heading. -/
  name : String
  /-- Its share of the width; a column without a share has a fixed width. -/
  weight : Nat := 0
  /-- The least width. -/
  least : Nat
  /-- The greatest width, if there is one. -/
  most : Option Nat := none
  /-- Whether cells stand on the right. -/
  right : Bool := false
  /-- Whether long cells flow over several lines. -/
  flows : Bool := false
  deriving DecidableEq, Repr

/-- The columns of a table of results. -/
def resultLayout : List TableColumn := [
  { name := "#", least := 4, right := true },
  { name := "element", weight := 1, least := 16, most := some 40 },
  { name := "properties", weight := 2, least := 24, most := some 100, flows := true },
  { name := "labels", weight := 1, least := 10, most := some 50 }]

/-- The columns of a table of tables. -/
def schemaLayout : List TableColumn := [
  { name := "table", weight := 1, least := 16, most := some 50 },
  { name := "columns", weight := 2, least := 24, most := some 120, flows := true }]

/-- A table. -/
structure Table where
  /-- Its columns. -/
  columns : List TableColumn
  /-- The width it is laid out for. -/
  width : Int
  /-- Its rows. -/
  rows : List (List Text) := []

/-- The blanks between two columns. -/
def columnGap : Nat := 2

/-- The columns left free beside a table. -/
def tableMargin : Nat := 2

/-- A width within the bounds of a column. -/
def TableColumn.clamp (c : TableColumn) (width : Nat) : Nat :=
  match c.most with
  | some most => min (max width c.least) most
  | none => max width c.least

/-- The widths of columns that are laid out for a terminal. -/
def columnWidths (columns : List TableColumn) (width : Int) : List Nat :=
  let fixed := total ((columns.filter (·.weight = 0)).map fun c ↦ c.clamp c.least)
  let gaps := columnGap * (columns.length - 1)
  let available := (width - tableMargin - gaps - fixed).toNat
  let weights := total (columns.map (·.weight))
  columns.map fun c ↦
    c.clamp (if c.weight = 0 then c.least else available * c.weight / weights)

namespace Table

/-- The table with a further row. Missing cells are empty, and extra ones are dropped. -/
def addRow (t : Table) (cells : List Text) : Table :=
  let n := t.columns.length
  { t with rows := t.rows ++ [cells.take n ++ List.replicate (n - cells.length) ⟨[]⟩] }

/-! ## Cells -/

/-- A column where it stands in a table. -/
structure Slot where
  /-- The column. -/
  column : TableColumn
  /-- Its width. -/
  width : Nat
  /-- The blanks at its right end. -/
  gap : Nat

/-- The columns with their widths; all but the last keep a gap free. -/
def slots (t : Table) : List Slot :=
  let widths := columnWidths t.columns t.width
  let last := t.columns.length - 1
  (t.columns.zip widths).zipIdx.map fun ((column, width), i) ↦
    ⟨column, width, if i < last then columnGap else 0⟩

/-- A tab is as wide as four blanks. -/
def expandTabs (gs : List Glyph) : List Glyph :=
  gs.flatMap fun g ↦ if g = .char '\t' then blankGlyphs 4 else [g]

namespace Slot

/-- A cell as it is written into a slot. -/
def fit (s : Slot) (cell : Text) : Text :=
  if s.column.flows then cell else truncate cell (s.width - s.gap)

/-- The number of lines a cell takes. -/
def height (s : Slot) (cell : Text) : Nat := wrapHeight (s.width - s.gap) cell.glyphs

/-- A line of a cell, filled up to the width of its slot. -/
def fillLine (s : Slot) (line : List Glyph) : List Glyph :=
  let line := line ++ blankGlyphs s.gap
  let short := blankGlyphs (s.width - textWidth line)
  cutToWidth s.width (if s.column.right then short ++ line else line ++ short)

/-- The lines of a cell in a row of a height. All of them are as wide as the widest. -/
def lines (s : Slot) (height : Nat) (cell : Text) : List (List Glyph) :=
  let text := unifyLines (expandTabs cell.glyphs)
  let body := ((wrap (s.width - s.gap) text).take height).map s.fillLine
  let all := body ++ List.replicate (height - body.length) (blankGlyphs s.width)
  let widest := (all.map textWidth).foldl max 0
  all.map fun line ↦ line ++ blankGlyphs (widest - textWidth line)

end Slot

/-- The bytes of a glyph. -/
def glyphText : Glyph → Text
  | .char c => Text.ofString (String.ofList [c])
  | .stray b => ⟨[b]⟩

/-- The text of some glyphs. -/
def glyphsText (gs : List Glyph) : Text := Text.join (gs.map glyphText)

/-- The lines of a row. -/
def renderRow (slots : List Slot) (cells : List Text) : List Text :=
  let placed := slots.zip cells
  let height := (placed.map fun (s, c) ↦ s.height c).foldl max 1
  let columns := placed.map fun (s, c) ↦ s.lines height c
  (List.range height).map fun i ↦ glyphsText (columns.flatMap (·.getD i []))

/-- The lines of a table: its headings, a rule and its rows. A table without rows has none. -/
def lines (t : Table) : List Text :=
  if t.rows.isEmpty then []
  else
    let slots := t.slots
    let rule := String.ofList (List.replicate (total (slots.map (·.width))) '─')
    renderRow slots (slots.map fun s ↦ Text.ofString s.column.name) ++ [Text.ofString rule] ++
      t.rows.flatMap fun row ↦ renderRow slots ((slots.zip row).map fun (s, c) ↦ s.fit c)

/-- The text of a table. -/
def render (t : Table) : Text := Text.intercalate "\n" t.lines

end Table

end PathQuery.Terminal
