import SampleTypes.Console.Wrap

/-!
Tables with a heavy head, a line between any two rows and a title above. A table that is too wide for
the console is made narrower: first the widest of the columns that may be broken, then all of them.
-/

namespace SampleTypes.Console

structure Column where
  heading : String
  atRight : Bool := false
  fixed : Option Nat := none
  unbroken : Bool := false

structure Rule where
  left : Char
  fill : Char
  junction : Char
  right : Char

def topRule : Rule := ⟨'┏', '━', '┳', '┓'⟩
def headRule : Rule := ⟨'┡', '━', '╇', '┩'⟩
def rowRule : Rule := ⟨'├', '─', '┼', '┤'⟩
def bottomRule : Rule := ⟨'└', '─', '┴', '┘'⟩

def Column.width (c : Column) (cells : List (List Char)) : Nat :=
  2 + match c.fixed with
    | some w => w
    | none => (cells.map Text.width).foldl max (Text.width c.heading.toList)

def Column.isNarrowed (c : Column) : Bool := c.fixed.isNone && !c.unbroken

def total (widths : List Nat) : Nat := widths.foldl (· + ·) 0

def columnCells (columns : List Column) (rows : List (List (List Char))) : List (List (List Char)) :=
  (List.range columns.length).map fun i => rows.map fun row => row.getD i []

def roundQuotient (n d : Nat) : Nat :=
  let q := n / d
  let r := n % d
  if 2 * r < d || 2 * r = d && q % 2 = 0 then q else q + 1

/-- The widths when `excess` cells are given up by so many `parts`. A column stands with the most that
it gives up, and has a part if that is anything. -/
def giveUp : Nat → Nat → List (Nat × Nat) → List Nat
  | _, _, [] => []
  | excess, parts, (w, most) :: rest =>
    if most = 0 then w :: giveUp excess parts rest
    else
      let share := min most (roundQuotient excess parts)
      (w - share) :: giveUp (excess - share) (parts - 1) rest

def shareOut (excess : Nat) (columns : List (Nat × Nat)) : List Nat :=
  giveUp excess (columns.countP fun c => c.2 != 0) columns

/-- The widest of the columns that may be narrowed are made as wide as the next ones, until the table
fits. The first argument bounds the work; each round takes a cell away. -/
def narrow (room : Nat) : Nat → List (Nat × Bool) → List (Nat × Bool)
  | 0, columns => columns
  | fuel + 1, columns =>
    let excess := total (columns.map Prod.fst) - room
    let breakable := (columns.filter Prod.snd).map Prod.fst
    let widest := breakable.foldl max 0
    let next := (breakable.filter (· != widest)).foldl max 0
    let most := min excess (widest - next)
    if most = 0 then columns
    else
      let widths := shareOut excess (columns.map fun (w, b) => (w, if b && w = widest then most else 0))
      narrow room fuel (widths.zip (columns.map Prod.snd))

def columnWidths (width : Nat) (columns : List Column) (rows : List (List (List Char))) : List Nat :=
  let room := width - (columns.length + 1)
  let widths := List.zipWith (fun c cells => max 1 (min room (Column.width c cells))) columns
    (columnCells columns rows)
  if total widths ≤ room then widths
  else
    let widths := (narrow room (total widths) (widths.zip (columns.map Column.isNarrowed))).map Prod.fst
    shareOut (total widths - room) (widths.map fun w => (w, w))

def tableWidth (widths : List Nat) : Nat := total widths + widths.length + 1

def joinWith (sep : List Char) : List (List Char) → List Char
  | [] => []
  | [a] => a
  | a :: rest => a ++ sep ++ joinWith sep rest

def Rule.line (r : Rule) (widths : List Nat) : List Char :=
  r.left :: (joinWith [r.junction] (widths.map fun w => List.replicate w r.fill) ++ [r.right])

def shorten (room : Nat) (cs : List Char) : List Char :=
  if Text.width cs ≤ room then cs else Text.truncate (room - 1) cs ++ ['…']

def Column.fit (c : Column) (room : Nat) (cs : List Char) : List Char :=
  if c.atRight then padLeft room (shorten room (Text.trimEnd cs)) else padRight room (shorten room cs)

/-- The lines of a cell, each with a blank on either side. Where there is room only for blanks, there
are none. -/
def Column.cellLines (c : Column) (width : Nat) (cell : List Char) : List (List Char) :=
  let room := width - 2
  let lines := (cell.splitOn '\n').flatMap fun line =>
    let line := expandTabs line
    if c.unbroken then [line] else cutAt 0 (breakPlaces false room 0 0 (wordsFrom line)) line
  if room = 0 then [] else lines.map fun line => ' ' :: (c.fit room (dropExcess room line) ++ [' '])

def fillUp (atBottom : Bool) (height width : Nat) (lines : List (List Char)) : List (List Char) :=
  let empty := List.replicate (height - lines.length) (spaces width)
  if atBottom then empty ++ lines else lines ++ empty

def rowLines (bar : Char) (atBottom : Bool) (columns : List Column) (widths : List Nat)
    (cells : List (List Char)) : List (List Char) :=
  let blocks := List.zipWith (fun (c, w) cell => (w, Column.cellLines c w cell)) (columns.zip widths) cells
  let height := (blocks.map fun b => b.2.length).foldl max 1
  let filled := blocks.map fun (w, lines) => fillUp atBottom height w lines
  (List.range height).map fun i => bar :: (joinWith [bar] (filled.map fun lines => lines.getD i []) ++ [bar])

def ruled (rule : List Char) : List (List (List Char)) → List (List Char)
  | [] => []
  | [a] => a
  | a :: rest => a ++ rule :: ruled rule rest

/-- The lines of a table under its title, on a console of the given width. -/
def tableLines (width : Nat) (title : List Char) (columns : List Column)
    (rows : List (List (List Char))) : List (List Char) :=
  let widths := columnWidths width columns rows
  let lines := wrapCentered (tableWidth widths) title ++
    topRule.line widths ::
      (rowLines '┃' true columns widths (columns.map fun c => c.heading.toList) ++
        headRule.line widths ::
          (ruled (rowRule.line widths) (rows.map (rowLines '│' false columns widths)) ++
            [bottomRule.line widths]))
  lines.map (Text.truncate width)

end SampleTypes.Console
