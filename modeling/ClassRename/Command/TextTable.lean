import ClassRename.Text.Wrapping

namespace ClassRename

inductive Alignment where
  | left
  | right
deriving Repr, DecidableEq

structure Column where
  title : String
  alignment : Alignment
deriving Repr, DecidableEq

namespace TextTable

def isBlank (scalar : Char) : Bool :=
  let value := scalar.toNat
  (0x09 ≤ value && value ≤ 0x0D) || value == 0x20 || value == 0x85 || value == 0xA0 ||
    value == 0x1680 || (0x2000 ≤ value && value ≤ 0x200A) || value == 0x2028 ||
    value == 0x2029 || value == 0x202F || value == 0x205F || value == 0x3000

def trimEnd (line : String) : String :=
  String.ofList (line.toList.reverse.dropWhile isBlank).reverse

def maximalWidth : Nat := 65535

structure ColumnLayout where
  alignment : Alignment
  width : Nat
  before : Nat
  after : Nat
deriving Repr, DecidableEq

def blanks (count : Nat) : String := String.ofList (List.replicate count ' ')

def cellWidth (cell : String) : Nat :=
  min maximalWidth (((cell.splitOn "\n").map Text.columns).foldl max 0)

-- A cell with line breaks takes several lines of its row, and so does one that is too wide.
def cellLines (width : Nat) (cell : String) : List String :=
  (cell.splitOn "\n").flatMap fun line =>
    if width < Text.columns line then Text.wrap width line else [line]

def ColumnLayout.pad (layout : ColumnLayout) (text : String) : String :=
  let free := blanks (layout.width - Text.columns text)
  let aligned := match layout.alignment with
    | .left => text ++ free
    | .right => free ++ text
  blanks layout.before ++ aligned ++ blanks layout.after

def ColumnLayout.unused (layout : ColumnLayout) : String :=
  blanks (min maximalWidth (layout.before + layout.width + layout.after))

def rowLines (layouts : List ColumnLayout) (cells : List String) : List String :=
  let pieces := List.zipWith (fun layout cell => cellLines layout.width cell) layouts cells
  let height := (pieces.map List.length).foldl max 0
  (List.range height).map fun line =>
    trimEnd (String.join (List.zipWith
      (fun layout piece => (piece[line]?.map layout.pad).getD layout.unused) layouts pieces))

def widths (rows : List (List String)) : List Nat :=
  rows.foldl (fun widths row => List.zipWith max widths (row.map cellWidth))
    (((rows.headD []).map fun _ => 0))

def layouts (columns : List Column) (widths : List Nat) : List ColumnLayout :=
  (columns.zip widths).mapIdx fun index (column, width) =>
    ⟨column.alignment, width, if index = 0 then 0 else 1,
      if index + 1 = columns.length then 0 else 1⟩

def render (columns : List Column) (rows : List (List String)) : String :=
  let all := columns.map Column.title :: rows
  let layouts := layouts columns (widths all)
  String.join ((all.flatMap (rowLines layouts)).map (· ++ "\n"))

end TextTable
end ClassRename
