import TopicBindings.File.Grid

/-!
How the cells of a table with 94 rows and columns are written.
-/

namespace TopicBindings.File.Cell

def shifted (distance : Nat) (cell : Cell) : List UInt8 :=
  [(cell.row + distance).toUInt8, (cell.column + distance).toUInt8]

def seven (cell : Cell) : List UInt8 :=
  cell.shifted 0x20

def eight (cell : Cell) : List UInt8 :=
  cell.shifted 0xA0

/-- Two rows to a first byte. The first byte leaves out the range from 160 to 223, the second one 127. -/
def paired (cell : Cell) : List UInt8 :=
  let lead := (cell.row - 1) / 2 + 0x81
  let trail := cell.column - 1 + (if cell.row % 2 = 0 then 94 else 0) + 0x40
  [(if lead > 0x9F then lead + 0x40 else lead).toUInt8,
    (if trail ≥ 0x7F then trail + 1 else trail).toUInt8]

/-- A row to a first byte above 128, and a second byte from 64 on that leaves out `gap` values from 127 on. -/
def wide (gap : Nat) (cell : Cell) : List UInt8 :=
  let trail := cell.column - 1 + 0x40
  [(cell.row + 0x80).toUInt8, (if trail ≥ 0x7F then trail + gap else trail).toUInt8]

end TopicBindings.File.Cell
