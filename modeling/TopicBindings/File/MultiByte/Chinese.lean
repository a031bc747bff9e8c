import TopicBindings.File.Grid.Big5
import TopicBindings.File.Grid.Gb18030
import TopicBindings.File.Grid.Hkscs
import TopicBindings.File.MultiByte
import TopicBindings.File.MultiByte.Cell

/-!
Chinese character sets: GB 2312 and its extensions, and Big5 and its extensions.
-/

namespace TopicBindings.File.MultiByte

def userCells (start size lead columns : Nat) (trail : Nat → Nat) : Layer := fun c =>
  let i := c.toNat - start
  if start ≤ c.toNat ∧ i < size then some [(lead + i / columns).toUInt8, (trail (i % columns)).toUInt8]
  else none

def gbUserCells : Layer :=
  .first [
    userCells 0xE000 564 0xAA 94 (· + 0xA1),
    userCells 0xE234 658 0xF8 94 (· + 0xA1),
    userCells 0xE4C6 672 0xA1 96 fun i => if i < 63 then i + 0x40 else i + 0x41]

def gbUserCount : Nat := 564 + 658 + 672

def isGbk (c : Char) (cell : Cell) : Bool :=
  let isPrivate := 0xE000 ≤ c.toNat && c.toNat < 0xF900
  let isAdded := (cell.row = 41 && 73 ≤ cell.column && cell.column ≤ 85) ||
    (cell.row = 126 && 17 ≤ cell.column)
  !isPrivate && !isAdded && c != '€' && c != 'ǹ'

def gbkCell? (c : Char) : Option Cell :=
  (Grid.gb18030.cell? c).filter (isGbk c)

/-- The cell of a character in GB 2312. Most characters have their cells in GBK as well, in rows and columns
that are counted from others. -/
def gb2312Cell? (c : Char) : Option Cell :=
  if c = '・' then some ⟨1, 4⟩
  else if c = '―' then some ⟨1, 10⟩
  else if c = '·' ∨ c = '—' then none
  else (gbkCell? c).bind fun cell =>
    let row := cell.row - 32
    let column := cell.column - 96
    let isAdded := (row = 2 && column ≤ 10) || (row = 6 && 64 ≤ column && column ≤ 85) ||
      (row = 8 && 27 ≤ column && column ≤ 32)
    if row = 0 || column = 0 || isAdded then none else some ⟨row, column⟩

def gb2312 : MultiByte :=
  .plain "gb2312" (.ofLayers [.ascii, fun c => (gb2312Cell? c).map Cell.eight])

def gbk : MultiByte :=
  .plain "gbk" (.ofLayers [.ascii, fun c => (gbkCell? c).map (Cell.wide 1)])

/-- The number of a character among those that GB 18030 writes with four bytes. Those of the first plane come
first; a surrogate has no number. -/
def fourByteNumber (c : Char) : Nat :=
  let n := c.toNat
  if n ≥ 0x10000 then n - 0x10000 + 189000
  else
    n - 0x80 - (if n ≥ 0xE000 then 0x800 else 0) - min gbUserCount (n - 0xE000) -
      Grid.gb18030.count (· < c)

/-- Four bytes, of which the first and third have 126 values and the others ten. -/
def fourBytes : Layer := fun c =>
  let n := fourByteNumber c
  some [(n / 12600 + 0x81).toUInt8, (n / 1260 % 10 + 0x30).toUInt8, (n / 10 % 126 + 0x81).toUInt8,
    (n % 10 + 0x30).toUInt8]

def gb18030 : MultiByte :=
  .plain "gb18030" (.ofLayers [.ascii, .ofGrid .gb18030 (Cell.wide 1), gbUserCells, fourBytes])

/-- GB 2312 between marks that begin with a tilde. A tilde outside of them is written twice. -/
def hz : MultiByte where
  name := "hz"
  modes := [
    ⟨[], [0x7E, 0x7D], .ofLayers [.ofList [('~', [0x7E, 0x7E])], .ascii]⟩,
    ⟨[], [0x7E, 0x7B], .ofLayers [fun c => (gb2312Cell? c).map Cell.seven]⟩]

def big5 : MultiByte :=
  .plain "big5" (.ofLayers [.ascii, .ofGrid .big5 (Cell.wide 34)])

def cp950 : MultiByte :=
  .plain "cp950" (.ofLayers [.ascii, .ofGrid .cp950 (Cell.wide 34), .ofGrid .big5 (Cell.wide 34)])

def hkscsPairs : List (Char × Char × Cell) :=
  [('Ê', '\u0304', ⟨8, 35⟩), ('Ê', '\u030c', ⟨8, 37⟩), ('ê', '\u0304', ⟨8, 66⟩), ('ê', '\u030c', ⟨8, 68⟩)]

def big5hkscs : MultiByte :=
  .plain "big5hkscs" {
    single := .first [.ascii, .ofGrid .hkscs (Cell.wide 34), .ofGrid .big5 (Cell.wide 34)]
    pair := Coding.pairsOf hkscsPairs (Cell.wide 34) }

end TopicBindings.File.MultiByte
