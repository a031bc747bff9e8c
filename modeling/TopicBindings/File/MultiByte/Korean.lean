import TopicBindings.File.Grid.KsX1001
import TopicBindings.File.MultiByte
import TopicBindings.File.MultiByte.Cell

/-!
Korean character sets. All of them have the characters of KS X 1001, and each has its own way to write the
syllables that this standard lacks.
-/

namespace TopicBindings.File.MultiByte

structure Syllable where
  initial : Nat
  vowel : Nat
  final : Nat

def firstSyllable : Nat := 0xAC00

def syllable? (c : Char) : Option Syllable :=
  let n := c.toNat - firstSyllable
  if firstSyllable ≤ c.toNat ∧ n < 11172 then some ⟨n / 588, n / 28 % 21, n % 28⟩ else none

def initialColumns : List Nat :=
  [1, 2, 4, 7, 8, 9, 17, 18, 19, 21, 22, 23, 24, 25, 26, 27, 28, 29, 30]

/-- The columns of the final consonants, in the row of letters. A filler stands for none. -/
def finalColumns : List Nat :=
  [52, 1, 2, 3, 4, 5, 6, 7, 9, 10, 11, 12, 13, 14, 15, 16, 17, 18, 20, 21, 22, 23, 24, 26, 27, 28, 29, 30]

def letter (column : Nat) : List UInt8 :=
  Cell.eight ⟨4, column⟩

def spelled : Layer := fun c =>
  (syllable? c).map fun s =>
    letter 52 ++ letter (initialColumns.getD s.initial 0) ++ letter (31 + s.vowel) ++
      letter (finalColumns.getD s.final 0)

def eucKr : MultiByte :=
  .plain "euc_kr" (.ofLayers [.ascii, .ofGrid .ksX1001 Cell.eight, spelled])

def unifiedTrail (i : Nat) : Nat :=
  if i < 26 then i + 0x41 else if i < 52 then i - 26 + 0x61 else i - 52 + 0x81

/-- The syllables outside KS X 1001 in their order: rows of 178 below its first byte, then rows of 84. -/
def unified : Layer := fun c =>
  (syllable? c).map fun _ =>
    let n := c.toNat - firstSyllable - Grid.ksX1001.count fun d => (syllable? d).isSome && d < c
    if n < 32 * 178 then [(n / 178 + 0x81).toUInt8, (unifiedTrail (n % 178)).toUInt8]
    else
      let n := n - 32 * 178
      [(n / 84 + 0xA1).toUInt8, (unifiedTrail (n % 84)).toUInt8]

def cp949 : MultiByte :=
  .plain "cp949" (.ofLayers [.ascii, .ofGrid .ksX1001 Cell.eight, unified])

/-- Three numbers of five bits each behind a first bit that is set. -/
def composed (initial vowel final : Nat) : List UInt8 :=
  let n := 0x8000 + initial * 1024 + vowel * 32 + final
  [(n / 256).toUInt8, (n % 256).toUInt8]

/-- The five bits of a vowel. Two of every eight values stand for nothing. -/
def vowelBits (vowel : Nat) : Nat :=
  vowel + 3 + (vowel + 1) / 6 * 2

def finalBits (final : Nat) : Nat :=
  if final < 17 then final + 1 else final + 2

/-- A letter that stands alone. The other letters of the syllable are fillers. -/
def composedLetter : Layer := fun c =>
  let column := c.toNat - 0x3130
  if c.toNat < 0x3131 ∨ 0x3163 < c.toNat then none
  else if column > 30 then some (composed 1 (vowelBits (column - 31)) 1)
  else match initialColumns.idxOf? column with
    | some i => some (composed (i + 2) 2 1)
    | none => some (composed 1 2 (finalBits (finalColumns.idxOf column)))

/-- Symbols and ideographs, two rows to a first byte. The rows of syllables are left out. -/
def besideComposed (cell : Cell) : Option (List UInt8) :=
  if 13 ≤ cell.row ∧ cell.row ≤ 41 then none
  else
    let row := cell.row - 1 + (if cell.row < 13 then 0x1B2 else 0x197)
    let trail := cell.column - 1 + (if row % 2 = 1 then 94 else 0)
    some [(row / 2).toUInt8, (if trail < 0x4E then trail + 0x31 else trail + 0x43).toUInt8]

def johab : MultiByte :=
  .plain "johab" (.ofLayers [
    .ascii,
    fun c => (syllable? c).map fun s => composed (s.initial + 2) (vowelBits s.vowel) (finalBits s.final),
    composedLetter,
    fun c => (Grid.ksX1001.cell? c).bind besideComposed])

/-- KS X 1001 between shifts. It is announced before its first use. -/
def iso2022Kr : MultiByte where
  name := "iso2022_kr"
  modes := [
    ⟨[], [0x0F], .ofLayers [.ascii]⟩,
    ⟨[0x1B, 0x24, 0x29, 0x43], [0x0E], .ofLayers [.ofGrid .ksX1001 Cell.seven]⟩]

end TopicBindings.File.MultiByte
