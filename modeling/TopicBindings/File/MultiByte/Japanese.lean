import TopicBindings.File.Grid.Cp932
import TopicBindings.File.Grid.JisX0208
import TopicBindings.File.Grid.JisX0212
import TopicBindings.File.Grid.JisX0213
import TopicBindings.File.MultiByte.Chinese
import TopicBindings.File.MultiByte.Korean

/-!
Japanese character sets. They have the characters of JIS X 0208, and some of them those of other standards, in
three forms: with bytes that tell themselves apart from ASCII, with two rows to a byte, and with escape
sequences before the characters of each standard.
-/

namespace TopicBindings.File.MultiByte

/-- The signs that the Japanese variant of ASCII has for a backslash and a tilde. -/
def roman : Layer :=
  .ofList [('¥', [0x5C]), ('‾', [0x7E])]

def kana (start : Nat) : Layer := fun c =>
  if 0xFF61 ≤ c.toNat ∧ c.toNat ≤ 0xFF9F then some [(c.toNat - 0xFF61 + start).toUInt8] else none

def marked (mark : UInt8) (bytes : List UInt8) : List UInt8 :=
  mark :: bytes

def kanaMark : UInt8 := 0x8E
def supplementMark : UInt8 := 0x8F

def eucJp : MultiByte :=
  .plain "euc_jp" (.ofLayers [
    .ascii, roman, fun c => (kana 0xA1 c).map (marked kanaMark),
    .ofGrid .jisX0208 Cell.eight, .ofGrid .jisX0212 (marked supplementMark ∘ Cell.eight)])

def shiftJis : MultiByte :=
  .plain "shift_jis" (.ofLayers [.ascii, roman, kana 0xA1, .ofGrid .jisX0208 Cell.paired])

/-- The cells for users behind the other rows, and the bytes of code page 932 without a meaning. -/
def cp932Rest : Layer := fun c =>
  let i := c.toNat - 0xE000
  if 0xE000 ≤ c.toNat ∧ i < 1880 then some (Cell.paired ⟨95 + i / 94, i % 94 + 1⟩)
  else Layer.ofList [('\x80', [0x80]), ('\uf8f0', [0xA0]), ('\uf8f1', [0xFD]), ('\uf8f2', [0xFE]),
    ('\uf8f3', [0xFF])] c

def cp932 : MultiByte :=
  .plain "cp932" (.ofLayers [
    .ascii, kana 0xA1, cp932Rest, .ofGrid .cp932 Cell.paired, .ofGrid .jisX0208 Cell.paired])

/-- Pairs that JIS X 0213 has in one cell each, on the first plane. -/
def jisX0213Pairs : List (Char × Char × Cell) :=
  [('か', '\u309a', ⟨4, 87⟩), ('き', '\u309a', ⟨4, 88⟩), ('く', '\u309a', ⟨4, 89⟩), ('け', '\u309a', ⟨4, 90⟩),
   ('こ', '\u309a', ⟨4, 91⟩), ('カ', '\u309a', ⟨5, 87⟩), ('キ', '\u309a', ⟨5, 88⟩), ('ク', '\u309a', ⟨5, 89⟩),
   ('ケ', '\u309a', ⟨5, 90⟩), ('コ', '\u309a', ⟨5, 91⟩), ('セ', '\u309a', ⟨5, 92⟩), ('ツ', '\u309a', ⟨5, 93⟩),
   ('ト', '\u309a', ⟨5, 94⟩), ('ㇷ', '\u309a', ⟨6, 88⟩), ('æ', '\u0300', ⟨11, 36⟩), ('ɔ', '\u0300', ⟨11, 40⟩),
   ('ɔ', '\u0301', ⟨11, 41⟩), ('ʌ', '\u0300', ⟨11, 42⟩), ('ʌ', '\u0301', ⟨11, 43⟩), ('ə', '\u0300', ⟨11, 44⟩),
   ('ə', '\u0301', ⟨11, 45⟩), ('ɚ', '\u0300', ⟨11, 46⟩), ('ɚ', '\u0301', ⟨11, 47⟩), ('˩', '˥', ⟨11, 69⟩),
   ('˥', '˩', ⟨11, 70⟩)]

def secondEdition : List Char :=
  "俱剝吞噓姸屛幷瘦繫𠮟鬜".toList

/-- A layer as it was before the second edition, which put another character in the cell of one. -/
def firstEdition (layer : Layer) : Layer := fun c =>
  if secondEdition.contains c then none
  else if c = '鬝' then layer '鬜'
  else layer c

/-- The row that the second plane's rows have behind those of the first one. The rows that it leaves empty are
left out. -/
def secondPlaneRow (row : Nat) : Nat :=
  ([1, 8, 3, 4, 5, 12, 13, 14, 15] ++ (List.range 17).map (· + 78)).idxOf row + 95

def behindFirstPlane (cell : Cell) : List UInt8 :=
  Cell.paired { cell with row := secondPlaneRow cell.row }

def eucJis (name : String) (edition : Layer → Layer) : MultiByte :=
  .plain name {
    single := edition (.first [
      .ascii, fun c => (kana 0xA1 c).map (marked kanaMark), .ofList [('～', Cell.eight ⟨2, 18⟩)],
      .ofGrid .jisX0208 Cell.eight, .ofGrid .jisX0213First Cell.eight,
      .ofGrid .jisX0213Second (marked supplementMark ∘ Cell.eight),
      .ofGrid .jisX0212 (marked supplementMark ∘ Cell.eight)])
    pair := Coding.pairsOf jisX0213Pairs Cell.eight }

/-- Two rows to a byte. The backslash and the tilde have cells, because their bytes stand for other signs. -/
def shiftJisX0213 (name : String) (edition : Layer → Layer) : MultiByte :=
  .plain name {
    single := edition (.first [
      .ofList [('\\', Cell.paired ⟨1, 32⟩), ('~', Cell.paired ⟨2, 18⟩)], .ascii, roman, kana 0xA1,
      fun c => if c = '＼' then none else Layer.ofGrid .jisX0208 Cell.paired c,
      .ofGrid .jisX0213First Cell.paired, .ofGrid .jisX0213Second behindFirstPlane])
    pair := Coding.pairsOf jisX0213Pairs Cell.paired }

def eucJis2004 : MultiByte := eucJis "euc_jis_2004" id
def eucJisX0213 : MultiByte := eucJis "euc_jisx0213" firstEdition
def shiftJis2004 : MultiByte := shiftJisX0213 "shift_jis_2004" id
def shiftJisX0213First : MultiByte := shiftJisX0213 "shift_jisx0213" firstEdition

def escaped (sequence : String) (coding : Coding) : Mode :=
  ⟨[], 0x1B :: sequence.toUTF8.toList, coding⟩

def asciiMode : Mode := escaped "(B" (.ofLayers [.ascii])
def romanMode : Mode := escaped "(J" (.ofLayers [roman])
def kanaMode : Mode := escaped "(I" (.ofLayers [kana 0x21])
def jisX0208Mode : Mode := escaped "$B" (.ofLayers [.ofGrid .jisX0208 Cell.seven])
def jisX0212Mode : Mode := escaped "$(D" (.ofLayers [.ofGrid .jisX0212 Cell.seven])
def ksX1001Mode : Mode := escaped "$(C" (.ofLayers [.ofGrid .ksX1001 Cell.seven])
def gb2312Mode : Mode := escaped "$(A" (.ofLayers [fun c => (gb2312Cell? c).map Cell.seven])

def firstPlaneMode (sequence : String) (edition : Layer → Layer) : Mode :=
  escaped sequence {
    single := edition (.ofGrid .jisX0213First Cell.seven)
    pair := Coding.pairsOf jisX0213Pairs Cell.seven }

def secondPlaneMode (edition : Layer → Layer) : Mode :=
  escaped "$(P" (.ofLayers [edition (.ofGrid .jisX0213Second Cell.seven)])

def iso2022Jp : MultiByte :=
  ⟨"iso2022_jp", [asciiMode, jisX0208Mode, romanMode]⟩

def iso2022Jp1 : MultiByte :=
  ⟨"iso2022_jp_1", [asciiMode, jisX0208Mode, jisX0212Mode, romanMode]⟩

def iso2022Jp2 : MultiByte :=
  ⟨"iso2022_jp_2", [asciiMode, jisX0208Mode, jisX0212Mode, ksX1001Mode, gb2312Mode, romanMode]⟩

def iso2022Jp2004 : MultiByte :=
  ⟨"iso2022_jp_2004", [asciiMode, jisX0208Mode, firstPlaneMode "$(Q" id, secondPlaneMode id]⟩

def iso2022Jp3 : MultiByte :=
  ⟨"iso2022_jp_3",
    [asciiMode, jisX0208Mode, firstPlaneMode "$(O" firstEdition, secondPlaneMode firstEdition]⟩

def iso2022JpExt : MultiByte :=
  ⟨"iso2022_jp_ext", [asciiMode, jisX0208Mode, jisX0212Mode, romanMode, kanaMode]⟩

end TopicBindings.File.MultiByte
