import TopicBindings.File.CodePage
import TopicBindings.File.DomainLabels
import TopicBindings.File.Escapes
import TopicBindings.File.MultiByte
import TopicBindings.File.Punycode
import TopicBindings.File.Utf7

/-!
Character sets, and the bytes of a text in them.
-/

namespace TopicBindings.File

inductive ByteOrder where
  | little
  | big
  deriving DecidableEq, Repr

/-- A way to write texts as bytes. A marked one starts a text with a byte order mark. -/
inductive CharacterSet where
  | ascii
  | latin1
  | utf7
  | utf8 (marked : Bool)
  | utf16 (order : ByteOrder) (marked : Bool)
  | utf32 (order : ByteOrder) (marked : Bool)
  | codePage (page : CodePage)
  | multiByte (set : MultiByte)
  /-- Escapes for characters outside the first 256, or also for controls among them. -/
  | escaped (thorough : Bool)
  | punycode
  | domainLabels
  /-- A set that no text can be written in. -/
  | undefined
  /-- A way to write bytes as other bytes. -/
  | notForTexts

namespace CharacterSet

def bytesOf (order : ByteOrder) (width n : Nat) : List UInt8 :=
  let little := (List.range width).map fun i => (n / Nat.pow 256 i % 256).toUInt8
  match order with
  | .little => little
  | .big => little.reverse

/-- The bytes of a character, in the sets that write each character on its own. -/
def bytes? (charset : CharacterSet) : Layer := fun c =>
  match charset with
  | .ascii => if c.toNat < 0x80 then some [c.toNat.toUInt8] else none
  | .latin1 => if c.toNat < 0x100 then some [c.toNat.toUInt8] else none
  | .utf8 _ => some (String.ofList [c]).toUTF8.toList
  | .utf16 order _ => some ((Character.units16 c).flatMap (bytesOf order 2))
  | .utf32 order _ => some (bytesOf order 4 c.toNat)
  | .codePage page => (page.byte? c).map fun b => [b]
  | .escaped thorough => some (if thorough then Escapes.thorough c else Escapes.sparing c)
  | .utf7 | .multiByte _ | .punycode | .domainLabels | .undefined | .notForTexts => none

def mark : CharacterSet → List UInt8
  | .utf8 true => [0xEF, 0xBB, 0xBF]
  | .utf16 order true => bytesOf order 2 0xFEFF
  | .utf32 order true => bytesOf order 4 0xFEFF
  | _ => []

/-- The first run of characters of a text that a set lacks, counted from a position. -/
def firstGap? (charset : CharacterSet) (position : Nat) : List Char → Option Gap
  | [] => none
  | c :: rest =>
      if (charset.bytes? c).isSome then firstGap? charset (position + 1) rest
      else some ⟨position, 1 + (rest.takeWhile fun d => (charset.bytes? d).isNone).length, c⟩

inductive Misuse where
  | badLabel
  | undefined
  | notForTexts
  deriving DecidableEq, Repr

def Misuse.message (name : String) : Misuse → String
  | .badLabel => "label empty or too long"
  | .undefined => "undefined encoding"
  | .notForTexts => "'" ++ name ++ "' is not a text encoding"

inductive Unencodable where
  | gap (gap : Gap)
  | misuse (misuse : Misuse)
  deriving DecidableEq, Repr

def encode (charset : CharacterSet) (text : String) : Except Unencodable (List UInt8) :=
  let chars := text.toList
  match charset with
  | .utf7 => .ok (Utf7.encode chars)
  | .multiByte set => (set.encode chars).mapError .gap
  | .punycode => .ok (Punycode.encode chars)
  | .domainLabels => match DomainLabels.encode? chars with
    | some bytes => .ok bytes
    | none => .error (.misuse .badLabel)
  | .undefined => .error (.misuse .undefined)
  | .notForTexts => .error (.misuse .notForTexts)
  | charset => match charset.firstGap? 0 chars with
    | some gap => .error (.gap gap)
    | none => .ok (charset.mark ++ chars.flatMap fun c => (charset.bytes? c).getD [])

def codecName : CharacterSet → String
  | .ascii => "ascii"
  | .latin1 => "latin-1"
  | .codePage _ => "charmap"
  | .multiByte set => set.name
  | .utf7 => "utf-7"
  | .utf8 _ => "utf-8"
  | .utf16 .. => "utf-16"
  | .utf32 .. => "utf-32"
  | .escaped _ => "unicodeescape"
  | .punycode => "punycode"
  | .domainLabels => "idna"
  | .undefined | .notForTexts => "undefined"

/-- What a character lies outside of if a set lacks it. -/
def limit : CharacterSet → String
  | .ascii => "ordinal not in range(128)"
  | .latin1 => "ordinal not in range(256)"
  | .codePage _ => "character maps to <undefined>"
  | .multiByte _ => "illegal multibyte sequence"
  | _ => "surrogates not allowed"

def describeGap (charset : CharacterSet) (gap : Gap) : String :=
  let place := if gap.length = 1 then
      "character '" ++ Text.escape gap.first ++ "' in position " ++ toString gap.start
    else "characters in position " ++ toString gap.start ++ "-" ++
      toString (gap.start + gap.length - 1)
  "'" ++ charset.codecName ++ "' codec can't encode " ++ place ++ ": " ++ charset.limit

end CharacterSet

end TopicBindings.File
