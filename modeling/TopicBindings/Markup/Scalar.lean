import TopicBindings.Decimal.Shortest
import TopicBindings.Markup.Number
import TopicBindings.Markup.Time
import TopicBindings.Text.Shown
import TopicBindings.Text.Strip

/-!
Scalar values of documents, which of them are equal, and their texts. Numbers of different kinds are equal if
their values are; a boolean counts as the number one or zero.
-/

namespace TopicBindings.Markup

inductive Scalar where
  | null
  | bool (value : Bool)
  | int (value : Int)
  | float (value : Float)
  /-- What is no number. Written so it is one value; as the result of reading a number it is told apart
  by where the number stands. -/
  | undefined (origin : Option Nat)
  | text (value : String)
  | bytes (value : List UInt8)
  | date (value : Date)
  | moment (value : Moment)

namespace Scalar

/-- The exact value of a finite float as `n · 2^q`. -/
def dyadic? (x : Float) : Option (Int × Int) :=
  (Decimal.parts? x).map fun p => (if p.negative then -(p.m : Int) else p.m, p.q)

def floatIsInt (x : Float) (n : Int) : Bool :=
  match dyadic? x with
  | some (m, q) => m * Nat.pow 2 q.toNat == n * Nat.pow 2 (-q).toNat
  | none => false

/-- Equality of values, as it decides which keys of a mapping are the same. -/
def same : Scalar → Scalar → Bool
  | .null, .null => true
  | .bool a, .bool b => a == b
  | .bool a, .int b | .int b, .bool a => a.toInt == b
  | .bool a, .float x | .float x, .bool a => floatIsInt x a.toInt
  | .int a, .int b => a == b
  | .int a, .float x | .float x, .int a => floatIsInt x a
  | .float x, .float y => x == y
  | .undefined a, .undefined b => a == b
  | .text a, .text b => a == b
  | .bytes a, .bytes b => a == b
  | .date a, .date b => a == b
  | .moment a, .moment b => a.same b
  | _, _ => false

def trimmed (digits : Nat) (exponent : Int) : List Char × Int :=
  let all := Nat.toDigits 10 digits
  (Text.dropTrailing '0' all, all.length + exponent)

def exponentText (e : Int) : String :=
  (if e < 0 then "e-" else "e+") ++ Time.padded 2 e.natAbs

/-- Digits with a point behind so many of them. Values from `0.0001` to below `10^16` are written out, with
a zero behind the point if nothing else stands there; others have an exponent of two or more digits. -/
def placed (digits : List Char) (point : Int) : String :=
  if point > 16 || point ≤ -4 then
    match digits with
    | [] => "0.0"
    | [d] => String.ofList [d] ++ exponentText (point - 1)
    | d :: rest => String.ofList (d :: '.' :: rest) ++ exponentText (point - 1)
  else if point ≤ 0 then
    "0." ++ String.ofList (List.replicate (-point).toNat '0' ++ digits)
  else
    let whole := digits.take point.toNat
    let fraction := digits.drop point.toNat
    String.ofList (whole ++ List.replicate (point.toNat - whole.length) '0') ++ "." ++
      (if fraction.isEmpty then "0" else String.ofList fraction)

def floatText (x : Float) : String :=
  match Decimal.parts? x with
  | none => if x == x then (if x < 0.0 then "-inf" else "inf") else "nan"
  | some p =>
      let sign := if p.negative then "-" else ""
      if p.m = 0 then sign ++ "0.0"
      else
        let (digits, exponent) := Decimal.shortest (.of p.m p.q p.lowest)
        let (chars, point) := trimmed digits exponent
        sign ++ placed chars point

def byteText (quote : Char) (b : UInt8) : String :=
  let c := Char.ofNat b.toNat
  if c = quote || c = '\\' then String.ofList ['\\', c]
  else if c = '\n' then "\\n"
  else if c = '\r' then "\\r"
  else if c = '\t' then "\\t"
  else if 0x20 ≤ b.toNat && b.toNat < 0x7F then String.ofList [c]
  else "\\x" ++ Text.hexDigits 2 b.toNat

def bytesText (bytes : List UInt8) : String :=
  let chars := bytes.map fun b => Char.ofNat b.toNat
  let quote := if chars.contains '\'' && !chars.contains '"' then '"' else '\''
  "b" ++ String.ofList [quote] ++ Text.join "" (bytes.map (byteText quote)) ++ String.ofList [quote]

def toText : Scalar → String
  | .null => "None"
  | .bool true => "True"
  | .bool false => "False"
  | .int n => toString n
  | .float x => floatText x
  | .undefined _ => "nan"
  | .text s => s
  | .bytes b => bytesText b
  | .date d => d.toText
  | .moment m => m.toText

end Scalar

instance : BEq Scalar := ⟨Scalar.same⟩

end TopicBindings.Markup
