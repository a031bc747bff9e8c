import TopicBindings.Character.Blank
import TopicBindings.Character.Digit
import TopicBindings.Markup.Fault

/-!
Numbers in documents: which plain texts are integers or floats, and the values of such texts. Integers come
in binary, octal, decimal and hexadecimal form and in base 60, floats need a point and a sign before the
exponent; low lines between digits are ignored.
-/

namespace TopicBindings.Markup.Number

def isSign (c : Char) : Bool :=
  c == '+' || c == '-'

def dropSign : List Char → List Char
  | c :: rest => if isSign c then rest else c :: rest
  | [] => []

def isSpacedDigit (c : Char) : Bool :=
  c.isDigit || c == '_'

/-- Whether a text is a colon and one or two digits below 60, once or more. -/
def isSixties : List Char → Bool
  | [':', b] => b.isDigit
  | ':' :: a :: b :: rest =>
      if b.isDigit then
        ('0' ≤ a && a ≤ '5' && (rest.isEmpty || isSixties rest))
      else a.isDigit && isSixties (b :: rest)
  | _ => false

def isInteger (s : List Char) : Bool :=
  match dropSign s with
  | ['0'] => true
  | '0' :: 'b' :: rest => !rest.isEmpty && rest.all fun c => c == '0' || c == '1' || c == '_'
  | '0' :: 'x' :: rest => !rest.isEmpty && rest.all fun c =>
      c.isDigit || ('a' ≤ c && c ≤ 'f') || ('A' ≤ c && c ≤ 'F') || c == '_'
  | '0' :: rest => rest.all fun c => ('0' ≤ c && c ≤ '7') || c == '_'
  | c :: rest =>
      c.isDigit &&
        let behind := rest.dropWhile isSpacedDigit
        behind.isEmpty || isSixties behind
  | [] => false

def isExponentEnd : List Char → Bool
  | [] => true
  | e :: sign :: digits =>
      (e == 'e' || e == 'E') && isSign sign && !digits.isEmpty && digits.all Char.isDigit
  | [_] => false

/-- Whether a text is a point, spaced digits, and an exponent if `exponent` allows one. -/
def isFraction (exponent : Bool) : List Char → Bool
  | '.' :: rest =>
      let behind := rest.dropWhile isSpacedDigit
      if exponent then isExponentEnd behind else behind.isEmpty
  | _ => false

/-- Whether the part before the point of a base-60 float goes on like this, then the float ends. -/
def isSixtiesFraction (s : List Char) : Bool :=
  let whole := s.takeWhile (· != '.')
  isSixties whole && isFraction false (s.drop whole.length)

def isFloat (s : List Char) : Bool :=
  let special := ["inf", "Inf", "INF"].map fun w => '.' :: w.toList
  let undefined := ["nan", "NaN", "NAN"].map fun w => '.' :: w.toList
  undefined.contains s || special.contains (dropSign s) ||
    match dropSign s with
    | '.' :: c :: rest =>
        s.head? == some '.' && c.isDigit && isFraction true ('.' :: c :: rest)
    | c :: rest =>
        c.isDigit &&
          let behind := rest.dropWhile isSpacedDigit
          isFraction true behind || isSixtiesFraction behind
    | [] => false

def withoutSpacing (s : List Char) : List Char :=
  s.filter (· != '_')

def digitValue? (base : Nat) (c : Char) : Option Nat :=
  let value :=
    if 'a' ≤ c && c ≤ 'z' then some (c.toNat - 0x61 + 10)
    else if 'A' ≤ c && c ≤ 'Z' then some (c.toNat - 0x41 + 10)
    else Character.decimalValue? c
  value.bind fun v => if v < base then some v else none

def naturalOf? (base : Nat) (digits : List Char) : Option Nat :=
  if digits.isEmpty then none
  else digits.foldlM (fun n c => (digitValue? base c).map (n * base + ·)) 0

def dropBaseMark (base : Nat) : List Char → List Char
  | '0' :: c :: rest =>
      if (base == 2 && (c == 'b' || c == 'B')) || (base == 8 && (c == 'o' || c == 'O')) ||
          (base == 16 && (c == 'x' || c == 'X')) then rest
      else '0' :: c :: rest
  | s => s

/-- Blanks that may stand around a number. The controls that separate fields and records are none. -/
def isPadding (c : Char) : Bool :=
  (0x09 ≤ c.toNat && c.toNat ≤ 0x0D) || c == ' ' || (0x80 ≤ c.toNat && Character.isBlank c)

def withoutPadding (s : List Char) : List Char :=
  ((s.dropWhile isPadding).reverse.dropWhile isPadding).reverse

/-- The integer that a text stands for in a base, blanks around it and a sign allowed. -/
def integerOf? (base : Nat) (s : List Char) : Option Int :=
  let stripped := withoutPadding s
  let magnitude := naturalOf? base (dropBaseMark base (dropSign stripped))
  magnitude.map fun (n : Nat) => if stripped.head? == some '-' then -(n : Int) else n

def integerIn (base : Nat) (s : List Char) : Except ValueFault Int :=
  match integerOf? base s with
  | some n => .ok n
  | none => .error (.noInteger base (String.ofList s))

def splitColons : List Char → List (List Char)
  | [] => [[]]
  | c :: rest =>
      if c == ':' then [] :: splitColons rest
      else match splitColons rest with
        | [] => [[c]]
        | part :: more => (c :: part) :: more

def integer (text : String) : Except ValueFault Int := do
  let spaced := withoutSpacing text.toList
  let sign : Int := if spaced.head? == some '-' then -1 else 1
  match dropSign spaced with
  | [] => .error .emptyNumber
  | ['0'] => return 0
  | '0' :: 'b' :: rest => return sign * (← integerIn 2 rest)
  | '0' :: 'x' :: rest => return sign * (← integerIn 16 rest)
  | '0' :: rest => return sign * (← integerIn 8 ('0' :: rest))
  | s =>
      if s.contains ':' then
        let parts ← (splitColons s).mapM (integerIn 10)
        return sign * parts.foldl (fun n part => n * 60 + part) 0
      else return sign * (← integerIn 10 s)

structure Decimal where
  digits : Nat
  places : Nat
  exponent : Int

/-- The nearest float. Far outside the range of floats nothing has to be computed. -/
def Decimal.toFloat (d : Decimal) : Float :=
  if d.digits = 0 then 0.0
  else
    let size : Int := (Nat.toDigits 10 d.digits).length + (d.exponent - d.places)
    if size > 400 then 1.0 / 0.0
    else if size < -400 then 0.0
    else
      let shift := d.exponent - d.places
      Float.ofScientific d.digits (shift < 0) shift.natAbs

def decimalDigits? (s : List Char) : Option (List Nat) :=
  s.mapM Character.decimalValue?

def exponentOf? : List Char → Option Int
  | [] => some 0
  | e :: rest =>
      if e == 'e' || e == 'E' then
        (naturalOf? 10 (dropSign rest)).map fun (n : Nat) => if rest.head? == some '-' then -(n : Int) else n
      else none

def decimalOf? (s : List Char) : Option Decimal := do
  let isDigit (c : Char) : Bool := (Character.decimalValue? c).isSome
  let whole := s.takeWhile isDigit
  let behind := s.dropWhile isDigit
  let (fraction, tail) := match behind with
    | '.' :: rest => (rest.takeWhile isDigit, rest.dropWhile isDigit)
    | _ => ([], behind)
  if whole.isEmpty && fraction.isEmpty then none
  let digits ← decimalDigits? (whole ++ fraction)
  return ⟨digits.foldl (fun n d => n * 10 + d) 0, fraction.length, ← exponentOf? tail⟩

def floatOf? (s : List Char) : Option Float :=
  let stripped := withoutPadding s
  let magnitude := match dropSign stripped with
    | ['i', 'n', 'f'] | ['i', 'n', 'f', 'i', 'n', 'i', 't', 'y'] => some (1.0 / 0.0)
    | ['n', 'a', 'n'] => some (0.0 / 0.0)
    | body => (decimalOf? body).map Decimal.toFloat
  magnitude.map fun x => if stripped.head? == some '-' then -x else x

def floatIn (s : List Char) : Except ValueFault Float :=
  match floatOf? s with
  | some x => .ok x
  | none => .error (.noFloat (String.ofList s))

/-- The first whole number that no finite float is nearest to. -/
def floatBound : Nat :=
  Nat.pow 2 1024 - Nat.pow 2 970

/-- The sum of parts in base 60, added up from the last one. Every place needs a value that is a float. -/
def sumSixties (parts : List Float) : Except ValueFault Float :=
  go 0.0 1 parts.reverse
where
  go (total : Float) (place : Nat) : List Float → Except ValueFault Float
    | [] => .ok total
    | part :: rest =>
        if place ≥ floatBound then .error .placeTooHigh
        else go (total + part * Float.ofNat place) (place * 60) rest

def isUndefined (spaced : List Char) : Bool :=
  dropSign spaced == ['.', 'n', 'a', 'n']

/-- The value of a scalar that is meant as a float; it has no spacing left, and its letters are small. -/
def float (spaced : List Char) : Except ValueFault Float := do
  if spaced.isEmpty then throw .emptyNumber
  let sign : Float := if spaced.head? == some '-' then -1.0 else 1.0
  if isUndefined spaced then return 0.0 / 0.0
  match dropSign spaced with
  | ['.', 'i', 'n', 'f'] => return sign * (1.0 / 0.0)
  | s =>
      if s.contains ':' then return sign * (← sumSixties (← (splitColons s).mapM floatIn))
      else return sign * (← floatIn s)

end TopicBindings.Markup.Number
