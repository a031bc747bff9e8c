import TopicBindings.Character.Units

/-!
Texts in seven-bit bytes. Most ASCII characters stand for themselves. A run of other characters begins with a
plus sign and goes on with its units of sixteen bits in base 64; a hyphen ends it where the next character
could belong to it. A plus sign outside such runs has a hyphen behind it.
-/

namespace TopicBindings.File.Utf7

def isDirect (c : Char) : Bool :=
  (0x20 ≤ c.toNat && c.toNat < 0x7E && c != '+' && c != '\\') || c == '\t' || c == '\n' || c == '\r'

def digits : List Char :=
  "ABCDEFGHIJKLMNOPQRSTUVWXYZabcdefghijklmnopqrstuvwxyz0123456789+/".toList

def bits (unit : Nat) : List Bool :=
  (List.range 16).reverse.map unit.testBit

/-- The digit for up to six bits, as if zeros followed them. -/
def digit (group : List Bool) : Char :=
  let padded := group ++ List.replicate (6 - group.length) false
  digits.getD (padded.foldl (fun n b => 2 * n + b.toNat) 0) 'A'

def digitsOf : List Bool → List Char
  | [] => []
  | a :: b :: c :: d :: e :: f :: rest => digit [a, b, c, d, e, f] :: digitsOf rest
  | group => [digit group]

def run (units : List Nat) : List Char :=
  '+' :: digitsOf (units.flatMap bits)

def close (units : List Nat) (next : Char) : List Char :=
  if units.isEmpty then []
  else run units ++ (if digits.contains next || next = '-' then ['-'] else [])

def encodeFrom (units : List Nat) : List Char → List Char
  | [] => if units.isEmpty then [] else run units ++ ['-']
  | c :: rest =>
      if isDirect c then close units c ++ c :: encodeFrom [] rest
      else if units.isEmpty && c = '+' then '+' :: '-' :: encodeFrom [] rest
      else encodeFrom (units ++ Character.units16 c) rest

def encode (s : List Char) : List UInt8 :=
  (encodeFrom [] s).map fun c => UInt8.ofNat c.toNat

end TopicBindings.File.Utf7
