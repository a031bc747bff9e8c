import TopicBindings.Text.Fields

/-!
Dotted versions such as `1.0.2`. Versions of unequal length compare as if the shorter one went on
with zeros, so `2` and `2.0` are the same version; `canonical` picks one list of segments for each.
-/

namespace TopicBindings

/-- A version of one or more segments in order of significance. -/
structure Version where
  segments : List Nat
  segments_ne_nil : segments ≠ []
  deriving DecidableEq

namespace Version

inductive Fault where
  | noSegments
  | negativeSegment (value : Int)
  | malformed (text : String)
  deriving DecidableEq, Repr

def Fault.message : Fault → String
  | .noSegments => "A version requires at least one segment"
  | .negativeSegment value => "Invalid version segment: " ++ toString value
  | .malformed text => "Invalid version '" ++ text ++ "'"

def numberOf (digits : List Char) : Nat :=
  digits.foldl (fun n c => n * 10 + (c.toNat - 0x30)) 0

def isNumeral (s : List Char) : Bool :=
  !s.isEmpty && s.all Char.isDigit

/-- The version of a dotted text; each segment has to be a numeral. -/
def parse (text : String) : Except Fault Version :=
  let tokens := Text.fields '.' text.toList
  if tokens.all isNumeral then
    .ok ⟨tokens.map numberOf, by simpa [tokens] using Text.fields_ne_nil '.' text.toList⟩
  else .error (.malformed text)

def ofSegments (values : List Int) : Except Fault Version :=
  if h : values = [] then .error .noSegments
  else match values.find? (· < 0) with
    | some value => .error (.negativeSegment value)
    | none => .ok ⟨values.map Int.toNat, by simpa using h⟩

def compareSegments : List Nat → List Nat → Ordering
  | [], [] => .eq
  | [], b :: bs => (compare 0 b).then (compareSegments [] bs)
  | a :: as, [] => (compare a 0).then (compareSegments as [])
  | a :: as, b :: bs => (compare a b).then (compareSegments as bs)

/-- Segment by segment, the shorter version continued with zeros. -/
def compare (v w : Version) : Ordering :=
  compareSegments v.segments w.segments

instance : Ord Version := ⟨compare⟩

def equal (v w : Version) : Bool :=
  v.compare w == .eq

def less (v w : Version) : Bool :=
  v.compare w == .lt

/-! The other three comparisons come from these two. -/

def lessOrEqual (v w : Version) : Bool :=
  v.less w || v.equal w

def greater (v w : Version) : Bool :=
  !v.less w && !v.equal w

def greaterOrEqual (v w : Version) : Bool :=
  !v.less w

/-- The segments without the zeros at their end, at least one of them kept. -/
def canonicalSegments : List Nat → List Nat
  | [] => []
  | a :: as => a :: (as.reverse.dropWhile (· == 0)).reverse

def canonical (v : Version) : List Nat :=
  canonicalSegments v.segments

def toText (v : Version) : String :=
  Text.join "." (v.segments.map toString)

/-- The versions in ascending order; equal ones keep their order. -/
def sort (versions : List Version) : List Version :=
  versions.mergeSort fun v w => (v.compare w).isLE

end Version

end TopicBindings
