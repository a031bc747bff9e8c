/-!
The shortest decimal that reads back as a given binary float. A float is `m · 2^q`; the reals that round to it
form an interval, which holds its ends if `m` is even. `shortest` tries one digit, two digits and so on, and
takes the first decimal of so many digits that lies in the interval, the nearer one if there are two.
-/

namespace TopicBindings.Decimal

/-- A positive float with the interval around it, all over one denominator. -/
structure Target where
  low : Nat
  value : Nat
  high : Nat
  denominator : Nat
  closed : Bool

/-- The target of `m · 2^q`. Below a power of two the next float is only half as far. -/
def Target.of (m : Nat) (q : Int) (lowest : Bool) : Target :=
  let unit := Nat.pow 2 q.toNat
  let value := 4 * m * unit
  { low := value - (if m = Nat.pow 2 52 ∧ !lowest then unit else 2 * unit)
    value
    high := value + 2 * unit
    denominator := 4 * Nat.pow 2 (-q).toNat
    closed := m % 2 = 0 }

def Target.accepts (t : Target) (d : Nat) (k : Int) : Bool :=
  let point := d * Nat.pow 10 k.toNat * t.denominator
  let scale := Nat.pow 10 (-k).toNat
  if t.closed then t.low * scale ≤ point && point ≤ t.high * scale
  else t.low * scale < point && point < t.high * scale

def Target.floorAt (t : Target) (k : Int) : Nat :=
  t.value * Nat.pow 10 (-k).toNat / (Nat.pow 10 k.toNat * t.denominator)

/-- Whether the upper one of two neighbours is nearer; a tie goes to the even one. -/
def Target.roundsUp (t : Target) (d : Nat) (k : Int) : Bool :=
  let twice := 2 * (t.value * Nat.pow 10 (-k).toNat)
  let middle := (2 * d + 1) * (Nat.pow 10 k.toNat * t.denominator)
  twice > middle || (twice == middle && d % 2 == 1)

/-- The decimal on the grid of `10^k` that reads back, if there is one. -/
def Target.onGrid? (t : Target) (k : Int) : Option Nat :=
  let d := t.floorAt k
  match t.accepts d k, t.accepts (d + 1) k with
  | true, true => some (if t.roundsUp d k then d + 1 else d)
  | true, false => some d
  | false, true => some (d + 1)
  | false, false => none

def leadingZeros (denominator : Nat) : Nat → Nat → Nat
  | 0, _ => 0
  | fuel + 1, value =>
      if value ≥ denominator then 0 else 1 + leadingZeros denominator fuel (value * 10)

/-- The place of the first digit: the value lies between `10^e` and `10^(e+1)`. -/
def Target.magnitude (t : Target) : Int :=
  if t.value ≥ t.denominator then ((Nat.toDigits 10 (t.value / t.denominator)).length : Int) - 1
  else -(leadingZeros t.denominator 400 t.value : Int)

def Target.search (t : Target) (magnitude : Int) : Nat → Nat → Nat × Int
  | 0, n => (t.floorAt (magnitude - n + 1), magnitude - n + 1)
  | fuel + 1, n =>
      let k := magnitude - n + 1
      match t.onGrid? k with
      | some d => (d, k)
      | none => t.search magnitude fuel (n + 1)

/-- Digits and exponent of the shortest decimal that reads back. -/
def shortest (t : Target) : Nat × Int :=
  t.search t.magnitude 17 1

/-- A float as sign, `m` and `q`, and whether `q` is the lowest exponent. -/
structure Parts where
  negative : Bool
  m : Nat
  q : Int
  lowest : Bool

def parts? (x : Float) : Option Parts :=
  let bits : Nat := x.toBits.toNat
  let negative : Bool := bits ≥ Nat.pow 2 63
  let biased : Nat := bits / Nat.pow 2 52 % Nat.pow 2 11
  let fraction : Nat := bits % Nat.pow 2 52
  if biased = 2047 then none
  else if biased = 0 then some ⟨negative, fraction, -1074, true⟩
  else some ⟨negative, fraction + Nat.pow 2 52, (biased : Int) - 1075, biased == 1⟩

end TopicBindings.Decimal
