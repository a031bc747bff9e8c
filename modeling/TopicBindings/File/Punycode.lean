/-!
Texts as their ASCII characters followed by where the others belong. The other characters are put in one by
one, the smallest first; between two of them counts the number of positions that are passed, over all rounds.
Each count is a number whose digits have bases of their own, which follow the size of the counts before it.
-/

namespace TopicBindings.File.Punycode

/-- One round over a text: the counts before each place of a character, the number of characters that are in
place after the round, and the count that is left. -/
def round (c : Char) (placed count : Nat) : List Char → List Nat × Nat × Nat
  | [] => ([], placed, count)
  | d :: rest =>
      if d = c then
        let (counts, placed, left) := round c (placed + 1) 0 rest
        (count :: counts, placed, left)
      else round c placed (if d < c then count + 1 else count) rest

def countsFrom (s : List Char) (next placed count : Nat) : List Char → List Nat
  | [] => []
  | c :: rest =>
      let (counts, placed, left) := round c placed (count + (c.toNat - next) * (placed + 1)) s
      counts ++ countsFrom s (c.toNat + 1) placed (left + 1) rest

def counts (s : List Char) : List Nat :=
  let others := (s.filter (0x80 ≤ ·.toNat)).eraseDups.mergeSort
  countsFrom s 0x80 (s.countP (·.toNat < 0x80)) 0 others

def digit (n : Nat) : UInt8 :=
  (if n < 26 then n + 0x61 else n - 26 + 0x30).toUInt8

def threshold (place bias : Nat) : Nat :=
  max 1 (min 26 (36 * (place + 1) - bias))

theorem threshold_pos (place bias : Nat) : 0 < threshold place bias := by
  unfold threshold
  omega

def digitsFrom (place bias n : Nat) : List UInt8 :=
  let t := threshold place bias
  if n < t then [digit n]
  else digit (t + (n - t) % (36 - t)) :: digitsFrom (place + 1) bias ((n - t) / (36 - t))
termination_by n
decreasing_by
  have := threshold_pos place bias
  have := Nat.div_le_self (n - threshold place bias) (36 - threshold place bias)
  omega

def reduce (n : Nat) : Nat × Nat :=
  if n > 455 then
    let (times, m) := reduce (n / 35)
    (times + 1, m)
  else (0, n)

def adapt (count placed : Nat) (first : Bool) : Nat :=
  let scaled := if first then count / 700 else count / 2
  let (times, m) := reduce (scaled + scaled / placed)
  36 * times + 36 * m / (m + 38)

def digitsOf (placed bias : Nat) (first : Bool) : List Nat → List UInt8
  | [] => []
  | n :: rest => digitsFrom 0 bias n ++ digitsOf (placed + 1) (adapt n (placed + 1) first) false rest

/-- The written form: the characters of ASCII with a hyphen behind them, and the counts. -/
def encode (s : List Char) : List UInt8 :=
  let base := s.filter (·.toNat < 0x80)
  let front := if base.isEmpty then [] else (base ++ ['-']).map fun c => c.toNat.toUInt8
  front ++ digitsOf base.length 72 true (counts s)

end TopicBindings.File.Punycode
