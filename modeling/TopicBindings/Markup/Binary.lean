/-!
Bytes written in base 64, six bits to a character. Characters outside the alphabet are passed over.
-/

namespace TopicBindings.Markup.Binary

def sextet? (c : Char) : Option Nat :=
  if 'A' ≤ c ∧ c ≤ 'Z' then some (c.toNat - 'A'.toNat)
  else if 'a' ≤ c ∧ c ≤ 'z' then some (c.toNat - 'a'.toNat + 26)
  else if '0' ≤ c ∧ c ≤ '9' then some (c.toNat - '0'.toNat + 52)
  else if c = '+' then some 62
  else if c = '/' then some 63
  else none

/-- Reads on where `place` characters of a group of four are read, with the bits `carried` from them and
`pads` signs of padding behind them. Padding that fills its group ends the text; without it the last group has
to be full. -/
def bytesFrom? (place carried pads : Nat) : List Char → Option (List UInt8)
  | [] => if place = 0 then some [] else none
  | c :: rest =>
      if c = '=' then
        if place < 2 then bytesFrom? place carried pads rest
        else if place + pads + 1 ≥ 4 then some []
        else bytesFrom? place carried (pads + 1) rest
      else match sextet? c with
        | none => bytesFrom? place carried pads rest
        | some v =>
            let unused := Nat.pow 2 (6 - 2 * place)
            let after := bytesFrom? ((place + 1) % 4) (v % unused) 0 rest
            if place = 0 then after
            else after.map (UInt8.ofNat (carried * Nat.pow 4 place + v / unused) :: ·)

def bytes? (s : List Char) : Option (List UInt8) :=
  if s.all fun c => c.toNat < 0x80 then bytesFrom? 0 0 0 s else none

end TopicBindings.Markup.Binary
