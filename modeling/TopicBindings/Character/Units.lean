/-!
Characters as units of sixteen bits. A character beyond the first 65536 is written as two units of ranges of
their own.
-/

namespace TopicBindings.Character

def units16 (c : Char) : List Nat :=
  if c.toNat < 0x10000 then [c.toNat]
  else [0xD800 + (c.toNat - 0x10000) / 0x400, 0xDC00 + (c.toNat - 0x10000) % 0x400]

end TopicBindings.Character
