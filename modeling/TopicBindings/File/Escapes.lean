import TopicBindings.Text.Escape

/-!
Texts with escapes in place of characters. A sparing text keeps the first 256 characters as bytes; a thorough
one keeps only the printable ones of ASCII, and a backslash is written twice there.
-/

namespace TopicBindings.File.Escapes

def bytesOf (s : String) : List UInt8 :=
  s.toUTF8.toList

def sparing (c : Char) : List UInt8 :=
  if c.toNat < 0x100 then [c.toNat.toUInt8] else bytesOf (Text.escape c)

def thorough (c : Char) : List UInt8 :=
  if c = '\\' then bytesOf "\\\\"
  else if c = '\t' then bytesOf "\\t"
  else if c = '\n' then bytesOf "\\n"
  else if c = '\r' then bytesOf "\\r"
  else if 0x20 ≤ c.toNat ∧ c.toNat < 0x7F then [c.toNat.toUInt8]
  else bytesOf (Text.escape c)

end TopicBindings.File.Escapes
