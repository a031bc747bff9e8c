/-!
Text in double quotes. A quote, a backslash and the control characters below the space are written
with a backslash, all else as it is. `decode?` reads such a literal back.
-/

namespace TopicBindings.Text.Quoted

def hexDigit (n : Nat) : Char :=
  if n < 10 then Char.ofNat (0x30 + n) else Char.ofNat (0x61 + (n - 10))

def hexValue? (c : Char) : Option Nat :=
  let n := c.toNat
  if 0x30 ≤ n ∧ n ≤ 0x39 then some (n - 0x30)
  else if 0x61 ≤ n ∧ n ≤ 0x66 then some (n - 0x61 + 10)
  else if 0x41 ≤ n ∧ n ≤ 0x46 then some (n - 0x41 + 10)
  else none

def escape (c : Char) : List Char :=
  match c with
  | '"' => ['\\', '"']
  | '\\' => ['\\', '\\']
  | '\n' => ['\\', 'n']
  | '\r' => ['\\', 'r']
  | '\t' => ['\\', 't']
  | '\x08' => ['\\', 'b']
  | '\x0c' => ['\\', 'f']
  | c =>
      if c.toNat < 0x20 then
        ['\\', 'u', '0', '0', hexDigit (c.toNat / 16), hexDigit (c.toNat % 16)]
      else [c]

def encode (s : List Char) : List Char :=
  '"' :: s.flatMap escape ++ ['"']

/-- Reads the text between the quotes up to the closing one, which has to be the last character. -/
def decodeBody? : List Char → Option (List Char)
  | ['"'] => some []
  | '\\' :: '"' :: rest => (decodeBody? rest).map ('"' :: ·)
  | '\\' :: '\\' :: rest => (decodeBody? rest).map ('\\' :: ·)
  | '\\' :: 'n' :: rest => (decodeBody? rest).map ('\n' :: ·)
  | '\\' :: 'r' :: rest => (decodeBody? rest).map ('\r' :: ·)
  | '\\' :: 't' :: rest => (decodeBody? rest).map ('\t' :: ·)
  | '\\' :: 'b' :: rest => (decodeBody? rest).map ('\x08' :: ·)
  | '\\' :: 'f' :: rest => (decodeBody? rest).map ('\x0c' :: ·)
  | '\\' :: 'u' :: a :: b :: c :: d :: rest => do
      let code := (((← hexValue? a) * 16 + (← hexValue? b)) * 16 + (← hexValue? c)) * 16 +
        (← hexValue? d)
      (decodeBody? rest).map (Char.ofNat code :: ·)
  | c :: rest =>
      if c = '"' ∨ c = '\\' then none else (decodeBody? rest).map (c :: ·)
  | [] => none

def decode? : List Char → Option (List Char)
  | '"' :: rest => decodeBody? rest
  | _ => none

end TopicBindings.Text.Quoted

namespace TopicBindings.Text

def quoted (s : String) : String :=
  String.ofList (Quoted.encode s.toList)

end TopicBindings.Text
