/-!
Texts as sequences of lines. Besides line feed and carriage return, the vertical tab, the form feed,
three separator controls, the next-line control and the two Unicode separators end a line.
-/

namespace TopicBindings.Text

def isLineEnd (c : Char) : Bool :=
  let n := c.toNat
  (0x0A ≤ n && n ≤ 0x0D) || (0x1C ≤ n && n ≤ 0x1E) || n == 0x85 || n == 0x2028 || n == 0x2029

/-- The lines of a text without their ends; a carriage return and the line feed after it are one
end. No line follows the last end. -/
def lines : List Char → List (List Char)
  | [] => []
  | '\r' :: '\n' :: rest => [] :: lines rest
  | c :: rest =>
      if isLineEnd c then [] :: lines rest
      else match lines rest with
        | [] => [[c]]
        | line :: more => (c :: line) :: more

/-- A text with a line feed for every carriage return, or for both where they follow each other. -/
def plainLineEnds : List Char → List Char
  | [] => []
  | '\r' :: '\n' :: rest => '\n' :: plainLineEnds rest
  | c :: rest => (if c = '\r' then '\n' else c) :: plainLineEnds rest

/-- Moves every line but the first to the right; a line that is empty stays so. -/
def indentTail (width : Nat) (s : List Char) : List Char :=
  match lines (s ++ ['\n']) with
  | [] => []
  | first :: rest =>
      List.intercalate ['\n'] (first :: rest.map fun line =>
        if line.isEmpty then line else List.replicate width ' ' ++ line)

end TopicBindings.Text
