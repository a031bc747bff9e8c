import TopicBindings.Character.Blank

/-!
Blank characters at the two ends of a text.
-/

namespace TopicBindings.Text

open Character (isBlank)

def strip (s : List Char) : List Char :=
  ((s.dropWhile isBlank).reverse.dropWhile isBlank).reverse

def isBlankText (s : List Char) : Bool :=
  s.all isBlank

def dropTrailing (c : Char) (s : List Char) : List Char :=
  (s.reverse.dropWhile (· == c)).reverse

end TopicBindings.Text
