/-!
What keeps a text from being written in a character set.
-/

namespace TopicBindings.File

structure Gap where
  start : Nat
  length : Nat
  first : Char
  deriving DecidableEq, Repr

end TopicBindings.File
