/-!
Characters in the cells of a table, as the character sets of East Asia have them.
-/

namespace TopicBindings.File

/-- A cell of a table; rows and columns count from 1. -/
structure Cell where
  row : Nat
  column : Nat
  deriving DecidableEq, Repr

/-- Characters that stand side by side in a row. An empty cell between them has the replacement character. -/
structure Strip where
  row : Nat
  first : Nat
  characters : String

abbrev Grid := List Strip

namespace Grid

def cell? (grid : Grid) (c : Char) : Option Cell :=
  if c = '\uFFFD' then none
  else grid.findSome? fun s =>
    (s.characters.toList.findIdx? (· == c)).map fun i => ⟨s.row, s.first + i⟩

def count (grid : Grid) (p : Char → Bool) : Nat :=
  (grid.flatMap fun s => s.characters.toList).countP fun c => c != '\uFFFD' && p c

end Grid

end TopicBindings.File
