import TopicBindings.Markup.Number
import TopicBindings.Markup.Time

/-!
Tags, which say what a node of a document is, and the tags of plain scalars without one.
-/

namespace TopicBindings.Markup

inductive Tag where
  | null
  | bool
  | int
  | float
  | binary
  | timestamp
  | orderedMapping
  | pairs
  | set
  | text
  | sequence
  | mapping
  | merge
  | value
  | unknown (name : String)
  deriving DecidableEq, Repr

namespace Tag

def standardSpace : String := "tag:yaml.org,2002:"

def standard : List (String × Tag) :=
  [("null", .null), ("bool", .bool), ("int", .int), ("float", .float), ("binary", .binary),
    ("timestamp", .timestamp), ("omap", .orderedMapping), ("pairs", .pairs), ("set", .set), ("str", .text),
    ("seq", .sequence), ("map", .mapping), ("merge", .merge), ("value", .value)]

def ofName (name : String) : Tag :=
  match standard.find? fun (short, _) => standardSpace ++ short == name with
  | some (_, tag) => tag
  | none => .unknown name

def booleans : List (String × Bool) :=
  [("yes", true), ("no", false), ("true", true), ("false", false), ("on", true), ("off", false)]

/-- A word in small letters, in capitals, or with a capital in front. -/
def casings (word : String) : List String :=
  let upper := word.toList.map Char.toUpper
  [word, String.ofList upper, String.ofList (upper.take 1 ++ word.toList.drop 1)]

/-- A text without a line feed at its end, unless it is nothing else. -/
def withoutLineEnd (s : List Char) : List Char :=
  if s.getLast? = some '\n' ∧ s.length > 1 then s.dropLast else s

/-- The tag of a scalar that is taken for what it looks like. A line feed at its end does not count. -/
def ofLook (text : String) : Tag :=
  let chars := withoutLineEnd text.toList
  let s := String.ofList chars
  if booleans.any fun (word, _) => (casings word).contains s then .bool
  else if Number.isFloat chars then .float
  else if Number.isInteger chars then .int
  else if s == "<<" then .merge
  else if ["~", "null", "Null", "NULL", ""].contains s then .null
  else if (Time.read? true chars).isSome then .timestamp
  else if s == "=" then .value
  else if ["!", "&", "*"].contains s then .unknown (standardSpace ++ "yaml")
  else .text

end Tag

end TopicBindings.Markup
