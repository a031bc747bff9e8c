import TopicBindings.Character.Digit
import TopicBindings.Character.Identifier
import TopicBindings.Source.Fault
import TopicBindings.Text.Fields

/-!
Identifiers of the generated Python source. A keyword gets a low line behind it, a name that starts with
a digit one in front; every other name stays as it is or cannot be spelled.
-/

namespace TopicBindings.Source

def keywords : List String :=
  ["False", "None", "True", "and", "as", "assert", "async", "await", "break", "class", "continue",
    "def", "del", "elif", "else", "except", "finally", "for", "from", "global", "if", "import", "in",
    "is", "lambda", "nonlocal", "not", "or", "pass", "raise", "return", "try", "while", "with", "yield"]

def isKeyword (name : String) : Bool :=
  keywords.contains name

/-- Whether a text has the form of an identifier, keywords included. -/
def isIdentifier (name : String) : Bool :=
  match name.toList with
  | [] => false
  | c :: rest => Character.isIdentifierStart c && rest.all Character.isIdentifierPart

def guardDigit (name : String) : String :=
  match name.toList with
  | c :: _ => if Character.isDigit c then "_" ++ name else name
  | [] => name

def guardKeyword (name : String) : String :=
  if isKeyword name then name ++ "_" else name

def identifier (name : String) : Except Fault String :=
  if name.isEmpty then .error .emptyIdentifier
  else
    let guarded := guardKeyword (guardDigit name)
    if isIdentifier guarded then .ok guarded else .error (.invalidIdentifier guarded)

/-- Whether a text is a dotted sequence of identifiers without keywords. -/
def isPackageName (name : String) : Bool :=
  (Text.splitAt '.' name).all fun segment => isIdentifier segment && !isKeyword segment

end TopicBindings.Source
