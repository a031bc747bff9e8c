import TopicBindings.Text.Strip

/-!
Documentation in triple quotes. A backslash is written twice and three quotes in a row are each escaped;
a quote at the very end is kept apart from the closing ones by a space. `read?` reads such a literal as
the language does: a backslash escapes the next character, and the first three bare quotes close.
-/

namespace TopicBindings.Source.Docstring

/-- Three quotes, escaped one by one. -/
def escapedQuotes : List Char :=
  ['\\', '"', '\\', '"', '\\', '"']

def escapeBackslashes (s : List Char) : List Char :=
  s.flatMap fun c => if c = '\\' then ['\\', '\\'] else [c]

def escapeTriples : List Char → List Char
  | '"' :: '"' :: '"' :: rest => escapedQuotes ++ escapeTriples rest
  | c :: rest => c :: escapeTriples rest
  | [] => []

/-- The text between the quotes, without what keeps it apart from the closing ones. -/
def body (text : List Char) : List Char :=
  escapeTriples (escapeBackslashes text)

def padding (text : List Char) : List Char :=
  if text.getLast? = some '"' then [' '] else []

def ending (text : List Char) : List Char :=
  if '\n' ∈ text then ['\n'] else []

def parts (texts : List (Option String)) : List (List Char) :=
  (texts.filterMap id).map (fun s => Text.strip s.toList) |>.filter (!·.isEmpty)

def content (texts : List (Option String)) : List Char :=
  List.intercalate ['\n', '\n'] (parts texts)

def literal (text : List Char) : List Char :=
  let inner := body text
  ['"', '"', '"'] ++ inner ++ padding inner ++ ending inner ++ ['"', '"', '"']

/-- The literal for a summary and a description, if one of them says anything. -/
def render? (summary description : Option String) : Option String :=
  if (parts [summary, description]).isEmpty then none
  else some (String.ofList (literal (content [summary, description])))

/-- Reads what follows the opening quotes; the closing ones have to end the text. -/
def readBody? : List Char → Option (List Char)
  | ['"', '"', '"'] => some []
  | '\\' :: c :: rest => (readBody? rest).map (c :: ·)
  | '"' :: '"' :: '"' :: _ :: _ => none
  | c :: rest => (readBody? rest).map (c :: ·)
  | [] => none

def read? : List Char → Option (List Char)
  | '"' :: '"' :: '"' :: rest => readBody? rest
  | _ => none

end TopicBindings.Source.Docstring
