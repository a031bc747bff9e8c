import TopicBindings.Character.Printable
import TopicBindings.Text.Escape
import TopicBindings.Text.Fields

/-!
Texts as they are shown in messages: in single quotes, or in double ones where that avoids escapes, with
escapes for what cannot be printed.
-/

namespace TopicBindings.Text

def showChar (quote : Char) (c : Char) : String :=
  if c = quote || c = '\\' then String.ofList ['\\', c]
  else if c = '\n' then "\\n"
  else if c = '\r' then "\\r"
  else if c = '\t' then "\\t"
  else if Character.isPrintable c then String.ofList [c]
  else escape c

def shown (s : String) : String :=
  let chars := s.toList
  let quote := if chars.contains '\'' && !chars.contains '"' then '"' else '\''
  String.ofList [quote] ++ Text.join "" (chars.map (showChar quote)) ++ String.ofList [quote]

end TopicBindings.Text
