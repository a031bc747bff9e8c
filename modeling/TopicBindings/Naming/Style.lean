import TopicBindings.Character.CaseMap
import TopicBindings.Character.Cased
import TopicBindings.Naming.Word

/-!
Identifiers in the usual styles. Each style changes the case of the words of a text and joins them.
-/

namespace TopicBindings.Naming

open Character (upper lower isCased isCaseIgnorable)

def upperText (s : List Char) : List Char :=
  s.flatMap upper

/-- Whether a text goes on with a cased character, marks and signs not counted. -/
def startsCased (s : List Char) : Bool :=
  match s.dropWhile isCaseIgnorable with
  | c :: _ => isCased c
  | [] => false

/-- Lower case after a text that does or does not end in a cased character. A capital sigma has its
final form at the end of a word that has other letters. -/
def lowerFrom (afterCased : Bool) : List Char → List Char
  | [] => []
  | c :: rest =>
      (if c = 'Σ' then [if afterCased && !startsCased rest then 'ς' else 'σ'] else lower c) ++
        lowerFrom (if isCaseIgnorable c then afterCased else isCased c) rest

def lowerText (s : List Char) : List Char :=
  lowerFrom false s

def capitalize : List Char → List Char
  | [] => []
  | c :: rest => upper c ++ lowerText rest

def uncapitalize : List Char → List Char
  | [] => []
  | c :: rest => lower c ++ lowerText rest

/-- The words with a capital each, apart from the first one, which `head` treats. -/
def camelWith (head : List Char → List Char) (s : List Char) : List Char :=
  match words s with
  | [] => []
  | word :: more => head word ++ more.flatMap capitalize

def joinWords (sep : Char) (change : List Char → List Char) (s : List Char) : List Char :=
  List.intercalate [sep] ((words s).map change)

def splitWords (s : String) : List String :=
  (words s.toList).map String.ofList

/-- Camel case with a small letter in front, the style of methods. -/
def lowerCamel (s : String) : String :=
  String.ofList (camelWith uncapitalize s.toList)

/-- Camel case with a capital in front, the style of types. -/
def typeName (s : String) : String :=
  String.ofList (camelWith capitalize s.toList)

/-- Capitals and low lines, the style of constants. -/
def upperUnderscore (s : String) : String :=
  String.ofList (joinWords '_' upperText s.toList)

def lowerDash (s : String) : String :=
  String.ofList (joinWords '-' lowerText s.toList)

/-- Small letters and low lines, the style of modules and fields. -/
def lowerUnderscore (s : String) : String :=
  String.ofList (joinWords '_' lowerText s.toList)

def toUpper (s : String) : String :=
  String.ofList (upperText s.toList)

def toLower (s : String) : String :=
  String.ofList (lowerText s.toList)

/-- The identifier of a dotted version, such as `v1_0`. -/
def versionIdentifier (version : String) : String :=
  String.ofList ('v' :: version.toList.map fun c => if c = '.' then '_' else c)

/-- The constant that stands for a literal. A name that would be empty or start with a digit is
introduced by `VALUE`. -/
def constantName (literal : String) : String :=
  match upperUnderscore literal with
  | name => match name.toList with
    | [] => "VALUE"
    | c :: _ => if Character.isDigit c then "VALUE_" ++ name else name

end TopicBindings.Naming
