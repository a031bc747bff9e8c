import TopicBindings.Binding.Expression
import TopicBindings.Entries

/-!
What can be declared in the output: types with members, enumerations, properties, methods and verbatim
lines.
-/

namespace TopicBindings

open Binding (QualifiedName TypeExpression)

namespace Declaration

structure Doc where
  summary : Option String
  description : Option String
  deriving DecidableEq, Repr

structure Decorator where
  target : QualifiedName
  arguments : List String
  deriving DecidableEq, Repr

inductive TypeKind where
  | concrete
  | interface
  deriving DecidableEq, Repr

structure Shape where
  kind : TypeKind
  bases : List TypeExpression
  decorators : List Decorator
  deriving Repr

namespace Shape

def plain : Shape :=
  ⟨.concrete, [], []⟩

def dataClass : Shape :=
  ⟨.concrete, [], [⟨.external "dataclasses" "dataclass", ["kw_only=True"]⟩]⟩

def protocol : Shape :=
  ⟨.interface, [.plain (.external "typing" "Protocol")], []⟩

end Shape

structure Field where
  name : String
  type : TypeExpression
  doc : Doc
  required : Bool
  deriving Repr

structure Parameter where
  name : String
  type : TypeExpression
  deriving Repr

/-- A method; `delegateTo` names the methods whose chain of calls ends the body. -/
structure Method where
  name : String
  returns : Option TypeExpression
  parameters : List Parameter
  summary : Option String
  body : List String
  decorators : List Decorator
  delegateTo : List String
  deriving Repr

structure RawContent where
  lines : List String
  references : List QualifiedName
  deriving DecidableEq, Repr

/-- A literal of an enumeration: as the description has it, the constant it is declared under, the
value of the constant, and what was noted about it. -/
structure EnumLiteral where
  literal : String
  constant : String
  value : String
  metadata : Entries String String
  deriving DecidableEq, Repr

end Declaration

open Declaration in
inductive Declaration where
  | type (name : QualifiedName) (doc : Doc) (shape : Shape) (members : List Declaration)
  | enumeration (name : QualifiedName) (doc : Doc) (literals : List EnumLiteral)
  | field (field : Field)
  | method (method : Method)
  | raw (content : RawContent)
  deriving Repr

namespace Declaration

/-- The name that a declaration takes in its scope; verbatim lines take none. -/
def memberName? : Declaration → Option String
  | .type name _ _ _ | .enumeration name _ _ => some name.name
  | .field f => some f.name
  | .method m => some m.name
  | .raw _ => none

def qualifiedName? : Declaration → Option QualifiedName
  | .type name _ _ _ | .enumeration name _ _ => some name
  | _ => none

def fields (members : List Declaration) : List Field :=
  members.filterMap fun
    | .field f => some f
    | _ => none

def methods (members : List Declaration) : List Method :=
  members.filterMap fun
    | .method m => some m
    | _ => none

def nestedTypes (members : List Declaration) : List Declaration :=
  members.filter fun d => d.qualifiedName?.isSome

mutual

/-- The type or enumeration of a dotted name, at or below a declaration; the outermost and first one
wins. -/
def find? (wanted : String) : Declaration → Option Declaration
  | .type name doc shape members =>
      if name.toText = wanted then some (.type name doc shape members)
      else findAmong? wanted members
  | .enumeration name doc literals =>
      if name.toText = wanted then some (.enumeration name doc literals) else none
  | _ => none

def findAmong? (wanted : String) : List Declaration → Option Declaration
  | [] => none
  | d :: rest => match find? wanted d with
    | some found => some found
    | none => findAmong? wanted rest

end

end Declaration

end TopicBindings
