import TopicBindings.Declaration.Basic
import TopicBindings.Source.Docstring
import TopicBindings.Source.Reference
import TopicBindings.Text.Lines
import TopicBindings.Text.Quoted

/-!
The source text of one declaration and of the module around it. Types named only in annotations are
imported for type checking alone; bases, decorators and the names in verbatim lines are imported when the
module runs.
-/

namespace TopicBindings.Source

open Binding (QualifiedName TypeExpression)
open Declaration (Decorator Field Method EnumLiteral Doc Shape RawContent)

def header : String :=
  "# Generated by asyncapi-codegen. Do not edit."

/-- The key under which a literal keeps its name in documents. -/
def wireNameKey : String :=
  "wire_name"

def indented (s : String) : String :=
  String.ofList (Text.indentTail 4 s.toList)

def block (s : String) : String :=
  "    " ++ indented s ++ "\n"

def withoutTrailingLines (s : String) : String :=
  String.ofList (Text.dropTrailing '\n' s.toList)

def docstring? (doc : Doc) : Option String :=
  Docstring.render? doc.summary doc.description

/-- Succeeds if every name has a module or needs none. -/
def checkModules (names : List QualifiedName) : Except Fault Unit :=
  names.forM fun n => (moduleOf n).map fun _ => ()

/-- The text of a type expression. The names that it mentions all need a module; then it is spelled. -/
def typeText (home : String) (e : TypeExpression) : Except Fault String := do
  checkModules e.references
  e.tryRender (referenceWithin home)

def decorator (home : String) (d : Decorator) : Except Fault String := do
  checkModules [d.target]
  let name ← referenceWithin home d.target
  return if d.arguments.isEmpty then name else name ++ "(" ++ Text.join ", " d.arguments ++ ")"

def decoratorLines (decorators : List String) : String :=
  Text.join "" (decorators.map fun d => "@" ++ d ++ "\n")

def fieldText (home : String) (f : Field) : Except Fault String := do
  let name ← identifier f.name
  let type ← typeText home f.type
  let line := name ++ ": " ++ type ++ (if f.required then "" else " | None = None") ++ "\n"
  return withoutTrailingLines (line ++ ((docstring? f.doc).map (· ++ "\n")).getD "")

/-- The statements of a method; a chain of delegated calls is the last one. -/
def methodBody (m : Method) : Except Fault (List String) := do
  if m.delegateTo.isEmpty then return m.body
  let calls ← m.delegateTo.mapM identifier
  return m.body ++ ["return self" ++ Text.join "" (calls.map fun c => "." ++ c ++ "()")]

def methodText (home : String) (m : Method) : Except Fault String := do
  let decorators ← m.decorators.mapM (decorator home)
  let name ← identifier m.name
  let parameters ← m.parameters.mapM fun p => do
    let parameter ← identifier p.name
    return parameter ++ ": " ++ (← typeText home p.type)
  let result ← match m.returns with
    | some e => typeText home e
    | none => .ok ""
  let returns := if result.isEmpty then "" else " -> " ++ result
  let statements ← methodBody m
  let head := decoratorLines decorators ++ "def " ++ name ++ "(self" ++
    Text.join "" (parameters.map (", " ++ ·)) ++ ")" ++ returns ++ ":\n"
  let doc := ((Docstring.render? m.summary none).map block).getD ""
  let body := if statements.isEmpty then "    ...\n"
    else Text.join "" (statements.map fun line => "    " ++ line ++ "\n")
  return withoutTrailingLines (head ++ doc ++ body)

def wireNames (literals : List EnumLiteral) : List (String × String) :=
  literals.filterMap fun l => (l.metadata.lookup wireNameKey).map fun wire => (l.constant, wire)

def tableLine (entries : List (String × String)) : String :=
  "\x7b" ++ Text.join ", " (entries.map fun (k, v) => Text.quoted k ++ ": " ++ Text.quoted v) ++ "\x7d"

/-- Reading and writing a literal under its name in documents. -/
def wireMethods (name : String) (entries : List (String × String)) : String :=
  "\n" ++
  "    @property\n" ++
  "    def wire_name(self) -> str:\n" ++
  "        \"\"\"Name of the literal in JSON documents.\"\"\"\n" ++
  "        return " ++ tableLine entries ++ "[self.name]\n" ++
  "\n" ++
  "    @classmethod\n" ++
  "    def from_wire(cls, value: str) -> " ++ name ++ ":\n" ++
  "        \"\"\"Return the literal with the given JSON name.\"\"\"\n" ++
  "        for member in cls:\n" ++
  "            if member.wire_name == value:\n" ++
  "                return member\n" ++
  "        raise ValueError(f\"\x7bvalue!r\x7d is not a valid \x7bcls.__name__\x7d wire name\")\n"

def enumText (name : QualifiedName) (doc : Doc) (literals : List EnumLiteral) :
    Except Fault String := do
  let className ← identifier name.name
  let constants ← literals.mapM fun l => do
    return "    " ++ (← identifier l.constant) ++ " = " ++ Text.quoted l.value ++ "\n"
  let docPart := match docstring? doc with
    | some d => block d ++ (if literals.isEmpty then "" else "\n")
    | none => if literals.isEmpty then "    pass\n" else ""
  let wires := wireNames literals
  return withoutTrailingLines ("class " ++ className ++ "(enum.Enum):\n" ++ docPart ++
    Text.join "" constants ++ (if wires.isEmpty then "" else wireMethods className wires))

/-- Divides a list into the longest runs of items with a property and the other items one by one. -/
def runs {α : Type} (p : α → Bool) : List α → List (List α)
  | [] => []
  | x :: rest =>
      match runs p rest with
      | (y :: ys) :: more => if p x && p y then (x :: y :: ys) :: more else [x] :: (y :: ys) :: more
      | groups => [x] :: groups

structure Piece where
  isField : Bool
  text : String

/-- The blocks of a class body: neighbouring fields stand together. -/
def blocksOf (pieces : List Piece) : List String :=
  (runs Piece.isField pieces).map fun group => Text.join "\n" (group.map Piece.text)

def classText (home : String) (name : QualifiedName) (doc : Doc) (shape : Shape)
    (pieces : List Piece) : Except Fault String := do
  let blocks := blocksOf pieces
  let decorators ← shape.decorators.mapM (decorator home)
  let className ← identifier name.name
  let bases ← shape.bases.mapM (typeText home)
  let doc? := docstring? doc
  let head := decoratorLines decorators ++ "class " ++ className ++
    (if bases.isEmpty then "" else "(" ++ Text.join ", " bases ++ ")") ++ ":\n"
  let docPart := match doc? with
    | some d => block d
    | none => if blocks.isEmpty then "    pass\n" else ""
  let gap := if doc?.isSome then "\n" else ""
  let body := match blocks with
    | [] => ""
    | first :: rest => gap ++ block first ++ Text.join "" (rest.map fun b => "\n" ++ block b)
  return withoutTrailingLines (head ++ docPart ++ body)

mutual

def pieceOf (home : String) : Declaration → Except Fault Piece
  | .type name doc shape members => do
      let pieces ← piecesOf home members
      return ⟨false, ← classText home name doc shape pieces⟩
  | .enumeration name doc literals => return ⟨false, ← enumText name doc literals⟩
  | .field f => return ⟨true, ← fieldText home f⟩
  | .method m => return ⟨false, ← methodText home m⟩
  | .raw content => do
      checkModules content.references
      return ⟨false, Text.join "\n" content.lines⟩

def piecesOf (home : String) : List Declaration → Except Fault (List Piece)
  | [] => .ok []
  | d :: rest => do
      let piece ← pieceOf home d
      let others ← piecesOf home rest
      return piece :: others

end

def modulesOf (names : List QualifiedName) : List String :=
  names.filterMap fun n => (moduleOf n).toOption.join

mutual

/-- The modules that a declaration needs when it runs. -/
def runtimeModules (home : String) : Declaration → List String
  | .type _ _ shape members =>
      runtimeModulesAll home members ++ modulesOf (shape.decorators.map Decorator.target) ++
        (modulesOf (shape.bases.flatMap TypeExpression.references)).filter (· ≠ home)
  | .enumeration .. => ["enum"]
  | .field _ => []
  | .method m => modulesOf (m.decorators.map Decorator.target)
  | .raw content => modulesOf content.references

def runtimeModulesAll (home : String) : List Declaration → List String
  | [] => []
  | d :: rest => runtimeModules home d ++ runtimeModulesAll home rest

end

mutual

def annotatedNames : Declaration → List QualifiedName
  | .type _ _ _ members => annotatedNamesAll members
  | .enumeration .. => []
  | .field f => f.type.references
  | .method m => m.parameters.flatMap (fun p => p.type.references) ++
      ((m.returns.map TypeExpression.references).getD [])
  | .raw _ => []

def annotatedNamesAll : List Declaration → List QualifiedName
  | [] => []
  | d :: rest => annotatedNames d ++ annotatedNamesAll rest

end

def sortedModules (modules : List String) : List String :=
  modules.eraseDups.mergeSort fun a b => (compare a b).isLE

def checkingImports (home : String) (d : Declaration) : List String :=
  let runtime := runtimeModules home d
  sortedModules ((modulesOf (annotatedNames d)).filter fun m => m ≠ home && !runtime.contains m)

def runtimeImports (home : String) (d : Declaration) : List String :=
  let runtime := runtimeModules home d
  sortedModules (if (checkingImports home d).isEmpty then runtime else "typing" :: runtime)

def importLine (module : String) : String :=
  "import " ++ module ++ "\n"

/-- How a module starts: with its imports, those for type checking alone behind the others. -/
def opening (runtime checking : List String) : String :=
  header ++ "\n\nfrom __future__ import annotations\n" ++
    (if runtime.isEmpty then "" else "\n" ++ Text.join "" (runtime.map importLine)) ++
    (if checking.isEmpty then ""
      else "\nif typing.TYPE_CHECKING:\n" ++ Text.join "" (checking.map fun m => "    " ++ importLine m))

def moduleText (home : String) (d : Declaration) : Except Fault String := do
  let piece ← pieceOf home d
  return opening (runtimeImports home d) (checkingImports home d) ++ "\n\n" ++ piece.text ++ "\n"

end TopicBindings.Source
