import TopicBindings.Declaration.Basic
import TopicBindings.Naming.Style

/-!
Packages of declarations, and the operations that declare something in a scope. A scope is a package or
a type in it. Every operation returns a new tree or a fault, so that a fault changes nothing; declarations
are only added, at the end of their scope, and no two named ones of a scope share a name.
-/

namespace TopicBindings

open Binding (QualifiedName)

namespace Declaration

/-- A package, or the type in it that a path of names leads to. -/
structure Scope where
  package : String
  path : List String
  deriving DecidableEq, Repr

namespace Scope

def ofPackage (package : String) : Scope :=
  ⟨package, []⟩

def child (s : Scope) (name : String) : Scope :=
  ⟨s.package, s.path ++ [name]⟩

def qualifiedName? (s : Scope) : Option QualifiedName :=
  s.path.getLast?.map fun name => ⟨s.package, name, s.path.dropLast, none⟩

def nameOf (s : Scope) (name : String) : QualifiedName :=
  ⟨s.package, name, s.path, none⟩

def describe (s : Scope) : String :=
  match s.qualifiedName? with
  | none => "package '" ++ s.package ++ "'"
  | some name => "type '" ++ name.toText ++ "'"

end Scope

inductive Fault where
  | duplicate (name : String) (scope : Scope)
  | literalCollision (literal : String) (owner : QualifiedName) (constant : String)
  | fieldInPackage (name package : String)
  | contentInPackage (package : String)
  deriving DecidableEq, Repr

def Fault.message : Fault → String
  | .duplicate name scope => "Duplicate declaration of '" ++ name ++ "' in " ++ scope.describe
  | .literalCollision literal owner constant =>
      "Enum literal '" ++ literal ++ "' of '" ++ owner.toText ++ "' collides with constant '" ++
        constant ++ "'"
  | .fieldInPackage name package =>
      "Unable to create property '" ++ name ++ "' on package level ('" ++ package ++ "')"
  | .contentInPackage package => "Unable to create method on package level ('" ++ package ++ "')"

/-- The literals of an enumeration with their constants. The value of a constant is the literal or the
constant itself; no two literals may share a constant. -/
def literalsOf (owner : QualifiedName) (keepLiterals : Bool) (seen : List String) :
    List String → Except Fault (List EnumLiteral)
  | [] => .ok []
  | literal :: rest =>
      let constant := Naming.constantName literal
      if constant ∈ seen then .error (.literalCollision literal owner constant)
      else do
        let others ← literalsOf owner keepLiterals (constant :: seen) rest
        return ⟨literal, constant, if keepLiterals then literal else constant, []⟩ :: others

def membersOf (name : String) : List Declaration → List Declaration
  | [] => []
  | .type n _ _ members :: rest => if n.name = name then members else membersOf name rest
  | _ :: rest => membersOf name rest

def membersAt : List String → List Declaration → List Declaration
  | [], members => members
  | step :: path, members => membersAt path (membersOf step members)

def changeMembersOf (name : String) (change : List Declaration → List Declaration) :
    List Declaration → List Declaration
  | [] => []
  | .type n doc shape members :: rest =>
      if n.name = name then .type n doc shape (change members) :: rest
      else .type n doc shape members :: changeMembersOf name change rest
  | d :: rest => d :: changeMembersOf name change rest

def appendAt (new : Declaration) : List String → List Declaration → List Declaration
  | [], members => members ++ [new]
  | step :: path, members => changeMembersOf step (appendAt new path) members

structure Package where
  units : List Declaration
  metadata : Entries String String

/-- Packages by name, in order of their first use. -/
structure Tree where
  packages : Entries String Package

namespace Tree

def empty : Tree :=
  ⟨[]⟩

def openPackage (t : Tree) (name : String) : Tree :=
  if (t.packages.lookup name).isSome then t
  else ⟨t.packages ++ [(name, ⟨[], []⟩)]⟩

def package? (t : Tree) (name : String) : Option Package :=
  t.packages.lookup name

def modifyPackage (t : Tree) (name : String) (change : Package → Package) : Tree :=
  ⟨t.packages.map fun (n, p) => if n = name then (n, change p) else (n, p)⟩

def noteMetadata (t : Tree) (package : String) (entries : Entries String String) : Tree :=
  t.modifyPackage package fun p => { p with metadata := p.metadata.update entries }

def members (t : Tree) (scope : Scope) : List Declaration :=
  match t.package? scope.package with
  | none => []
  | some p => membersAt scope.path p.units

def append (t : Tree) (scope : Scope) (new : Declaration) : Tree :=
  t.modifyPackage scope.package fun p => { p with units := appendAt new scope.path p.units }

/-- Adds a declaration whose name is free in the scope. -/
def declare (t : Tree) (scope : Scope) (new : Declaration) : Except Fault Tree :=
  match new.memberName? with
  | none => .ok (t.append scope new)
  | some name =>
      if some name ∈ (t.members scope).map memberName? then .error (.duplicate name scope)
      else .ok (t.append scope new)

def declareType (t : Tree) (scope : Scope) (name : String) (doc : Doc) (shape : Shape) :
    Except Fault Tree :=
  t.declare scope (.type (scope.nameOf name) doc shape [])

def declareEnum (t : Tree) (scope : Scope) (name : String) (doc : Doc) (entries : List EnumLiteral) :
    Except Fault Tree :=
  t.declare scope (.enumeration (scope.nameOf name) doc entries)

/-- Finds the constants of literals and declares the enumeration; `note` adds what is known about each
literal. -/
def createEnum (t : Tree) (scope : Scope) (name : String) (doc : Doc) (literals : List String)
    (keepLiterals : Bool) (note : EnumLiteral → EnumLiteral) : Except Fault Tree := do
  let entries ← literalsOf (scope.nameOf name) keepLiterals [] literals
  t.declareEnum scope name doc (entries.map note)

def declareField (t : Tree) (scope : Scope) (field : Field) : Except Fault Tree :=
  if scope.path.isEmpty then .error (.fieldInPackage field.name scope.package)
  else t.declare scope (.field field)

def declareMethod (t : Tree) (scope : Scope) (method : Method) : Except Fault Tree :=
  if scope.path.isEmpty then .error (.contentInPackage scope.package)
  else t.declare scope (.method method)

def declareRaw (t : Tree) (scope : Scope) (content : RawContent) : Except Fault Tree :=
  if scope.path.isEmpty then .error (.contentInPackage scope.package)
  else t.declare scope (.raw content)

def units (t : Tree) : List (String × Declaration) :=
  t.packages.flatMap fun (name, p) => p.units.map fun d => (name, d)

def find? (t : Tree) (wanted : String) : Option Declaration :=
  t.units.findSome? fun (_, d) => d.find? wanted

end Tree

end Declaration

end TopicBindings
