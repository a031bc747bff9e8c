import TopicBindings.Binding.Name
import TopicBindings.Naming.Style
import TopicBindings.Source.Identifier

/-!
How generated source refers to types. Each generated type at the top of a package has a module of its own,
called after the type in small letters; types inside it are reached through it.
-/

namespace TopicBindings.Source

open Binding (QualifiedName)

def localName (n : QualifiedName) : Except Fault String :=
  return Text.join "." (← n.path.mapM identifier)

/-- The segments of the module that a generated type is declared in; empty ones are left out. -/
def moduleSegments (n : QualifiedName) : Except Fault (List String) :=
  ((Text.splitAt '.' n.package ++ [Naming.lowerUnderscore n.topLevel]).filter (!·.isEmpty)).mapM identifier

def moduleName (n : QualifiedName) : Except Fault String :=
  return Text.join "." (← moduleSegments n)

def moduleOf (n : QualifiedName) : Except Fault (Option String) :=
  if n.isBuiltin then .ok none
  else match n.importedFrom with
    | some origin => .ok (some origin)
    | none => (moduleName n).map some

def reference (n : QualifiedName) : Except Fault String :=
  if n.isBuiltin then .ok n.name
  else match n.importedFrom with
    | some origin => return origin ++ "." ++ (← localName n)
    | none => do
        let home ← moduleName n
        return home ++ "." ++ (← localName n)

/-- The reference to a name from inside a module; its own names need no qualification. -/
def referenceWithin (home : String) (n : QualifiedName) : Except Fault String := do
  if n.isGenerated then
    if (← moduleName n) = home then return ← localName n
  reference n

end TopicBindings.Source
