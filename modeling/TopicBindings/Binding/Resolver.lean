import TopicBindings.Binding.TypeTable
import TopicBindings.Naming.Style
import TopicBindings.Registry

/-!
From types of a description to output names and type expressions. Objects and enumerations have names
of their own; a property of an array type is a collection of its items, and references are followed
through the registry. A chain of arrays and references that comes back to itself has no expression.
-/

namespace TopicBindings.Binding

open Schema (Primitive SchemaType)

structure Resolver where
  registry : Registry
  basePackage : String
  table : TypeTable

inductive Fault where
  | unknown (reference : Registry.Unknown)
  | nameless (name kind : String)
  | endless (name : String)
  deriving DecidableEq, Repr

def Fault.message : Fault → String
  | .unknown reference => reference.describe
  | .nameless name kind => "Type '" ++ name ++ "' of kind '" ++ kind ++ "' has no output name"
  | .endless name => "Type '" ++ name ++ "' is an array of itself"

namespace Resolver

def packageName (r : Resolver) (package : Option String) : String :=
  joinPackage [some r.basePackage, package]

def placeName (r : Resolver) (place : Schema.Place) : QualifiedName where
  package := r.packageName (some place.space)
  name := Naming.typeName place.name
  enclosing := place.parents.map Naming.typeName
  importedFrom := none

def declaredName (r : Resolver) : SchemaType → Except Fault QualifiedName
  | .object place _ _ | .enumeration place _ _ => .ok (r.placeName place)
  | type => .error (.nameless type.name type.kind)

/-- The output name of an object or an enumeration, or of what a reference points to. -/
def outputName (r : Resolver) : SchemaType → Except Fault QualifiedName
  | .reference key => do
      let type ← (r.registry.lookupType key).mapError .unknown
      r.declaredName type.val
  | type => r.declaredName type

def collection (r : Resolver) (unique : Bool) : QualifiedName :=
  if unique then r.table.uniqueCollection else r.table.sequenceCollection

/-- The expression of a type; `follow` finds the expression of what a key refers to. -/
def expressionWith (r : Resolver) (follow : Schema.TypeKey → Except Fault TypeExpression) :
    SchemaType → Except Fault TypeExpression
  | .primitive _ kind _ => .ok (.plain (r.table.boxed kind))
  | .array _ item unique _ => do
      let inner ← r.expressionWith follow item
      return .apply (r.collection unique) [inner]
  | .object place _ _ | .enumeration place _ _ => .ok (.plain (r.placeName place))
  | .reference key => follow key

/-- The expression of the component under a key, from which so many references may be followed. -/
def keyExpression (r : Resolver) (hops : Nat) (key : Schema.TypeKey) :
    Except Fault TypeExpression := do
  let found ← (r.registry.lookupType key).mapError .unknown
  match hops with
  | 0 => .error (.endless key.name)
  | hops + 1 => r.expressionWith (r.keyExpression hops) found.val

/-- The expression that a property of a type is declared with. A chain without repetition follows at
most one reference to each registered type. -/
def propertyType (r : Resolver) (type : SchemaType) : Except Fault TypeExpression :=
  r.expressionWith (r.keyExpression r.registry.types.length) type

def nativeType (r : Resolver) (kind : Primitive) (boxed : Bool) : TypeExpression :=
  .plain (if boxed then r.table.boxed kind else r.table.unboxed kind)

def messageType (r : Resolver) (ref : Schema.MessageRef) : Except Fault TypeExpression := do
  let message ← (r.registry.lookupMessage ref).mapError .unknown
  return .plain (.inPackage (r.packageName (some Schema.messagesSpace)) (Naming.typeName message.name))

end Resolver

end TopicBindings.Binding
