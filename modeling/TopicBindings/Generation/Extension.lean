import TopicBindings.Generation.Build

/-!
Additions to a run. An extension may note things about every enumeration literal that the run declares,
and may declare more at the end of the run.
-/

namespace TopicBindings.Generation

open Binding (Resolver)
open Declaration (EnumLiteral Scope)
open Service (Definitions)

structure Context where
  resolver : Resolver
  definitions : Definitions

namespace Context

def openPackage (c : Context) (package : String) : Build Scope :=
  Build.openPackage (c.resolver.packageName (some package))

def fullName (c : Context) (parts : List String) : String :=
  Binding.joinPackage (some c.resolver.basePackage :: parts.map some)

end Context

structure Extension where
  name : String
  annotate : EnumLiteral → Entries String String
  generate : Context → Build Unit

namespace Extension

def annotateAll (extensions : List Extension) (literal : EnumLiteral) : EnumLiteral :=
  extensions.foldl (fun l e => { l with metadata := l.metadata.update (e.annotate l) }) literal

def offers (extensions : List Extension) (literal : EnumLiteral) : List Notice :=
  (List.range extensions.length).map fun position => .literalOffered position literal

end Extension

end TopicBindings.Generation
