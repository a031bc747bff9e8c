import TopicBindings.Text.Fields

/-!
Names of types in the output: a package, the names around the type, and its own name. A name without
package and origin is built in; one with an origin is imported from there; all others are generated.
-/

namespace TopicBindings.Binding

structure QualifiedName where
  package : String
  name : String
  enclosing : List String
  importedFrom : Option String
  deriving DecidableEq, Repr

namespace QualifiedName

/-- A name that needs no import. -/
def builtin (name : String) : QualifiedName :=
  ⟨"", name, [], none⟩

/-- A name that an existing module offers. -/
def external (origin name : String) : QualifiedName :=
  ⟨origin, name, [], some origin⟩

def inPackage (package name : String) : QualifiedName :=
  ⟨package, name, [], none⟩

def isBuiltin (n : QualifiedName) : Bool :=
  n.package.isEmpty && n.importedFrom.isNone

def isGenerated (n : QualifiedName) : Bool :=
  !n.package.isEmpty && n.importedFrom.isNone

/-- The outermost name, which the module of the type is called after. -/
def topLevel (n : QualifiedName) : String :=
  n.enclosing.headD n.name

def path (n : QualifiedName) : List String :=
  n.enclosing ++ [n.name]

def localName (n : QualifiedName) : String :=
  Text.join "." n.path

def nested (n : QualifiedName) (name : String) : QualifiedName :=
  ⟨n.package, name, n.path, n.importedFrom⟩

def toText (n : QualifiedName) : String :=
  Text.join "." ([n.package, n.localName].filter (!·.isEmpty))

instance : ToString QualifiedName := ⟨toText⟩

end QualifiedName

/-- Package parts with dots between them; missing and empty parts are left out. -/
def joinPackage (parts : List (Option String)) : String :=
  Text.join "." ((parts.filterMap id).filter (!·.isEmpty))

end TopicBindings.Binding
