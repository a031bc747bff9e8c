import TopicBindings.Binding.Resolver
import TopicBindings.Declaration.Tree
import TopicBindings.Generation.Options
import TopicBindings.Service.Definitions
import TopicBindings.Service.Role

/-!
Runs that declare things one after the other. A run reads and extends a tree of declarations and keeps a
journal; when it fails, both stay as they were at that moment.
-/

namespace TopicBindings.Generation

open Binding (Resolver TypeExpression)
open Declaration (Doc EnumLiteral Field Method RawContent Scope Shape Tree)

inductive Failure where
  | options (unusable : Options.Unusable)
  | duplicateDefinition (duplicate : Registry.Duplicate)
  | grammar (fault : Topic.GrammarFault)
  | binding (fault : Binding.Fault)
  | arrayPayload (message : String)
  | declaration (fault : Declaration.Fault)
  | spelling (fault : Source.Fault)
  deriving DecidableEq, Repr

def Failure.message : Failure → String
  | .options unusable => unusable.message
  | .duplicateDefinition duplicate => duplicate.describe
  | .grammar fault => fault.message
  | .binding fault => fault.message
  | .arrayPayload message => "Unsupported payload type 'array' in message '" ++ message ++
      "': declare the array as a component"
  | .declaration fault => fault.message
  | .spelling fault => fault.message

inductive Notice where
  | outsideGrammar (fault : Topic.GrammarFault)
  | aggregated (topics versions : Nat)
  | primitiveComponent (name : String)
  | silentTopic (topic : String) (role : Service.Role)
  /-- A literal was shown to the extension at a position. -/
  | literalOffered (extension : Nat) (literal : EnumLiteral)
  | extensionStarted (name : String)
  /-- An extension reports something under a name of its own. -/
  | remark (origin text : String)
  deriving DecidableEq, Repr

structure Workspace where
  tree : Tree
  journal : List Notice

def Workspace.empty : Workspace :=
  ⟨.empty, []⟩

abbrev Build := ExceptT Failure (StateM Workspace)

namespace Build

def note (notice : Notice) : Build Unit :=
  modify fun w => { w with journal := w.journal ++ [notice] }

def ofExcept {ε α : Type} (wrap : ε → Failure) : Except ε α → Build α
  | .ok a => pure a
  | .error e => throw (wrap e)

/-- Changes the tree, or fails and leaves it alone. -/
def edit (change : Tree → Except Declaration.Fault Tree) : Build Unit := do
  let w ← get
  match change w.tree with
  | .ok tree => set { w with tree }
  | .error fault => throw (.declaration fault)

def openPackage (name : String) : Build Scope := do
  modify fun w => { w with tree := w.tree.openPackage name }
  return .ofPackage name

def noteMetadata (package : String) (entries : Entries String String) : Build Unit :=
  modify fun w => { w with tree := w.tree.noteMetadata package entries }

/-- Declares a type and then what belongs inside it. -/
def createType (scope : Scope) (name : String) (doc : Doc) (shape : Shape)
    (body : Scope → Build Unit) : Build Scope := do
  edit fun t => t.declareType scope name doc shape
  body (scope.child name)
  return scope.child name

def createField (scope : Scope) (field : Field) : Build Unit :=
  edit fun t => t.declareField scope field

def createMethod (scope : Scope) (method : Method) : Build Unit :=
  edit fun t => t.declareMethod scope method

def createRaw (scope : Scope) (content : RawContent) : Build Unit :=
  edit fun t => t.declareRaw scope content

def runOn {α : Type} (w : Workspace) (b : Build α) : Except Failure α × Workspace :=
  b.run.run w

end Build

end TopicBindings.Generation
