import TopicBindings.Generation.Connector
import TopicBindings.Generation.Extension
import TopicBindings.Source.Files

/-!
A whole run from a description to a tree of declarations. After the checks it notes the title and version
of the base package and declares the messages, the component types, the interfaces of client and server,
and what the extensions add, in this order.
-/

namespace TopicBindings.Generation

open Binding (QualifiedName Resolver TypeExpression TypeTable)
open Declaration (Doc EnumLiteral Field Scope Shape Tree)
open Schema (Message MessageRef Property SchemaType)
open Service (Definitions)

/-- What stays fixed while the types and messages of a run are declared. -/
structure Plan where
  resolver : Resolver
  keepLiterals : Bool
  extensions : List Extension

namespace Plan

def createEnum (p : Plan) (scope : Scope) (place : Schema.Place) (literals : List String)
    (doc : Doc) : Build Unit := do
  let name := Naming.typeName place.name
  let entries ← Build.ofExcept .declaration
    (Declaration.literalsOf (scope.nameOf name) p.keepLiterals [] literals)
  (entries.flatMap (Extension.offers p.extensions)).forM Build.note
  Build.edit fun t => t.declareEnum scope name doc
    (entries.map (Extension.annotateAll p.extensions))

/-- The field of a property. A property without description is described as its type is. -/
def field (p : Plan) (property : Property SchemaType) : Except Failure Field := do
  let resolved ← (p.resolver.registry.resolveType property.type).mapError fun u =>
    .binding (.unknown u)
  let type ← (p.resolver.propertyType property.type).mapError .binding
  let about := resolved.documentation
  return {
    name := Naming.lowerUnderscore property.name
    type
    doc := match property.description with
      | some text => ⟨some text, none⟩
      | none => ⟨about.title, about.description⟩
    required := property.required }

def createField (p : Plan) (scope : Scope) (property : Property SchemaType) : Build Unit := do
  Build.createField scope (← Build.ofExcept id (p.field property))

mutual

/-- Declares the objects and enumerations that a type introduces where it stands. -/
def createInline (p : Plan) (scope : Scope) : SchemaType → Build Unit
  | .object place properties doc => do
      let _ ← Build.createType scope (Naming.typeName place.name) ⟨doc.title, doc.description⟩
        Shape.dataClass fun inner => p.createMembers inner properties
  | .enumeration place literals doc =>
      p.createEnum scope place literals ⟨doc.title, doc.description⟩
  | .array _ item _ _ => p.createInline scope item
  | .primitive .. | .reference .. => pure ()

def createMembers (p : Plan) (scope : Scope) : List (Property SchemaType) → Build Unit
  | [] => pure ()
  | ⟨name, type, required, description⟩ :: rest => do
      p.createInline scope type
      p.createField scope ⟨name, type, required, description⟩
      p.createMembers scope rest

end

def payloadField (type : TypeExpression) : Field where
  name := "payload"
  type := type
  doc := ⟨some "Message payload", none⟩
  required := true

/-- Declares the payload of a message, and its type first if it is spelled out there. -/
def createPayload (p : Plan) (scope : Scope) (message : Message) : Build Unit := do
  match message.payload with
  | .object place .. | .enumeration place .. =>
      p.createInline scope message.payload
      Build.createField scope (payloadField (.plain (scope.nameOf (Naming.typeName place.name))))
  | .array .. => throw (.arrayPayload message.name)
  | payload =>
      Build.createField scope (payloadField (← Build.ofExcept .binding (p.resolver.propertyType payload)))

/-- The summary of the class of a message, which says if the message is deprecated. -/
def messageSummary (message : Message) : Option String :=
  if message.deprecated then
    match message.summary with
    | some text => if text.isEmpty then some "Deprecated." else some ("Deprecated. " ++ text)
    | none => some "Deprecated."
  else message.summary

def createMessage (p : Plan) (package : Scope) (message : Message) : Build Unit := do
  let _ ← Build.createType package (Naming.typeName message.name)
    ⟨messageSummary message, message.description⟩ Shape.dataClass
    fun scope => p.createPayload scope message

def createComponent (p : Plan) (package : Scope) (type : SchemaType) : Build Unit :=
  match type with
  | .primitive name _ _ => Build.note (.primitiveComponent name)
  | type => p.createInline package type

end Plan

def inlineMessages (topic : Topic) : List Message :=
  [topic.publish, topic.subscribe].filterMap fun
    | some (.inline message) => some message
    | _ => none

/-- Adds a message unless there is one of its name. -/
def addMessage (known : Entries String Message) (message : Message) : Entries String Message :=
  if (known.lookup message.name).isSome then known else known ++ [(message.name, message)]

/-- Component messages and then the messages of topics, the first one of each name. -/
def allMessages (s : Schema) : Entries String Message :=
  (s.topics.flatMap inlineMessages).foldl addMessage (s.messages.map fun m => (m.name, m))

def rootMetadata (about : Schema.About) : Entries String String :=
  [("version", about.version)] ++ (about.title.map fun t => ("title", t)).toList ++
    (about.description.map fun d => ("description", d)).toList

def aggregationNotices (d : Definitions) : List Notice :=
  d.diagnostics.map .outsideGrammar ++ [.aggregated d.topics.length d.versions.length]

/-- Declares everything that a description calls for by itself. -/
def declareSchema (s : Schema) (p : Plan) (d : Definitions) : Build Unit := do
  let root ← Build.openPackage (p.resolver.packageName none)
  Build.noteMetadata root.package (rootMetadata s.about)
  let messages ← Build.openPackage (p.resolver.packageName (some Schema.messagesSpace))
  (allMessages s).forM fun (_, message) => p.createMessage messages message
  let types ← Build.openPackage (p.resolver.packageName (some Schema.typesSpace))
  s.types.forM fun type => p.createComponent types type.val
  Service.Role.all.forM (Connector.mk p.resolver d).assemble

def runExtensions (p : Plan) (d : Definitions) : Build Unit :=
  p.extensions.forM fun extension => do
    Build.note (.extensionStarted extension.name)
    extension.generate ⟨p.resolver, d⟩

def Options.plan (o : Options) (s : Schema) (registry : Registry) (extensions : List Extension)
    (table : TypeTable) : Plan :=
  ⟨⟨registry, o.effectiveBase s.baseTopic, table⟩, o.keepLiterals, extensions⟩

/-- Checks the settings and the description, then declares everything. -/
def build (s : Schema) (o : Options) (extensions : List Extension) (table : TypeTable) :
    Build Definitions := do
  Build.ofExcept .options (o.check s.baseTopic)
  let registry ← Build.ofExcept .duplicateDefinition (Registry.ofSchema s)
  let definitions ← Build.ofExcept .grammar (Service.aggregate s.topics o.validateTopics)
  (aggregationNotices definitions).forM Build.note
  let p := o.plan s registry extensions table
  declareSchema s p definitions
  runExtensions p definitions
  return definitions

structure Result where
  tree : Tree
  definitions : Definitions

structure Report where
  outcome : Except Failure Result
  journal : List Notice

def run (s : Schema) (o : Options) (extensions : List Extension) : Report :=
  let finished := (build s o extensions .standard).runOn .empty
  ⟨finished.1.map fun definitions => ⟨finished.2.tree, definitions⟩, finished.2.journal⟩

def Result.files (r : Result) : Except Failure (Entries Source.RelativePath String) :=
  (Source.render r.tree).mapError .spelling

end TopicBindings.Generation
