import TopicBindings.Generation.Extension
import TopicBindings.Source.Module

/-!
Support for JSON documents: every enumeration literal keeps its spelling as wire name, and a class lists
the message class of every topic for each direction.
-/

namespace TopicBindings.Generation.TopicLookup

open Binding (QualifiedName)
open Declaration (RawContent Shape)
open Schema (MessageRef)

def package : String := "json_codec"

def typeName : String := "TopicMessages"

/-- A topic name as a key of a table: quotes and backslashes are escaped. -/
def quoteKey (s : List Char) : List Char :=
  '"' :: s.flatMap (fun c => if c = '\\' then ['\\', '\\'] else if c = '"' then ['\\', '"'] else [c]) ++
    ['"']

def messageName (c : Context) (ref : MessageRef) : Except Failure QualifiedName := do
  let message ← (c.resolver.registry.lookupMessage ref).mapError fun u => .binding (.unknown u)
  return .inPackage (c.resolver.packageName (some Schema.messagesSpace)) (Naming.typeName message.name)

def entry (c : Context) (topic : String) (ref : MessageRef) : Except Failure (String × QualifiedName) := do
  let name ← messageName c ref
  let target ← (Source.reference name).mapError .spelling
  return ("    " ++ String.ofList (quoteKey topic.toList) ++ ": " ++ target ++ ",", name)

def entries (c : Context) (topic : Topic) :
    Except Failure (List (String × QualifiedName) × List (String × QualifiedName)) := do
  let publish ← topic.publish.toList.mapM (entry c topic.name)
  let subscribe ← topic.subscribe.toList.mapM (entry c topic.name)
  return (publish, subscribe)

def table (name : String) (lines : List String) : List String :=
  (name ++ ": typing.ClassVar[dict[str, type]] = \x7b") :: lines ++ ["\x7d"]

def content (rows : List (List (String × QualifiedName) × List (String × QualifiedName))) :
    RawContent where
  lines := table "PUBLISH" (rows.flatMap fun r => r.1.map Prod.fst) ++
    table "SUBSCRIBE" (rows.flatMap fun r => r.2.map Prod.fst)
  references := .external "typing" "ClassVar" :: rows.flatMap fun r => (r.1 ++ r.2).map Prod.snd

def doc : Declaration.Doc :=
  ⟨some "Message classes of each topic, keyed by topic name.",
    some "PUBLISH holds what a client sends, SUBSCRIBE what it receives."⟩

def generate (c : Context) : Build Unit := do
  let rows ← Build.ofExcept id (c.definitions.topics.keys.mapM (entries c))
  let scope ← c.openPackage package
  let _ ← Build.createType scope typeName doc Shape.plain fun inner =>
    Build.createRaw inner (content rows)
  let published := (rows.flatMap fun r => r.1).length
  let subscribed := (rows.flatMap fun r => r.2).length
  Build.note (.remark "asyncapi_codegen.extensions.json"
    ("Declared " ++ c.fullName [package, typeName] ++ " with " ++ toString published ++
      " publish and " ++ toString subscribed ++ " subscribe message(s)"))

def extension : Extension where
  name := "JsonExtension"
  annotate := fun literal => [(Source.wireNameKey, literal.literal)]
  generate := generate

end TopicBindings.Generation.TopicLookup
