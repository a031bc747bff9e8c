import TopicBindings.Markup.Value
import TopicBindings.Schema.Basic
import TopicBindings.Schema.Fault

/-!
Descriptions of interfaces in documents. Every fault is one entry of the document that does not have the
form it should have; entries are read in a fixed order, and the first fault counts. A type without a name of
its own is named for where it stands: a property for its name, an array item for its array, a payload for its
message. A type that is described by itself has no end, so types are read to the depth that the size of the
document allows.
-/

namespace TopicBindings.Schema.Document

open Markup (Data Scalar Value)

abbrev Read := Except Unreadable

def fail {α : Type} (location : String) (cause : Cause) : Read α :=
  .error (.entry ⟨location, cause⟩)

def below (location key : String) : String :=
  if location.isEmpty then key else location ++ "." ++ key

/-- The entries of a mapping in the order of the document. -/
abbrev Mapping := Entries Scalar Markup.NodeId

def asMapping (location : String) : Value → Read Mapping
  | .mapping entries => .ok entries
  | _ => fail location .noMapping

def asText? : Value → Option String
  | .scalar (.text s) => some s
  | _ => none

variable (d : Data)

def field? (m : Mapping) (key : String) : Option Value :=
  (m.find? fun (k, _) => k == .text key).map fun (_, id) => d.value id

def mapping (m : Mapping) (key location : String) : Read Mapping :=
  match field? d m key with
  | none => fail location (.missing key)
  | some v => asMapping (below location key) v

/-- A field that may be absent or null and otherwise has to be a mapping. -/
def optionalMapping (m : Mapping) (key location : String) : Read (Option Mapping) :=
  match field? d m key with
  | none | some (.scalar .null) => .ok none
  | some _ => (mapping d m key location).map some

def text (m : Mapping) (key location : String) : Read String :=
  match field? d m key with
  | none => fail location (.missing key)
  | some v => match asText? v with
    | some s => .ok s
    | none => fail location (.noText key)

def optionalText (m : Mapping) (key location : String) : Read (Option String) :=
  match field? d m key with
  | none | some (.scalar .null) => .ok none
  | some _ => (text d m key location).map some

def asTexts? : Value → Option (List String)
  | .list items => items.mapM fun id => asText? (d.value id)
  | .pairs [] => some []
  | _ => none

/-- A list of texts that may be absent or null; repetitions count once. -/
def optionalTexts (m : Mapping) (key location : String) : Read (List String) :=
  match field? d m key with
  | none | some (.scalar .null) => .ok []
  | some v => match asTexts? d v with
    | some texts => .ok texts.eraseDups
    | none => fail location (.noTexts key)

/-- A truth value that is false if it is absent. -/
def boolean (m : Mapping) (key location : String) : Read Bool :=
  match field? d m key with
  | none => .ok false
  | some (.scalar (.bool b)) => .ok b
  | some _ => fail location (.noBoolean key)

def referenceNames (reference location : String) : Read { names : List String // names ≠ [] } :=
  match (Text.splitAt '/' reference).filter (· ≠ "") with
  | [] => fail location .emptyReference
  | name :: more => .ok ⟨name :: more, by simp⟩

def namespaceOf (part : String) : String :=
  if part = "schemas" then typesSpace else part

/-- The key of the type that a reference names: its last two parts. -/
def typeKey (reference location : String) : Read TypeKey := do
  match (← referenceNames reference location).val.reverse with
  | name :: space :: _ => return ⟨namespaceOf space, name⟩
  | _ => fail location (.noNamespace reference)

def Place.location (place : Place) : String :=
  Text.join "." (place.space :: place.parents ++ [place.name])

def stringKind (m : Mapping) (location : String) : Read Primitive := do
  match ← optionalText d m "format" location with
  | none => return .string
  | some "date-time" => return .datetime
  | some format => fail location (.unknownFormat format)

def documentation (m : Mapping) (location : String) : Read Documentation := do
  return ⟨← optionalText d m "title" location, ← optionalText d m "description" location⟩

/-- A string type: an enumeration if it lists its literals. -/
def stringType (place : Place) (m : Mapping) (doc : Documentation) : Read DeclaredType := do
  let location := Place.location place
  match field? d m "enum" with
  | some v => match asTexts? d v with
    | some literals => return ⟨.enumerationOf place literals doc, rfl⟩
    | none => fail location (.noTexts "enum")
  | none => return ⟨.primitive place.name (← stringKind d m location) doc, rfl⟩

def typeBy (described : Place → Mapping → Read DeclaredType) (place : Place) (m : Mapping) :
    Read SchemaType := do
  let location := Place.location place
  match ← optionalText d m "$ref" location with
  | some reference => return .reference (← typeKey reference location)
  | none => return (← described place m).val

def propertyBy (described : Place → Mapping → Read DeclaredType) (owner : Place) (required : List String)
    (key : Scalar) (v : Value) : Read (Property SchemaType) := do
  let name := key.toText
  let place : Place := ⟨owner.space, owner.parents ++ [owner.name], name⟩
  let location := Place.location place
  let entries ← asMapping location v
  let description ← optionalText d entries "description" location
  return ⟨name, ← typeBy d described place entries, required.contains name, description⟩

/-- The type that an entry describes, with at most so many types inside of each other. -/
def typeWithin : Nat → Place → Mapping → Read DeclaredType
  | 0, _, _ => .error (.markup (.unreadable .endlessType))
  | depth + 1, place, m => do
      let location := Place.location place
      let name ← text d m "type" location
      let doc ← documentation d m location
      match name with
      | "boolean" => return ⟨.primitive place.name .boolean doc, rfl⟩
      | "integer" => return ⟨.primitive place.name .integer doc, rfl⟩
      | "number" => return ⟨.primitive place.name .number doc, rfl⟩
      | "string" => stringType d place m doc
      | "array" =>
          let unique ← boolean d m "uniqueItems" location
          let items ← mapping d m "items" location
          let item ← typeBy d (typeWithin depth) { place with name := place.name ++ "Item" } items
          return ⟨.array place.name item unique doc, rfl⟩
      | "object" =>
          let required ← optionalTexts d m "required" location
          let entries := (← optionalMapping d m "properties" location).getD []
          let properties ← entries.mapM fun (key, id) =>
            propertyBy d (typeWithin depth) place required key (d.value id)
          return ⟨.object place properties doc, rfl⟩
      | _ => fail location (.unsupportedType name)

/-- The type that an entry describes. A type with more types inside of each other than there are values
describes itself. -/
def declaredType (place : Place) (m : Mapping) : Read DeclaredType :=
  typeWithin d (d.values.size + 1) place m

def typeOf (place : Place) (m : Mapping) : Read SchemaType :=
  typeBy d (declaredType d) place m

def message (name : String) (m : Mapping) : Read Message := do
  let location := "message '" ++ name ++ "'"
  let deprecated ← boolean d m "deprecated" location
  let summary ← optionalText d m "summary" location
  let description ← optionalText d m "description" location
  let payload ← mapping d m "payload" location
  return ⟨name, ← typeOf d ⟨messagesSpace, [name], "payload"⟩ payload, summary, description, deprecated⟩

/-- One direction of a topic: a message, or the last name of a reference to one. -/
def messageRef (name : String) (m : Mapping) (location : String) : Read MessageRef := do
  match ← optionalText d m "$ref" location with
  | some reference =>
      let names ← referenceNames reference location
      return .named (names.val.getLast names.property)
  | none => return .inline (← message d name m)

def topic (key : Scalar) (v : Value) : Read Topic := do
  let name := key.toText
  let location := "topics." ++ name
  let entries ← asMapping location v
  let publish ← optionalMapping d entries "publish" location
  let subscribe ← optionalMapping d entries "subscribe" location
  return {
    name
    publish := ← publish.mapM fun m => messageRef d ("Publish." ++ name) m location
    subscribe := ← subscribe.mapM fun m => messageRef d ("Subscribe." ++ name) m location }

/-- What a document says about the interface. A version that was read as a number counts as its text. -/
def about (m : Mapping) : Read About := do
  let title ← optionalText d m "title" "info"
  let version ← match field? d m "version" with
    | some (.scalar (.int n)) => pure (Scalar.int n).toText
    | some (.scalar (.float x)) => pure (Scalar.float x).toText
    | some (.scalar (.undefined origin)) => pure (Scalar.undefined origin).toText
    | _ => text d m "version" "info"
  return ⟨title, version, ← optionalText d m "description" "info"⟩

def group (components : Mapping) (key : String) : Read Mapping := do
  return (← optionalMapping d components key "components").getD []

def schema (m : Mapping) : Read Schema := do
  let version ← text d m "asyncapi" ""
  if version ≠ supportedVersion then fail "" (.unsupportedVersion version)
  let components := (← optionalMapping d m "components" "").getD []
  let messages ← group d components "messages"
  let types ← group d components "schemas"
  return {
    baseTopic := ← optionalText d m "baseTopic" ""
    host := ← text d m "host" ""
    schemes := ← optionalTexts d m "schemes" ""
    about := ← about d (← mapping d m "info" "")
    topics := ← (← mapping d m "topics" "").mapM fun (key, id) => topic d key (d.value id)
    messages := ← messages.mapM fun (key, id) => do
      let name := key.toText
      message d name (← asMapping ("components.messages." ++ name) (d.value id))
    types := ← types.mapM fun (key, id) => do
      let name := key.toText
      declaredType d ⟨typesSpace, [], name⟩ (← asMapping ("components.schemas." ++ name) (d.value id)) }

end TopicBindings.Schema.Document

namespace TopicBindings.Schema

def ofText (s : String) : Except Unreadable Schema := do
  match ← (Markup.Data.ofText? s).mapError .markup with
  | none => Document.fail "document" .noMapping
  | some d => Document.schema d (← Document.asMapping "document" (d.value d.root))

end TopicBindings.Schema
