import TopicBindings.Schema.Basic

/-!
Plain data, and the plain form of every part of a description. `toPlain` writes all fields, the absent
ones as null; `ofPlain?` fills absent fields with their defaults and ignores unknown ones. Where a type
or a message may stand in several varieties, the field `kind` says which one it is.
-/

namespace TopicBindings

/-- Data made of scalars, lists and records. -/
inductive Plain where
  | null
  | bool (value : Bool)
  | int (value : Int)
  | text (value : String)
  | list (items : List Plain)
  | record (fields : List (String × Plain))
  deriving Inhabited

namespace Plain

def field? (name : String) : Plain → Option Plain
  | .record fields => fields.lookup name
  | _ => none

theorem sizeOf_lookup {name : String} {q : Plain} :
    ∀ {fields : List (String × Plain)}, fields.lookup name = some q → sizeOf q < sizeOf fields := by
  intro fields
  induction fields with
  | nil => intro h; simp at h
  | cons field rest ih =>
      intro h
      obtain ⟨key, value⟩ := field
      simp only [List.lookup_cons] at h
      split at h
      · simp at h
        subst h
        simp
        omega
      · have := ih h
        simp
        omega

theorem sizeOf_field? {name : String} {p q : Plain} (h : p.field? name = some q) :
    sizeOf q < sizeOf p := by
  cases p <;> simp only [field?] at h <;> try contradiction
  have := sizeOf_lookup h
  simp
  omega

def asText? : Plain → Option String
  | .text value => some value
  | _ => none

def asBool? : Plain → Option Bool
  | .bool value => some value
  | _ => none

def asList? : Plain → Option (List Plain)
  | .list items => some items
  | _ => none

def textField? (p : Plain) (name : String) : Option String :=
  (p.field? name).bind asText?

def optionalText? (p : Plain) (name : String) : Option (Option String) :=
  match p.field? name with
  | none | some .null => some none
  | some (.text value) => some (some value)
  | some _ => none

def boolField? (p : Plain) (name : String) (default : Bool) : Option Bool :=
  match p.field? name with
  | none => some default
  | some value => value.asBool?

def listField? (p : Plain) (name : String) : Option (List Plain) :=
  match p.field? name with
  | none => some []
  | some value => value.asList?

def textsField? (p : Plain) (name : String) : Option (List String) := do
  (← p.listField? name).mapM asText?

theorem sizeOf_listField? {name : String} {p : Plain} {items : List Plain} {q : Plain}
    (h : p.listField? name = some items) (hq : q ∈ items) : sizeOf q < sizeOf p := by
  unfold listField? at h
  split at h
  · simp at h
    subst h
    simp at hq
  next value hv =>
    cases value <;> simp only [asList?] at h <;> try contradiction
    simp at h
    subst h
    have := sizeOf_field? hv
    have := List.sizeOf_lt_of_mem hq
    simp at *
    omega

def ofOption : Option String → Plain
  | none => .null
  | some value => .text value

def ofTexts (values : List String) : Plain :=
  .list (values.map .text)

end Plain

namespace Schema

open Plain (ofOption ofTexts)

namespace SchemaType

mutual

def toPlain : SchemaType → Plain
  | .primitive name kind doc => .record [("kind", .text "primitive"), ("name", .text name),
      ("primitive", .text kind.name), ("title", ofOption doc.title),
      ("description", ofOption doc.description)]
  | .object place properties doc => .record [("kind", .text "object"), ("namespace", .text place.space),
      ("parents", ofTexts place.parents), ("name", .text place.name),
      ("properties", .list (propertiesToPlain properties)), ("title", ofOption doc.title),
      ("description", ofOption doc.description)]
  | .enumeration place literals doc => .record [("kind", .text "enum"),
      ("namespace", .text place.space), ("parents", ofTexts place.parents), ("name", .text place.name),
      ("literals", ofTexts literals), ("title", ofOption doc.title),
      ("description", ofOption doc.description)]
  | .array name item unique doc => .record [("kind", .text "array"), ("name", .text name),
      ("item_type", toPlain item), ("unique", .bool unique), ("title", ofOption doc.title),
      ("description", ofOption doc.description)]
  | .reference key => .record [("kind", .text "reference"), ("namespace", .text key.space),
      ("name", .text key.name)]

def propertiesToPlain : List (Property SchemaType) → List Plain
  | [] => []
  | ⟨name, type, required, description⟩ :: rest =>
      .record [("name", .text name), ("type", toPlain type), ("required", .bool required),
        ("description", ofOption description)] :: propertiesToPlain rest

end

def documentationOf? (p : Plain) : Option Documentation := do
  return { title := ← p.optionalText? "title", description := ← p.optionalText? "description" }

def placeOf? (p : Plain) : Option Place := do
  return {
    space := ← p.textField? "namespace"
    parents := ← p.textsField? "parents"
    name := ← p.textField? "name" }

/-- The type in a plain form, of the variety that its field `kind` names. -/
def ofPlain? (p : Plain) : Option SchemaType := do
  match ← p.textField? "kind" with
  | "primitive" =>
      return .primitive (← p.textField? "name") (← (← p.textField? "primitive") |> Primitive.ofName?)
        (← documentationOf? p)
  | "object" =>
      let place ← placeOf? p
      match _h : p.listField? "properties" with
      | none => none
      | some items =>
          let properties ← items.attach.mapM fun ⟨q, _hq⟩ => do
            let name ← q.textField? "name"
            match _ht : q.field? "type" with
            | none => none
            | some t =>
                return {
                  name
                  type := ← ofPlain? t
                  required := ← q.boolField? "required" false
                  description := ← q.optionalText? "description" : Property SchemaType }
          return .object place properties (← documentationOf? p)
  | "enum" =>
      return enumerationOf (← placeOf? p) (← p.textsField? "literals") (← documentationOf? p)
  | "array" =>
      let name ← p.textField? "name"
      match _h : p.field? "item_type" with
      | none => none
      | some t =>
          return .array name (← ofPlain? t) (← p.boolField? "unique" false) (← documentationOf? p)
  | "reference" =>
      return .reference ⟨← p.textField? "namespace", ← p.textField? "name"⟩
  | _ => none
termination_by sizeOf p
decreasing_by
  · exact Nat.lt_trans (Plain.sizeOf_field? _ht) (Plain.sizeOf_listField? _h _hq)
  · exact Plain.sizeOf_field? _h

end SchemaType

def DeclaredType.ofPlain? (p : Plain) : Option DeclaredType :=
  match SchemaType.ofPlain? p with
  | some type => if h : type.isDeclared = true then some ⟨type, h⟩ else none
  | none => none

namespace Message

def toPlain (m : Message) : Plain :=
  .record [("kind", .text "message"), ("name", .text m.name), ("payload", m.payload.toPlain),
    ("summary", ofOption m.summary), ("description", ofOption m.description),
    ("deprecated", .bool m.deprecated)]

/-- The message in a plain form; the field `kind` may be missing. -/
def ofPlain? (p : Plain) : Option Message := do
  match p.field? "kind" with
  | none | some (.text "message") =>
      return {
        name := ← p.textField? "name"
        payload := ← SchemaType.ofPlain? (← p.field? "payload")
        summary := ← p.optionalText? "summary"
        description := ← p.optionalText? "description"
        deprecated := ← p.boolField? "deprecated" false }
  | some _ => none

end Message

namespace MessageRef

def toPlain : MessageRef → Plain
  | .inline message => message.toPlain
  | .named name => .record [("kind", .text "message_reference"), ("name", .text name)]

def ofPlain? (p : Plain) : Option MessageRef := do
  match ← p.textField? "kind" with
  | "message" => return .inline (← Message.ofPlain? p)
  | "message_reference" => return .named (← p.textField? "name")
  | _ => none

end MessageRef

def optionalMessage? (p : Plain) (name : String) : Option (Option MessageRef) :=
  match p.field? name with
  | none | some .null => some none
  | some value => (MessageRef.ofPlain? value).map some

def optionalMessageToPlain : Option MessageRef → Plain
  | none => .null
  | some ref => ref.toPlain

end Schema

namespace Topic

open Schema (optionalMessage? optionalMessageToPlain)

def toPlain (t : Topic) : Plain :=
  .record [("name", .text t.name), ("publish", optionalMessageToPlain t.publish),
    ("subscribe", optionalMessageToPlain t.subscribe)]

def ofPlain? (p : Plain) : Option Topic := do
  return {
    name := ← p.textField? "name"
    publish := ← optionalMessage? p "publish"
    subscribe := ← optionalMessage? p "subscribe" }

end Topic

namespace Schema

open Plain (ofOption ofTexts)

namespace About

def toPlain (a : About) : Plain :=
  .record [("title", ofOption a.title), ("version", .text a.version),
    ("description", ofOption a.description)]

def ofPlain? (p : Plain) : Option About := do
  return {
    title := ← p.optionalText? "title"
    version := ← p.textField? "version"
    description := ← p.optionalText? "description" }

end About

def toPlain (s : Schema) : Plain :=
  .record [("base_topic", ofOption s.baseTopic), ("host", .text s.host), ("schemes", ofTexts s.schemes),
    ("information", s.about.toPlain), ("topics", .list (s.topics.map Topic.toPlain)),
    ("messages", .list (s.messages.map Message.toPlain)),
    ("types", .list (s.types.map fun t => t.val.toPlain))]

def ofPlain? (p : Plain) : Option Schema := do
  return {
    baseTopic := ← p.optionalText? "base_topic"
    host := ← p.textField? "host"
    schemes := ← p.textsField? "schemes"
    about := ← About.ofPlain? (← p.field? "information")
    topics := ← (← p.listField? "topics").mapM Topic.ofPlain?
    messages := ← (← p.listField? "messages").mapM Message.ofPlain?
    types := ← (← p.listField? "types").mapM DeclaredType.ofPlain? }

end Schema

end TopicBindings
