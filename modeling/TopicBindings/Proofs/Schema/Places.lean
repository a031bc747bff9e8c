import TopicBindings.Proofs.Outcome
import TopicBindings.Schema.Document

/-!
Objects and enumerations that are read from a document stand where they say they stand: in the namespace of
the component or message that they belong to, inside the objects around them.
-/

namespace TopicBindings.Schema

namespace SchemaType

mutual

/-- The objects and enumerations that a type spells out, from the outside in. -/
def structured : SchemaType → List SchemaType
  | .object place properties doc => .object place properties doc :: structuredAll properties
  | .enumeration place literals doc => [.enumeration place literals doc]
  | .array _ item _ _ => structured item
  | .primitive .. | .reference _ => []

def structuredAll : List (Property SchemaType) → List SchemaType
  | [] => []
  | ⟨_, type, _, _⟩ :: rest => structured type ++ structuredAll rest

end

mutual

/-- What is spelled out in a type has the places of types in a namespace inside of some parents. -/
def Stands (space : String) (parents : List String) : SchemaType → Prop
  | .object place properties _ => place.space = space ∧ place.parents = parents ∧
      StandsAll space (parents ++ [place.name]) properties
  | .enumeration place _ _ => place.space = space ∧ place.parents = parents
  | .array _ item _ _ => Stands space parents item
  | .primitive .. | .reference _ => True

def StandsAll (space : String) (parents : List String) : List (Property SchemaType) → Prop
  | [] => True
  | ⟨_, type, _, _⟩ :: rest => Stands space parents type ∧ StandsAll space parents rest

end

theorem standsAll_iff {space : String} {parents : List String} {properties : List (Property SchemaType)} :
    StandsAll space parents properties ↔ ∀ p ∈ properties, Stands space parents p.type := by
  induction properties with
  | nil => simp [StandsAll]
  | cons p rest ih => simp [StandsAll, ih]

end SchemaType

open SchemaType (Stands StandsAll standsAll_iff)

namespace Document

variable {d : Markup.Data}

theorem typeBy_ok {described : Place → Mapping → Read DeclaredType} {place : Place} {m : Mapping} {t : SchemaType}
    (h : typeBy d described place m = .ok t) :
    (∃ key, t = .reference key) ∨ ∃ spelled, described place m = .ok spelled ∧ t = spelled.val := by
  obtain ⟨reference?, -, h⟩ := Outcome.bind_ok.1 h
  cases reference? with
  | some reference =>
      obtain ⟨key, -, h⟩ := Outcome.bind_ok.1 h
      exact .inl ⟨key, (Outcome.pure_ok.1 h).symm⟩
  | none =>
      obtain ⟨spelled, hspelled, h⟩ := Outcome.bind_ok.1 h
      exact .inr ⟨spelled, hspelled, (Outcome.pure_ok.1 h).symm⟩

theorem stands_typeBy {described : Place → Mapping → Read DeclaredType} {place : Place} {m : Mapping}
    (hdescribed : ∀ t, described place m = .ok t → Stands place.space place.parents t.val)
    {t : SchemaType} (h : typeBy d described place m = .ok t) : Stands place.space place.parents t := by
  rcases typeBy_ok h with ⟨key, rfl⟩ | ⟨spelled, hspelled, rfl⟩
  · simp only [Stands]
  · exact hdescribed _ hspelled

/-- The forms of a type that is read at a place. Items and properties are read with one level of depth less. -/
inductive Described (d : Markup.Data) (depth : Nat) (place : Place) : SchemaType → Prop where
  | primitive (kind : Primitive) (doc : Documentation) : Described d depth place (.primitive place.name kind doc)
  | enumeration (literals : List String) (doc : Documentation) :
      Described d depth place (.enumerationOf place literals doc)
  | array {item : SchemaType} {entries : Mapping} (unique : Bool) (doc : Documentation)
      (hitem : typeBy d (typeWithin d depth) { place with name := place.name ++ "Item" } entries = .ok item) :
      Described d depth place (.array place.name item unique doc)
  | object {properties : List (Property SchemaType)} (required : List String) (doc : Documentation)
      (hproperties : ∀ p ∈ properties, ∃ key v, propertyBy d (typeWithin d depth) place required key v = .ok p) :
      Described d depth place (.object place properties doc)

theorem described_of_stringType {depth : Nat} {place : Place} {m : Mapping} {doc : Documentation} {t : DeclaredType}
    (h : stringType d place m doc = .ok t) : Described d depth place t.val := by
  simp only [stringType] at h
  split at h
  · split at h
    · obtain rfl := Outcome.pure_ok.1 h
      exact .enumeration _ doc
    · cases h
  · obtain ⟨kind, -, h⟩ := Outcome.bind_ok.1 h
    obtain rfl := Outcome.pure_ok.1 h
    exact .primitive kind doc

theorem described_of_typeWithin {depth : Nat} {place : Place} {m : Mapping} {t : DeclaredType}
    (h : typeWithin d (depth + 1) place m = .ok t) : Described d depth place t.val := by
  simp only [typeWithin] at h
  obtain ⟨name, -, h⟩ := Outcome.bind_ok.1 h
  obtain ⟨doc, -, h⟩ := Outcome.bind_ok.1 h
  split at h
  · obtain rfl := Outcome.pure_ok.1 h
    exact .primitive .boolean doc
  · obtain rfl := Outcome.pure_ok.1 h
    exact .primitive .integer doc
  · obtain rfl := Outcome.pure_ok.1 h
    exact .primitive .number doc
  · exact described_of_stringType h
  · obtain ⟨unique, -, h⟩ := Outcome.bind_ok.1 h
    obtain ⟨items, -, h⟩ := Outcome.bind_ok.1 h
    obtain ⟨item, hitem, h⟩ := Outcome.bind_ok.1 h
    obtain rfl := Outcome.pure_ok.1 h
    exact .array unique doc hitem
  · obtain ⟨required, -, h⟩ := Outcome.bind_ok.1 h
    obtain ⟨entries, -, h⟩ := Outcome.bind_ok.1 h
    obtain ⟨properties, hproperties, h⟩ := Outcome.bind_ok.1 h
    obtain rfl := Outcome.pure_ok.1 h
    refine .object required doc fun p hp => ?_
    obtain ⟨entry, -, hentry⟩ := Outcome.exists_of_forall₂ (Outcome.mapM_ok.1 hproperties) hp
    exact ⟨_, _, hentry⟩
  · cases h

theorem stands_propertyBy {described : Place → Mapping → Read DeclaredType}
    (hdescribed : ∀ place m t, described place m = .ok t → Stands place.space place.parents t.val)
    {owner : Place} {required : List String} {key : Markup.Scalar} {v : Markup.Value}
    {p : Property SchemaType} (h : propertyBy d described owner required key v = .ok p) :
    Stands owner.space (owner.parents ++ [owner.name]) p.type := by
  obtain ⟨entries, -, h⟩ := Outcome.bind_ok.1 h
  obtain ⟨description, -, h⟩ := Outcome.bind_ok.1 h
  obtain ⟨type, htype, h⟩ := Outcome.bind_ok.1 h
  obtain rfl := Outcome.pure_ok.1 h
  exact stands_typeBy (fun t ht => hdescribed _ _ t ht) htype

theorem Described.stands {depth : Nat} {place : Place} {type : SchemaType} (h : Described d depth place type)
    (hinner : ∀ place m t, typeWithin d depth place m = .ok t → Stands place.space place.parents t.val) :
    Stands place.space place.parents type := by
  cases h with
  | primitive kind doc => simp only [Stands]
  | enumeration literals doc => exact ⟨rfl, rfl⟩
  | array unique doc hitem =>
      have hstands := stands_typeBy (fun t ht => hinner _ _ t ht) hitem
      exact hstands
  | object required doc hproperties =>
      refine ⟨rfl, rfl, standsAll_iff.2 fun p hp => ?_⟩
      obtain ⟨key, v, hread⟩ := hproperties p hp
      exact stands_propertyBy hinner hread

theorem stands_typeWithin : ∀ (depth : Nat) (place : Place) (m : Mapping) (t : DeclaredType),
    typeWithin d depth place m = .ok t → Stands place.space place.parents t.val := by
  -- The induction is on how many types may stand inside of each other; items and properties have one less.
  intro depth
  induction depth with
  | zero => intro place m t h; cases h
  | succ depth ih => exact fun place m t h => (described_of_typeWithin h).stands ih

theorem message_ok {name : String} {m : Mapping} {read : Message} (h : message d name m = .ok read) :
    read.name = name ∧ ∃ entries, typeOf d ⟨messagesSpace, [name], "payload"⟩ entries = .ok read.payload := by
  obtain ⟨deprecated, -, h⟩ := Outcome.bind_ok.1 h
  obtain ⟨summary, -, h⟩ := Outcome.bind_ok.1 h
  obtain ⟨description, -, h⟩ := Outcome.bind_ok.1 h
  obtain ⟨entries, -, h⟩ := Outcome.bind_ok.1 h
  obtain ⟨payload, hpayload, h⟩ := Outcome.bind_ok.1 h
  obtain rfl := Outcome.pure_ok.1 h
  exact ⟨rfl, entries, hpayload⟩

theorem message_of_messageRef {name location : String} {m : Mapping} {read : Message}
    (h : messageRef d name m location = .ok (.inline read)) : message d name m = .ok read := by
  obtain ⟨reference?, -, h⟩ := Outcome.bind_ok.1 h
  cases reference? with
  | some reference =>
      obtain ⟨names, -, h⟩ := Outcome.bind_ok.1 h
      cases Outcome.pure_ok.1 h
  | none =>
      obtain ⟨inner, hinner, h⟩ := Outcome.bind_ok.1 h
      obtain rfl : inner = read := by simpa using Outcome.pure_ok.1 h
      exact hinner

/-- The messages that a topic spells out are read under its own name behind that of the direction. -/
theorem messages_of_topic {key : Markup.Scalar} {v : Markup.Value} {t : Topic} (h : topic d key v = .ok t) :
    (∀ m, t.publish = some (.inline m) → ∃ entries, message d ("Publish." ++ t.name) entries = .ok m) ∧
      ∀ m, t.subscribe = some (.inline m) → ∃ entries, message d ("Subscribe." ++ t.name) entries = .ok m := by
  obtain ⟨entries, -, h⟩ := Outcome.bind_ok.1 h
  obtain ⟨publish, -, h⟩ := Outcome.bind_ok.1 h
  obtain ⟨subscribe, -, h⟩ := Outcome.bind_ok.1 h
  obtain ⟨published, hpublished, h⟩ := Outcome.bind_ok.1 h
  obtain ⟨subscribed, hsubscribed, h⟩ := Outcome.bind_ok.1 h
  obtain rfl := Outcome.pure_ok.1 h
  have hside : ∀ {side : Option Mapping} {name location : String} {m : Message},
      side.mapM (fun entries => messageRef d name entries location) = .ok (some (.inline m)) →
        ∃ entries, message d name entries = .ok m := by
    intro side name location m hside
    cases side with
    | none => cases Outcome.pure_ok.1 hside
    | some entries =>
        obtain ⟨ref, href, hside⟩ := Outcome.map_ok.1 hside
        obtain rfl := Option.some.inj hside
        exact ⟨entries, message_of_messageRef href⟩
  exact ⟨fun m hm => hside (hpublished.trans (congrArg Except.ok hm)),
    fun m hm => hside (hsubscribed.trans (congrArg Except.ok hm))⟩

theorem stands_message {name : String} {m : Mapping} {read : Message} (h : message d name m = .ok read) :
    Stands messagesSpace [read.name] read.payload := by
  obtain ⟨rfl, entries, hpayload⟩ := message_ok h
  exact stands_typeBy (fun t ht => stands_typeWithin _ _ _ t ht) hpayload

end Document

/-- Every type of a description stands where it is spelled out. -/
structure Placed (s : Schema) : Prop where
  types : ∀ t ∈ s.types, Stands typesSpace [] t.val
  messages : ∀ m ∈ s.messages, Stands messagesSpace [m.name] m.payload
  topics : ∀ t ∈ s.topics, ∀ m, some (.inline m) ∈ [t.publish, t.subscribe] →
    Stands messagesSpace [m.name] m.payload

namespace Document

variable {d : Markup.Data}

theorem stands_topic {key : Markup.Scalar} {v : Markup.Value} {t : Topic} (h : topic d key v = .ok t)
    {m : Message} (hm : some (.inline m) ∈ [t.publish, t.subscribe]) :
    Stands messagesSpace [m.name] m.payload := by
  obtain ⟨hpublish, hsubscribe⟩ := messages_of_topic h
  rcases List.mem_cons.1 hm with hm | hm
  · obtain ⟨entries, hread⟩ := hpublish m hm.symm
    exact stands_message hread
  · obtain ⟨entries, hread⟩ := hsubscribe m (List.mem_singleton.1 hm).symm
    exact stands_message hread

/-- What a description holds was read from the entries of a document. -/
theorem parts_of_schema {m : Mapping} {s : Schema} (h : schema d m = .ok s) :
    (∀ t ∈ s.topics, ∃ key value, topic d key value = .ok t) ∧
    (∀ message' ∈ s.messages, ∃ name inner, message d name inner = .ok message') ∧
    (∀ t ∈ s.types, ∃ name inner, declaredType d ⟨typesSpace, [], name⟩ inner = .ok t) := by
  obtain ⟨version, -, h⟩ := Outcome.bind_ok.1 h
  split at h
  · cases h
  obtain ⟨components, -, h⟩ := Outcome.bind_ok.1 h
  obtain ⟨messageEntries, -, h⟩ := Outcome.bind_ok.1 h
  obtain ⟨typeEntries, -, h⟩ := Outcome.bind_ok.1 h
  obtain ⟨baseTopic, -, h⟩ := Outcome.bind_ok.1 h
  obtain ⟨host, -, h⟩ := Outcome.bind_ok.1 h
  obtain ⟨schemes, -, h⟩ := Outcome.bind_ok.1 h
  obtain ⟨info, -, h⟩ := Outcome.bind_ok.1 h
  obtain ⟨about, -, h⟩ := Outcome.bind_ok.1 h
  obtain ⟨topicEntries, -, h⟩ := Outcome.bind_ok.1 h
  obtain ⟨topics, htopics, h⟩ := Outcome.bind_ok.1 h
  obtain ⟨messages, hmessages, h⟩ := Outcome.bind_ok.1 h
  obtain ⟨types, htypes, h⟩ := Outcome.bind_ok.1 h
  obtain rfl := Outcome.pure_ok.1 h
  refine ⟨fun t ht => ?_, fun m' hm => ?_, fun t ht => ?_⟩
  · obtain ⟨entry, -, hentry⟩ := Outcome.exists_of_forall₂ (Outcome.mapM_ok.1 htopics) ht
    exact ⟨_, _, hentry⟩
  · obtain ⟨entry, -, hentry⟩ := Outcome.exists_of_forall₂ (Outcome.mapM_ok.1 hmessages) hm
    obtain ⟨inner, -, hentry⟩ := Outcome.bind_ok.1 hentry
    exact ⟨_, inner, hentry⟩
  · obtain ⟨entry, -, hentry⟩ := Outcome.exists_of_forall₂ (Outcome.mapM_ok.1 htypes) ht
    obtain ⟨inner, -, hentry⟩ := Outcome.bind_ok.1 hentry
    exact ⟨_, inner, hentry⟩

theorem placed_schema {m : Mapping} {s : Schema} (h : schema d m = .ok s) : s.Placed := by
  obtain ⟨htopics, hmessages, htypes⟩ := parts_of_schema h
  refine ⟨fun t ht => ?_, fun m hm => ?_, fun t ht m hm => ?_⟩
  · obtain ⟨name, inner, hread⟩ := htypes t ht
    exact stands_typeWithin _ _ _ t hread
  · obtain ⟨name, inner, hread⟩ := hmessages m hm
    exact stands_message hread
  · obtain ⟨key, value, hread⟩ := htopics t ht
    exact stands_topic hread hm

end Document

theorem exists_schema_of_text {text : String} {s : Schema} (h : ofText text = .ok s) :
    ∃ d m, Document.schema d m = .ok s := by
  obtain ⟨data?, -, h⟩ := Outcome.bind_ok.1 h
  cases data? with
  | none => cases h
  | some d =>
      obtain ⟨m, -, h⟩ := Outcome.bind_ok.1 h
      exact ⟨d, m, h⟩

theorem placed_of_text {text : String} {s : Schema} (h : ofText text = .ok s) : s.Placed := by
  obtain ⟨d, m, hread⟩ := exists_schema_of_text h
  exact Document.placed_schema hread

def sampleText : String :=
  "\x7basyncapi: 1.0.0,host: h,info: \x7bversion: v\x7d," ++
  "topics: \x7bs.1.t.r.a: \x7bpublish: \x7b$ref: M\x7d\x7d\x7d," ++
  "components: \x7bmessages: \x7bM: \x7bpayload: \x7b$ref: schemas/A\x7d\x7d\x7d," ++
  "schemas: \x7bA: \x7btype: object,properties: \x7bb: \x7btype: string,enum: [c]\x7d\x7d\x7d\x7d\x7d\x7d"

def sample : Schema where
  baseTopic := none
  host := "h"
  schemes := []
  about := ⟨none, "v", none⟩
  topics := [⟨"s.1.t.r.a", some (.named "M"), none⟩]
  messages := [⟨"M", .reference ⟨typesSpace, "A"⟩, none, none, false⟩]
  types := [⟨.object ⟨typesSpace, [], "A"⟩
    [⟨"b", .enumeration ⟨typesSpace, ["A"], "b"⟩ ["c"] ⟨none, none⟩, false, none⟩] ⟨none, none⟩, rfl⟩]

theorem ofText_eq_of_decide {text : String} {s : Schema}
    (h : (ofText text).toOption.any (fun read => decide (read = s)) = true) : ofText text = .ok s := by
  cases hread : ofText text with
  | ok read =>
      rw [hread] at h
      obtain rfl : read = s := of_decide_eq_true h
      rfl
  | error fault =>
      rw [hread] at h
      cases h

set_option maxRecDepth 100000 in
theorem sample_of_text : ofText sampleText = .ok sample :=
  ofText_eq_of_decide (by decide +kernel)

end TopicBindings.Schema
