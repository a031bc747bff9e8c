import TopicBindings.Generation.Run
import TopicBindings.Generation.TopicLookup
import TopicBindings.Proofs.Generation.Adds
import TopicBindings.Proofs.Schema.Messages

/-!
The declarations that a run makes from a description, given as relations that follow the description: a
type, its members, the class of a message, the interfaces of a role, the table of topics. Every successful
run lays down stages that are related to its description in this way.
-/

namespace TopicBindings.Generation

open Binding (QualifiedName Resolver TypeExpression)
open Build (Adds Lays Stage Yields)
open Declaration (Doc EnumLiteral Field Method Scope Shape Tree)
open Schema (Message MessageRef Property SchemaType)
open Service (Definitions Latest Role)

namespace Plan

mutual

def Inline (p : Plan) (scope : Scope) : SchemaType → List Declaration → Prop
  | .object place properties doc, out => ∃ inner,
      p.Members (scope.child (Naming.typeName place.name)) properties inner ∧
        out = [.type (scope.nameOf (Naming.typeName place.name)) ⟨doc.title, doc.description⟩
          Shape.dataClass inner]
  | .enumeration place literals doc, out => ∃ entries,
      Declaration.literalsOf (scope.nameOf (Naming.typeName place.name)) p.keepLiterals [] literals =
        .ok entries ∧
        out = [.enumeration (scope.nameOf (Naming.typeName place.name)) ⟨doc.title, doc.description⟩
          (entries.map (Extension.annotateAll p.extensions))]
  | .array _ item _ _, out => p.Inline scope item out
  | .primitive .., out | .reference .., out => out = []

def Members (p : Plan) (scope : Scope) : List (Property SchemaType) → List Declaration → Prop
  | [], out => out = []
  | ⟨name, type, required, description⟩ :: rest, out => ∃ first field others,
      p.Inline scope type first ∧ p.field ⟨name, type, required, description⟩ = .ok field ∧
        p.Members scope rest others ∧ out = first ++ .field field :: others

end

def Payload (p : Plan) (scope : Scope) (message : Message) (out : List Declaration) : Prop :=
  match message.payload with
  | .object place .. | .enumeration place .. => ∃ first, p.Inline scope message.payload first ∧
      out = first ++ [.field (payloadField (.plain (scope.nameOf (Naming.typeName place.name))))]
  | .array .. => False
  | payload => ∃ type, p.resolver.propertyType payload = .ok type ∧
      out = [.field (payloadField type)]

theorem propertyType_of_place {r : Resolver} {type : SchemaType} {place : Schema.Place}
    (h : place ∈ type.place?) : r.propertyType type = .ok (.plain (r.placeName place)) := by
  cases type with
  | object own properties doc =>
      obtain rfl := Option.some.inj h
      rfl
  | enumeration own literals doc =>
      obtain rfl := Option.some.inj h
      rfl
  | _ => cases h

/-- Whatever a payload is, its class holds what the payload introduces and then the field for it. -/
theorem exists_of_payload {p : Plan} {scope : Scope} {message : Message} {out : List Declaration}
    (h : p.Payload scope message out) : ∃ first type, p.Inline scope message.payload first ∧
      out = first ++ [.field (payloadField type)] ∧
      (p.resolver.propertyType message.payload = .ok type ∨
        ∃ place ∈ message.payload.place?, type = .plain (scope.nameOf (Naming.typeName place.name))) := by
  rw [Payload] at h
  cases hpayload : message.payload with
  | object place properties doc =>
      rw [hpayload] at h
      obtain ⟨first, hfirst, rfl⟩ := h
      exact ⟨first, _, hfirst, rfl, .inr ⟨place, rfl, rfl⟩⟩
  | enumeration place literals doc =>
      rw [hpayload] at h
      obtain ⟨first, hfirst, rfl⟩ := h
      exact ⟨first, _, hfirst, rfl, .inr ⟨place, rfl, rfl⟩⟩
  | array name item unique doc =>
      rw [hpayload] at h
      exact h.elim
  | primitive name kind doc =>
      rw [hpayload] at h
      obtain ⟨type, htype, rfl⟩ := h
      exact ⟨[], type, by rw [Inline], rfl, .inl htype⟩
  | reference key =>
      rw [hpayload] at h
      obtain ⟨type, htype, rfl⟩ := h
      exact ⟨[], type, by rw [Inline], rfl, .inl htype⟩

def MessageClass (p : Plan) (scope : Scope) (message : Message) (out : List Declaration) : Prop :=
  ∃ inner, p.Payload (scope.child (Naming.typeName message.name)) message inner ∧
    out = [.type (scope.nameOf (Naming.typeName message.name))
      ⟨messageSummary message, message.description⟩ Shape.dataClass inner]

theorem adds_enumeration (p : Plan) (scope : Scope) (place : Schema.Place) (literals : List String)
    (doc : Doc) :
    Adds (p.createEnum scope place literals doc) scope fun out => ∃ entries,
      Declaration.literalsOf (scope.nameOf (Naming.typeName place.name)) p.keepLiterals [] literals =
        .ok entries ∧
        out = [.enumeration (scope.nameOf (Naming.typeName place.name)) doc
          (entries.map (Extension.annotateAll p.extensions))] := by
  refine Yields.ofExcept_bind fun entries hentries => ?_
  refine (Yields.after (Build.chained_extends scope) (Yields.notes (Build.chained_extends scope) _)
    fun _ => Build.adds_enum _ _ _).mono ?_
  rintro out rfl
  exact ⟨entries, hentries, rfl⟩

theorem adds_createField (p : Plan) (scope : Scope) (property : Property SchemaType) :
    Adds (p.createField scope property) scope fun out => ∃ field,
      p.field property = .ok field ∧ out = [.field field] := by
  refine Yields.ofExcept_bind fun field hfield => (Build.adds_field field).mono ?_
  rintro out rfl
  exact ⟨field, hfield, rfl⟩

mutual

theorem adds_inline (p : Plan) : ∀ (scope : Scope) (type : SchemaType),
    Adds (p.createInline scope type) scope (p.Inline scope type)
  | scope, .object place properties doc => by
      simp only [createInline]
      refine (Yields.before (Build.chained_extends scope)
        (Build.adds_type (adds_members p _ properties)) fun _ => Yields.done
          (Build.chained_extends scope) _).mono ?_
      intro out h
      simpa only [Inline] using h
  | scope, .enumeration place literals doc => by
      simp only [createInline]
      refine (adds_enumeration p scope place literals _).mono fun out h => ?_
      simpa only [Inline] using h
  | scope, .array _ item _ _ => by
      simp only [createInline]
      refine (adds_inline p scope item).mono fun out h => ?_
      simpa only [Inline] using h
  | scope, .primitive .. => by
      simp only [createInline]
      refine (Yields.done (Build.chained_extends scope) _).mono fun out h => ?_
      simpa only [Inline] using h
  | scope, .reference _ => by
      simp only [createInline]
      refine (Yields.done (Build.chained_extends scope) _).mono fun out h => ?_
      simpa only [Inline] using h

theorem adds_members (p : Plan) : ∀ (scope : Scope) (properties : List (Property SchemaType)),
    Adds (p.createMembers scope properties) scope (p.Members scope properties)
  | scope, [] => by
      simp only [createMembers]
      refine (Yields.done (Build.chained_extends scope) _).mono fun out h => ?_
      simpa only [Members] using h
  | scope, ⟨name, type, required, description⟩ :: rest => by
      simp only [createMembers]
      refine (Yields.seq (Build.chained_extends scope) (adds_inline p scope type) fun _ =>
        Yields.seq (Build.chained_extends scope) (adds_createField p scope _) fun _ =>
          adds_members p scope rest).mono ?_
      rintro out ⟨first, second, hfirst, ⟨third, others, ⟨field, hfield, rfl⟩, hothers, rfl⟩, rfl⟩
      simp only [Members]
      exact ⟨first, field, others, hfirst, hfield, hothers, rfl⟩

end

theorem createPayload_eq (p : Plan) (scope : Scope) (message : Message) : p.createPayload scope message =
    match message.payload.place? with
    | some place => p.createInline scope message.payload >>= fun _ =>
        Build.createField scope (payloadField (.plain (scope.nameOf (Naming.typeName place.name))))
    | none => if message.payload.kind = "array" then throw (.arrayPayload message.name)
        else Build.ofExcept .binding (p.resolver.propertyType message.payload) >>= fun type =>
          Build.createField scope (payloadField type) := by
  rw [createPayload]
  cases message.payload <;> rfl

theorem payload_eq (p : Plan) (scope : Scope) (message : Message) (out : List Declaration) :
    p.Payload scope message out = match message.payload.place? with
    | some place => ∃ first, p.Inline scope message.payload first ∧
        out = first ++ [.field (payloadField (.plain (scope.nameOf (Naming.typeName place.name))))]
    | none => if message.payload.kind = "array" then False
        else ∃ type, p.resolver.propertyType message.payload = .ok type ∧ out = [.field (payloadField type)] := by
  rw [Payload]
  cases message.payload <;> rfl

theorem adds_payload (p : Plan) (scope : Scope) (message : Message) :
    Adds (p.createPayload scope message) scope (p.Payload scope message) := by
  rw [createPayload_eq, funext (p.payload_eq scope message)]
  cases message.payload.place? with
  | some place =>
      refine (Yields.seq (Build.chained_extends scope) (adds_inline p scope message.payload) fun _ =>
        Build.adds_field _).mono ?_
      rintro out ⟨first, second, hfirst, rfl, rfl⟩
      exact ⟨first, hfirst, rfl⟩
  | none =>
      by_cases harray : message.payload.kind = "array"
      · simp only [if_pos harray]
        exact Yields.thrown _
      · simp only [if_neg harray]
        refine Yields.ofExcept_bind fun type htype => (Build.adds_field _).mono ?_
        rintro out rfl
        exact ⟨type, htype, rfl⟩

theorem adds_message (p : Plan) (scope : Scope) (message : Message) :
    Adds (p.createMessage scope message) scope (p.MessageClass scope message) :=
  Yields.before (Build.chained_extends scope) (Build.adds_type (adds_payload p _ message)) fun _ =>
    Yields.done (Build.chained_extends scope) _

theorem adds_component (p : Plan) (scope : Scope) (type : SchemaType) :
    Adds (p.createComponent scope type) scope (p.Inline scope type) := by
  cases type with
  | primitive name kind doc =>
      refine (Yields.note (Build.chained_extends scope) _).mono fun out h => ?_
      simpa only [Inline] using h
  | _ => exact adds_inline p scope _

end Plan

end TopicBindings.Generation
