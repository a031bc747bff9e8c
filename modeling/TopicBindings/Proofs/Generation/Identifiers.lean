import TopicBindings.Proofs.Declaration.Literals
import TopicBindings.Proofs.Generation.Unclashed
import TopicBindings.Proofs.Generation.Built
import TopicBindings.Proofs.Schema.Messages

/-!
The identifiers that a run declares, scope by scope: those of the messages and of the components, the types and fields of
an object, the methods of the interfaces, and what gives access to versions and services. A run for which the identifiers
of every scope differ ends with no clash.
-/

namespace TopicBindings

namespace Schema

/-- The name of the object or enumeration that a type introduces where it stands. -/
def SchemaType.introduced : SchemaType → Option String
  | .object place _ _ | .enumeration place _ _ => some place.name
  | .array _ item _ _ => item.introduced
  | .primitive .. | .reference _ => none

theorem SchemaType.introduced_of_place {type : SchemaType} {place : Place} (h : place ∈ type.place?) :
    type.introduced = some place.name := by
  cases type with
  | object own properties doc =>
      obtain rfl := Option.some.inj h
      rfl
  | enumeration own literals doc =>
      obtain rfl := Option.some.inj h
      rfl
  | _ => cases h

/-- The identifiers of a property: of the type that it introduces, and of its field. -/
def Property.identifiers (p : Property SchemaType) : List String :=
  (p.type.introduced.map Naming.typeName).toList ++ [Naming.lowerUnderscore p.name]

def SchemaType.Apart : SchemaType → Prop
  | .object _ properties _ => (properties.flatMap Property.identifiers).Nodup
  | .enumeration _ literals _ => (literals.map Naming.constantName).Nodup
  | _ => True

end Schema

namespace Generation

open Declaration (Doc Scope Shape)
open Schema (Message Property SchemaType)
open Schema.SchemaType (structured structuredAll)
open Service (Definitions Role)

namespace Plan

variable {p : Plan}

theorem declaring_enum {scope : Scope} {place : Schema.Place} {literals : List String} {doc : Doc}
    (h : (literals.map Naming.constantName).Nodup) :
    Declaring (p.createEnum scope place literals doc) scope [Naming.typeName place.name] := by
  have hentries : Declaration.literalsOf (scope.nameOf (Naming.typeName place.name)) p.keepLiterals [] literals =
      .ok (literals.map (Declaration.entryOf p.keepLiterals)) := Declaration.literalsOf_ok_iff.2 ⟨h, by simp, rfl⟩
  refine Declaring.ofExcept_bind (fun fault hfault => ?_) fun found _ => ?_
  · rw [hentries] at hfault
    cases hfault
  · exact Declaring.after (Declaring.notes _) fun _ => Declaring.createEnum _

theorem isClash_of_field {property : Property SchemaType} {failure : Failure} (h : p.field property = .error failure) :
    failure.isClash = false := by
  rw [field] at h
  rcases Outcome.bind_error.1 h with h | ⟨resolved, -, h⟩
  · obtain ⟨fault, -, rfl⟩ := Outcome.mapError_error.1 h
    rfl
  · rcases Outcome.bind_error.1 h with h | ⟨type, -, h⟩
    · obtain ⟨fault, -, rfl⟩ := Outcome.mapError_error.1 h
      rfl
    · cases h

theorem declaring_field {scope : Scope} (property : Property SchemaType) :
    Declaring (p.createField scope property) scope [Naming.lowerUnderscore property.name] := by
  refine Declaring.ofExcept_bind (fun fault hfault => isClash_of_field hfault) fun field hfield => ?_
  obtain ⟨resolved, -, hfield⟩ := Outcome.bind_ok.1 hfield
  obtain ⟨type, -, hfield⟩ := Outcome.bind_ok.1 hfield
  obtain rfl := Outcome.pure_ok.1 hfield
  exact Declaring.createField _

mutual

theorem declaring_inline : ∀ (scope : Scope) (type : SchemaType), (∀ t ∈ type.structured, t.Apart) →
    Declaring (p.createInline scope type) scope (type.introduced.map Naming.typeName).toList
  | scope, .object place properties doc, h => by
      rw [createInline]
      have hmembers := declaring_members (scope.child (Naming.typeName place.name)) properties
        fun t ht => h t (.tail _ ht)
      exact Declaring.before (Declaring.createType hmembers (h _ (.head _))) fun _ => Declaring.done _
  | scope, .enumeration place literals doc, h => by
      rw [createInline]
      exact declaring_enum (h _ (.head _))
  | scope, .array _ item _ _, h => by
      rw [createInline]
      exact declaring_inline scope item h
  | scope, .primitive .., _ => by
      rw [createInline]
      exact Declaring.done _
  | scope, .reference _, _ => by
      rw [createInline]
      exact Declaring.done _

theorem declaring_members : ∀ (scope : Scope) (properties : List (Property SchemaType)),
    (∀ t ∈ structuredAll properties, t.Apart) →
    Declaring (p.createMembers scope properties) scope (properties.flatMap Property.identifiers)
  | scope, [], _ => by
      rw [createMembers]
      exact Declaring.done _
  | scope, ⟨name, type, required, description⟩ :: rest, h => by
      rw [createMembers, List.flatMap_cons, Property.identifiers, List.append_assoc]
      exact Declaring.seq (declaring_inline scope type fun t ht => h t (List.mem_append_left _ ht)) fun _ =>
        Declaring.seq (declaring_field _) fun _ =>
          declaring_members scope rest fun t ht => h t (List.mem_append_right _ ht)

end

theorem declaring_payload (scope : Scope) {message : Message} (h : ∀ t ∈ message.payload.structured, t.Apart)
    (hplace : ∀ place ∈ message.payload.place?, place.name = "payload") :
    ∃ names, names.Nodup ∧ Declaring (p.createPayload scope message) scope names := by
  rw [createPayload_eq]
  cases hspelled : message.payload.place? with
  | some place =>
      refine ⟨(message.payload.introduced.map Naming.typeName).toList ++ ["payload"], ?_,
        Declaring.seq (declaring_inline scope _ h) fun _ => Declaring.createField _⟩
      -- The type is called `Payload`, its field is not.
      rw [SchemaType.introduced_of_place hspelled, hplace place hspelled]
      decide
  | none =>
      by_cases harray : message.payload.kind = "array"
      · simp only [if_pos harray]
        exact ⟨[], .nil, Declaring.thrown rfl⟩
      · simp only [if_neg harray]
        exact ⟨["payload"], List.nodup_singleton _,
          Declaring.ofExcept_bind (fun _ _ => rfl) fun _ _ => Declaring.createField _⟩

theorem declaring_message {package : Scope} {message : Message} (h : ∀ t ∈ message.payload.structured, t.Apart)
    (hplace : ∀ place ∈ message.payload.place?, place.name = "payload") :
    Declaring (p.createMessage package message) package [Naming.typeName message.name] := by
  obtain ⟨names, hnames, hpayload⟩ := declaring_payload (p := p) (package.child (Naming.typeName message.name)) h hplace
  exact Declaring.before (Declaring.createType hpayload hnames) fun _ => Declaring.done _

theorem declaring_component {package : Scope} {type : SchemaType} (h : ∀ t ∈ type.structured, t.Apart) :
    Declaring (p.createComponent package type) package (type.introduced.map Naming.typeName).toList := by
  cases type with
  | primitive name kind doc => exact Declaring.note _
  | _ => exact declaring_inline package _ h

end Plan

end Generation

end TopicBindings
