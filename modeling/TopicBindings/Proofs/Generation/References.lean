import TopicBindings.Proofs.Generation.Built
import TopicBindings.Proofs.Generation.Messages
import TopicBindings.Proofs.Registry
import TopicBindings.Proofs.Schema.References
import TopicBindings.Proofs.Service.Filing

/-!
Which references a successful run has looked up. A reference in a property, in the payload of a declared
message or on a topic is registered. The item of an array among the components is not looked up if it is a
reference, nor is the payload of a message that another one of its name stands for.
-/

namespace TopicBindings.Generation

open Binding (Resolver TypeExpression)
open Build (Stage)
open Declaration (Scope)
open Schema (Message MessageRef Property SchemaType TypeKey)
open Schema.SchemaType (innerReferences mem_references_iff outerReferences references referencesAll)
open Service (Definitions Role)

section Resolution

variable {r : Resolver}

theorem registered_of_keyExpression {hops : Nat} {key : TypeKey} {e : TypeExpression}
    (h : r.keyExpression hops key = .ok e) : r.registry.Registered key := by
  have hfound : ∃ found, (r.registry.lookupType key).mapError Binding.Fault.unknown = .ok found := by
    cases hops with
    | zero =>
        obtain ⟨found, hfound, -⟩ := Outcome.bind_ok.1 h
        exact ⟨found, hfound⟩
    | succ hops =>
        obtain ⟨found, hfound, -⟩ := Outcome.bind_ok.1 h
        exact ⟨found, hfound⟩
  obtain ⟨found, hfound⟩ := hfound
  exact ⟨found, Outcome.mapError_ok.1 hfound⟩

theorem registered_of_expressionWith {follow : TypeKey → Except Binding.Fault TypeExpression}
    (hfollow : ∀ key e, follow key = .ok e → r.registry.Registered key) :
    ∀ {type : SchemaType} {e : TypeExpression}, r.expressionWith follow type = .ok e →
      ∀ key ∈ type.outerReferences, r.registry.Registered key
  | .reference key, e, h, other, hm => by
      obtain rfl := List.mem_singleton.1 hm
      exact hfollow other e h
  | .array _ item _ _, _, h, key, hm => by
      obtain ⟨inner, hinner, -⟩ := Outcome.bind_ok.1 h
      exact registered_of_expressionWith hfollow hinner key hm
  | .object .., _, _, _, hm => by cases hm
  | .primitive .., _, _, _, hm => by cases hm
  | .enumeration .., _, _, _, hm => by cases hm

theorem registered_of_propertyType {type : SchemaType} {e : TypeExpression}
    (h : r.propertyType type = .ok e) : ∀ key ∈ type.outerReferences, r.registry.Registered key :=
  registered_of_expressionWith (fun _ _ hkey => registered_of_keyExpression hkey) h

theorem component_of_messageType {s : Schema} (hregistry : Registry.ofSchema s = .ok r.registry)
    {name : String} {e : TypeExpression} (h : r.messageType (.named name) = .ok e) :
    ∃ m ∈ s.messages, m.name = name := by
  obtain ⟨m, hm, -⟩ := Outcome.bind_ok.1 h
  obtain ⟨hmem, hname⟩ := Registry.mem_of_lookupMessage hregistry (Outcome.mapError_ok.1 hm)
  exact ⟨m, hmem, hname⟩

end Resolution

namespace Plan

variable {p : Plan}

mutual

theorem registered_of_inline : ∀ {scope : Scope} (type : SchemaType) {out : List Declaration},
    p.Inline scope type out → ∀ key ∈ type.innerReferences, p.resolver.registry.Registered key
  | _, .object place properties doc, _, h, key, hk => by
      obtain ⟨inner, hinner, -⟩ := h
      exact registered_of_members properties hinner key hk
  | _, .array _ item _ _, _, h, key, hk => registered_of_inline item h key hk
  | _, .enumeration .., _, _, _, hk => by cases hk
  | _, .primitive .., _, _, _, hk => by cases hk
  | _, .reference _, _, _, _, hk => by cases hk

theorem registered_of_members : ∀ {scope : Scope} (properties : List (Property SchemaType))
    {out : List Declaration}, p.Members scope properties out →
    ∀ key ∈ referencesAll properties, p.resolver.registry.Registered key
  | _, [], _, _, _, hk => by cases hk
  | _, ⟨name, type, required, description⟩ :: rest, _, h, key, hk => by
      rw [Members] at h
      obtain ⟨first, field, others, hfirst, hfield, hothers, -⟩ := h
      rcases List.mem_append.1 hk with hk | hk
      · rcases mem_references_iff.1 hk with hk | hk
        · obtain ⟨resolved, -, hfield⟩ := Outcome.bind_ok.1 hfield
          obtain ⟨e, he, -⟩ := Outcome.bind_ok.1 hfield
          exact registered_of_propertyType (Outcome.mapError_ok.1 he) key hk
        · exact registered_of_inline type hfirst key hk
      · exact registered_of_members rest hothers key hk

end

theorem registered_of_payload {scope : Scope} {message : Message} {out : List Declaration}
    (h : p.Payload scope message out) :
    ∀ key ∈ message.payload.references, p.resolver.registry.Registered key := by
  intro key hk
  obtain ⟨first, type, hfirst, -, htype⟩ := exists_of_payload h
  rcases mem_references_iff.1 hk with hk | hk
  · rcases htype with htype | ⟨place, hplace, -⟩
    · exact registered_of_propertyType htype key hk
    · exact registered_of_propertyType (propertyType_of_place hplace) key hk
  · exact registered_of_inline _ hfirst key hk

end Plan

namespace Connector

variable {c : Connector} {role : Role} {t : Topic}

theorem messageType_of_offer {e? : Option TypeExpression} (h : c.offer role t = .ok e?)
    {ref : MessageRef} (href : role.sent t = some ref ∨ role.received t = some ref) :
    ∃ e, c.resolver.messageType ref = .ok e := by
  obtain ⟨arguments, harguments, -⟩ := (offering_of_offer h).arguments
  have hside : ref ∈ [role.sent t, role.received t].reduceOption := by
    simpa [List.reduceOption_mem_iff, eq_comm] using href
  have hfound : List.Forall₂ (fun e ref => c.resolver.messageType ref = .ok e) arguments
      [role.sent t, role.received t].reduceOption := .flip harguments
  obtain ⟨e, -, he⟩ := Outcome.exists_of_forall₂ hfound hside
  exact ⟨e, he⟩

theorem topicMethod_of_filed {stages : List Stage} (h : c.RolePackages role stages)
    (ht : Service.Filed c.definitions.versions t) : ∃ method?, c.topicMethod role t = .ok method? := by
  obtain ⟨version, hversion, service, hservice, ht⟩ := ht
  obtain ⟨stage, -, inner, -, hinner⟩ := interface_of_rolePackages h hversion hservice
  obtain ⟨part, ⟨method?, hmethod, -⟩, -⟩ := hinner.part_of_mem ht
  exact ⟨method?, hmethod⟩

end Connector

def allReferences (s : Schema) : List TypeKey :=
  (s.types.flatMap fun t => t.val.references) ++
    (s.messages ++ s.topics.flatMap inlineMessages).flatMap fun m => m.payload.references

/-- The references that no step of a run looks up for themselves. -/
def passedOver (s : Schema) : List TypeKey :=
  (s.types.flatMap fun t => t.val.outerReferences) ++
    ((s.topics.flatMap inlineMessages).filter fun m => (m.name, m) ∉ allMessages s).flatMap
      fun m => m.payload.references

theorem passedOver_subset (s : Schema) : ∀ key ∈ passedOver s, key ∈ allReferences s := by
  intro key hk
  rcases List.mem_append.1 hk with hk | hk
  · obtain ⟨t, ht, hk⟩ := List.mem_flatMap.1 hk
    exact List.mem_append_left _ (List.mem_flatMap.2 ⟨t, ht, mem_references_iff.2 (.inl hk)⟩)
  · obtain ⟨m, hm, hk⟩ := List.mem_flatMap.1 hk
    have hm := (List.mem_filter.1 hm).1
    exact List.mem_append_right _ (List.mem_flatMap.2 ⟨m, List.mem_append_right _ hm, hk⟩)

namespace Plan

variable {p : Plan} {s : Schema} {d : Definitions} {stages : List Stage}

theorem registered_of_stages (h : p.SchemaStages s d stages) {key : TypeKey}
    (hk : key ∈ allReferences s) : key ∈ passedOver s ∨ p.resolver.registry.Registered key := by
  obtain ⟨messages, types, roles, hmessages, htypes, -, -⟩ := h
  have hdeclared : ∀ m, (m.name, m) ∈ allMessages s → key ∈ m.payload.references →
      p.resolver.registry.Registered key := by
    intro m hm hk
    obtain ⟨part, ⟨inner, hinner, -⟩, -⟩ := hmessages.part_of_mem hm
    exact registered_of_payload hinner key hk
  rcases List.mem_append.1 hk with hk | hk
  · obtain ⟨t, ht, hk⟩ := List.mem_flatMap.1 hk
    rcases mem_references_iff.1 hk with hk | hk
    · exact .inl (List.mem_append_left _ (List.mem_flatMap.2 ⟨t, ht, hk⟩))
    · obtain ⟨part, hpart, -⟩ := htypes.part_of_mem ht
      exact .inr (registered_of_inline t.val hpart key hk)
  · obtain ⟨m, hm, hk⟩ := List.mem_flatMap.1 hk
    rcases List.mem_append.1 hm with hm | hm
    · exact .inr (hdeclared m (mem_allMessages hm) hk)
    · by_cases hmem : (m.name, m) ∈ allMessages s
      · exact .inr (hdeclared m hmem hk)
      · refine .inl (List.mem_append_right _ (List.mem_flatMap.2 ⟨m, ?_, hk⟩))
        exact List.mem_filter.2 ⟨hm, by simpa using hmem⟩

theorem component_of_stages (h : p.SchemaStages s d stages)
    (hregistry : Registry.ofSchema s = .ok p.resolver.registry) {t : Topic}
    (ht : Service.Filed d.versions t) {name : String}
    (hname : some (.named name) ∈ [t.publish, t.subscribe]) : ∃ m ∈ s.messages, m.name = name := by
  obtain ⟨messages, types, roles, -, -, hroles, -⟩ := h
  have hclient : Role.client ∈ Role.all := by decide
  obtain ⟨part, hpart, -⟩ := hroles.part_of_mem hclient
  obtain ⟨method?, hmethod⟩ := Connector.topicMethod_of_filed hpart ht
  obtain ⟨e?, he, -⟩ := Outcome.bind_ok.1 hmethod
  have hside : Role.client.sent t = some (.named name) ∨ Role.client.received t = some (.named name) := by
    simpa [Role.sent, Role.received, eq_comm] using hname
  obtain ⟨e, he⟩ := Connector.messageType_of_offer he hside
  exact component_of_messageType hregistry he

end Plan

/-- What a successful run has found registered: the messages named on topics, and the references that it does
not pass over. All references are registered just when those that it passes over are. -/
structure LookedUp (s : Schema) (registry : Registry) : Prop where
  named : ∀ t ∈ s.topics, ∀ name, some (.named name) ∈ [t.publish, t.subscribe] →
    ∃ m ∈ s.messages, m.name = name
  followed : ∀ key ∈ allReferences s, key ∉ passedOver s → registry.Registered key
  all_iff : (∀ key ∈ allReferences s, registry.Registered key) ↔
    ∀ key ∈ passedOver s, registry.Registered key

theorem lookedUp_of_run {s : Schema} {o : Options} {extensions : List Extension} {r : Result}
    (hrun : (run s o extensions).outcome = .ok r) :
    ∃ registry, Registry.ofSchema s = .ok registry ∧ LookedUp s registry := by
  obtain ⟨registry, hbuilt⟩ := built_of_run hrun
  obtain ⟨stages, hstages⟩ := hbuilt.laid
  refine ⟨registry, hbuilt.registered, fun t ht name hname => ?_, fun key hk hpassed => ?_, ?_, ?_⟩
  · exact Plan.component_of_stages hstages hbuilt.registered
      ((Service.filed_iff hbuilt.aggregated).2 ht) hname
  · exact (Plan.registered_of_stages hstages hk).resolve_left hpassed
  · exact fun h key hk => h key (passedOver_subset s key hk)
  · intro h key hk
    rcases Plan.registered_of_stages hstages hk with hk | hk
    · exact h key hk
    · exact hk

theorem lookedUp_of_sample_run : ∃ r registry,
    (run .sample sampleOptions [TopicLookup.extension]).outcome = .ok r ∧
      Registry.ofSchema .sample = .ok registry ∧ LookedUp .sample registry := by
  obtain ⟨r, hr⟩ := exists_sample_run
  obtain ⟨registry, hregistry, hlooked⟩ := lookedUp_of_run hr
  exact ⟨r, registry, hr, hregistry, hlooked⟩

/-- A list of something that is nowhere described. -/
def danglingText : String :=
  "\x7basyncapi: 1.0.0,host: h,info: \x7bversion: v\x7d,topics: \x7b\x7d," ++
  "components: \x7bschemas: \x7bA: \x7btype: array,items: \x7b$ref: schemas/B\x7d\x7d\x7d\x7d\x7d"

def dangling : Schema where
  baseTopic := none
  host := "h"
  schemes := []
  about := ⟨none, "v", none⟩
  topics := []
  messages := []
  types := [⟨.array "A" (.reference ⟨Schema.typesSpace, "B"⟩) false ⟨none, none⟩, rfl⟩]

set_option maxRecDepth 100000 in
theorem dangling_item_passes : Schema.ofText danglingText = .ok dangling ∧
    (∃ r, (run dangling sampleOptions []).outcome = .ok r) ∧
    ∃ registry, Registry.ofSchema dangling = .ok registry ∧
      ⟨Schema.typesSpace, "B"⟩ ∈ allReferences dangling ∧
      ¬ registry.Registered ⟨Schema.typesSpace, "B"⟩ := by
  refine ⟨Schema.ofText_eq_of_decide (by decide +kernel), Outcome.exists_ok_of_isSome (by decide +kernel),
    ⟨dangling.types.map fun t => (Registry.keyOf t.val, t), []⟩, rfl, by decide, by decide⟩

end TopicBindings.Generation
