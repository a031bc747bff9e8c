import TopicBindings.Proofs.Binding.Packages
import TopicBindings.Proofs.Declaration.Literals
import TopicBindings.Proofs.Generation.Built
import TopicBindings.Proofs.Generation.Messages
import TopicBindings.Proofs.Schema.Places

/-!
The tree of a run mirrors the types of its description: every object and every enumeration that a component
or a component message spells out is declared once, under its output name, and the package of component
types holds nothing else.
-/

namespace TopicBindings.Generation

open Binding (QualifiedName Resolver TypeExpression)
open Declaration (EnumLiteral Field Scope Shape Tree fields nodes nodesAll)
open Build (Stage under)
open Schema (Property SchemaType)
open Schema.SchemaType (Stands StandsAll structured structuredAll)
open Service (Definitions Role)

structure FieldOf (r : Resolver) (property : Property SchemaType) (field : Field) : Prop where
  name : field.name = Naming.lowerUnderscore property.name
  required : field.required = property.required
  type : r.propertyType property.type = .ok field.type

/-- The declaration of an object or an enumeration under the name that references to it resolve to. -/
inductive Mirrors (r : Resolver) : SchemaType → Declaration → Prop where
  | object {place properties doc about members} :
      List.Forall₂ (FieldOf r) properties (fields members) →
      (∀ d ∈ members, (∃ field, d = .field field) ∨ d.qualifiedName?.isSome) →
      Mirrors r (.object place properties doc)
        (.type (r.placeName place) about Shape.dataClass members)
  | enumeration {place literals doc about entries} :
      entries.map EnumLiteral.literal = literals →
      Mirrors r (.enumeration place literals doc) (.enumeration (r.placeName place) about entries)

theorem Mirrors.outputName {r : Resolver} {t : SchemaType} {d : Declaration} (h : Mirrors r t d) :
    ∃ name, r.outputName t = .ok name ∧ d.qualifiedName? = some name := by
  cases h with
  | object _ _ => exact ⟨_, rfl, rfl⟩
  | enumeration _ => exact ⟨_, rfl, rfl⟩

def scopeOf (r : Resolver) (space : String) (parents : List String) : Scope :=
  ⟨r.packageName (some space), parents.map Naming.typeName⟩

theorem scopeOf_child (r : Resolver) (space : String) (parents : List String) (name : String) :
    (scopeOf r space parents).child (Naming.typeName name) = scopeOf r space (parents ++ [name]) := by
  simp [scopeOf, Scope.child]

theorem scopeOf_nameOf (r : Resolver) (place : Schema.Place) :
    (scopeOf r place.space place.parents).nameOf (Naming.typeName place.name) = r.placeName place :=
  rfl

theorem literal_annotateAll (extensions : List Extension) (l : EnumLiteral) :
    (Extension.annotateAll extensions l).literal = l.literal := by
  simp only [Extension.annotateAll]
  induction extensions generalizing l with
  | nil => rfl
  | cons e rest ih => rw [List.foldl_cons, ih]

theorem literals_of_literalsOf {owner : QualifiedName} {keepLiterals : Bool} {seen literals : List String}
    {entries : List EnumLiteral}
    (h : Declaration.literalsOf owner keepLiterals seen literals = .ok entries) :
    entries.map EnumLiteral.literal = literals := by
  obtain ⟨-, -, rfl⟩ := Declaration.literalsOf_ok_iff.1 h
  simp [Declaration.entryOf, Function.comp_def]

namespace Plan

variable {p : Plan}

theorem named_of_inline {scope : Scope} : ∀ (type : SchemaType) {out : List Declaration},
    p.Inline scope type out →
    ∀ d ∈ out, ∃ own, d.qualifiedName? = some (scope.nameOf (Naming.typeName own))
  | .object place _ _, _, h, d, hd => by
      obtain ⟨inner, -, rfl⟩ := h
      obtain rfl := List.mem_singleton.1 hd
      exact ⟨place.name, rfl⟩
  | .enumeration place _ _, _, h, d, hd => by
      obtain ⟨entries, -, rfl⟩ := h
      obtain rfl := List.mem_singleton.1 hd
      exact ⟨place.name, rfl⟩
  | .array _ item _ _, _, h, d, hd => named_of_inline item h d hd
  | .primitive .., _, h, d, hd => by
      rw [Inline] at h
      simp [h] at hd
  | .reference _, _, h, d, hd => by
      rw [Inline] at h
      simp [h] at hd

theorem types_of_inline {scope : Scope} {type : SchemaType} {out : List Declaration}
    (h : p.Inline scope type out) : ∀ d ∈ out, d.qualifiedName?.isSome := by
  intro d hd
  obtain ⟨own, hq⟩ := named_of_inline type h d hd
  rw [hq]
  rfl

theorem fields_eq_nil {ds : List Declaration} (h : ∀ d ∈ ds, d.qualifiedName?.isSome) : fields ds = [] := by
  refine List.filterMap_eq_nil_iff.2 fun d hd => ?_
  have := h d hd
  cases d <;> simp_all [Declaration.qualifiedName?]

theorem fieldOf_field {property : Property SchemaType} {field : Field} (h : p.field property = .ok field) :
    FieldOf p.resolver property field := by
  obtain ⟨resolved, -, h⟩ := Outcome.bind_ok.1 h
  obtain ⟨type, htype, h⟩ := Outcome.bind_ok.1 h
  obtain rfl := Outcome.pure_ok.1 h
  exact ⟨rfl, rfl, Outcome.mapError_ok.1 htype⟩

theorem fields_members {scope : Scope} {properties : List (Property SchemaType)} {out : List Declaration}
    (h : p.Members scope properties out) :
    List.Forall₂ (FieldOf p.resolver) properties (fields out) ∧
      ∀ d ∈ out, (∃ field, d = .field field) ∨ d.qualifiedName?.isSome := by
  induction properties generalizing out with
  | nil =>
      rw [Members] at h
      subst h
      exact ⟨.nil, by simp⟩
  | cons property rest ih =>
      rw [Members] at h
      obtain ⟨first, field, others, hfirst, hfield, hothers, rfl⟩ := h
      obtain ⟨hfields, hmembers⟩ := ih hothers
      have hnested := types_of_inline hfirst
      -- What a property introduces is a type or an enumeration, so its only field is its own one.
      refine ⟨?_, fun d hd => ?_⟩
      · have hsplit : fields (first ++ .field field :: others) = field :: fields others := by
          rw [fields, List.filterMap_append, ← fields, fields_eq_nil hnested]
          rfl
        rw [hsplit]
        exact .cons (fieldOf_field hfield) hfields
      · rcases List.mem_append.1 hd with hd | hd
        · exact .inr (hnested d hd)
        · rcases List.mem_cons.1 hd with rfl | hd
          · exact .inl ⟨field, rfl⟩
          · exact hmembers d hd

theorem nodesAll_members_cons (first others : List Declaration) (field : Field) :
    nodesAll (first ++ .field field :: others) = nodesAll first ++ nodesAll others := by
  rw [Declaration.nodesAll_append]
  rfl

mutual

theorem mirrors_inline : ∀ {space : String} {parents : List String} (type : SchemaType)
    {out : List Declaration}, type.Stands space parents →
    p.Inline (scopeOf p.resolver space parents) type out →
    List.Forall₂ (Mirrors p.resolver) type.structured (nodesAll out)
  | space, parents, .object place properties doc, _, hstands, h => by
      obtain ⟨inner, hinner, rfl⟩ := h
      obtain ⟨rfl, rfl, hproperties⟩ := hstands
      obtain ⟨hfields, hmembers⟩ := fields_members hinner
      rw [scopeOf_child] at hinner
      rw [Declaration.nodesAll_singleton]
      exact .cons (.object hfields hmembers) (mirrors_members properties hproperties hinner)
  | space, parents, .enumeration place literals doc, _, hstands, h => by
      obtain ⟨entries, hentries, rfl⟩ := h
      obtain ⟨rfl, rfl⟩ := hstands
      refine .cons (.enumeration ?_) .nil
      rw [List.map_map, ← literals_of_literalsOf hentries]
      exact List.map_congr_left fun l _ => literal_annotateAll _ l
  | _, _, .array _ item _ _, _, hstands, h => mirrors_inline item hstands h
  | _, _, .primitive .., _, _, h => by
      rw [Inline] at h
      subst h
      exact .nil
  | _, _, .reference _, _, _, h => by
      rw [Inline] at h
      subst h
      exact .nil

theorem mirrors_members : ∀ {space : String} {parents : List String}
    (properties : List (Property SchemaType)) {out : List Declaration},
    StandsAll space parents properties →
    p.Members (scopeOf p.resolver space parents) properties out →
    List.Forall₂ (Mirrors p.resolver) (structuredAll properties) (nodesAll out)
  | _, _, [], _, _, h => by
      rw [Members] at h
      subst h
      exact .nil
  | _, _, ⟨_, type, _, _⟩ :: rest, _, hstands, h => by
      rw [Members] at h
      obtain ⟨first, field, others, hfirst, -, hothers, rfl⟩ := h
      rw [nodesAll_members_cons]
      exact List.rel_append (mirrors_inline type hstands.1 hfirst)
        (mirrors_members rest hstands.2 hothers)

end

theorem resolved_of_payload {message : Schema.Message} {out : List Declaration}
    (hstands : message.payload.Stands Schema.messagesSpace [message.name])
    (h : p.Payload (scopeOf p.resolver Schema.messagesSpace [message.name]) message out) :
    ∃ first type, p.Inline (scopeOf p.resolver Schema.messagesSpace [message.name]) message.payload first ∧
      p.resolver.propertyType message.payload = .ok type ∧ out = first ++ [.field (payloadField type)] := by
  obtain ⟨first, type, hfirst, rfl, htype | ⟨place, hplace, rfl⟩⟩ := exists_of_payload h
  · exact ⟨first, type, hfirst, htype, rfl⟩
  -- The name of what is declared for a payload is that of its place, which is what the payload resolves to.
  · refine ⟨first, _, hfirst, ?_, rfl⟩
    obtain ⟨hspace, hparents⟩ := hstands.at_place hplace
    rw [← hspace, ← hparents, scopeOf_nameOf]
    exact propertyType_of_place hplace

theorem mirrors_payload {message : Schema.Message} {out : List Declaration}
    (hstands : message.payload.Stands Schema.messagesSpace [message.name])
    (h : p.Payload (scopeOf p.resolver Schema.messagesSpace [message.name]) message out) :
    List.Forall₂ (Mirrors p.resolver) message.payload.structured (nodesAll out) := by
  obtain ⟨first, type, hfirst, rfl, -⟩ := exists_of_payload h
  rw [nodesAll_members_cons]
  simpa [nodesAll] using mirrors_inline _ hstands hfirst

end Plan

namespace Plan

variable {p : Plan} {s : Schema} {d : Definitions}

theorem ne_types_of_extension {extras : List Stage} (h : p.ExtensionStages d extras) {stage : Stage}
    (hs : stage ∈ extras) : stage.1 ≠ p.typesPackage := by
  obtain ⟨_, -, part, ⟨rows, -, rfl⟩, hs⟩ := h.exists_of_mem hs
  obtain rfl := List.mem_singleton.1 hs
  intro heq
  exact absurd (p.resolver.packageName_inj (by decide) (by decide) heq) (by decide)

theorem messagesPackage_ne_typesPackage : p.messagesPackage ≠ p.typesPackage := by
  intro heq
  exact absurd (p.resolver.packageName_inj (by decide) (by decide) heq) (by decide)

theorem under_typesPackage {stages extras : List Stage} (hstages : p.SchemaStages s d stages)
    (hextras : p.ExtensionStages d extras) :
    Each (fun type : Schema.DeclaredType => p.Inline (.ofPackage p.typesPackage) type.val) s.types
      (under p.typesPackage (stages ++ extras)) := by
  obtain ⟨messages, types, roles, -, htypes, hroles, rfl⟩ := hstages
  have hothers : under p.typesPackage (roles ++ extras) = [] := by
    refine Build.under_of_ne fun stage hs => ?_
    rcases List.mem_append.1 hs with hs | hs
    · exact Connector.ne_space_of_roles hroles (by decide) (fun role => by cases role <;> decide) stage hs
    · exact ne_types_of_extension hextras hs
  have hunder : under p.typesPackage ((p.messagesPackage, messages) :: (p.typesPackage, types) ::
      (roles ++ extras)) = types := by
    rw [Build.under_cons, if_neg messagesPackage_ne_typesPackage, Build.under_cons, if_pos rfl, hothers]
    simp
  rw [List.cons_append, List.cons_append, hunder]
  exact htypes

end Plan

theorem mirrors_components {p : Plan} {types : List Schema.DeclaredType} {out : List Declaration}
    (hplaced : ∀ t ∈ types, t.val.Stands Schema.typesSpace [])
    (h : Each (fun type : Schema.DeclaredType => p.Inline (.ofPackage p.typesPackage) type.val) types out) :
    List.Forall₂ (Mirrors p.resolver) (types.flatMap fun t => t.val.structured) (nodesAll out) ∧
      ∀ d ∈ out, d.qualifiedName?.isSome := by
  obtain ⟨parts, hparts, rfl⟩ := h
  induction hparts with
  | nil => exact ⟨.nil, by simp⟩
  | cons hp hrest ih =>
      obtain ⟨hmirrors, hnodes⟩ := ih fun t ht => hplaced t (.tail _ ht)
      rw [List.flatMap_cons, List.flatten_cons, Declaration.nodesAll_append]
      refine ⟨List.rel_append (Plan.mirrors_inline _ (hplaced _ (.head _)) hp) hmirrors, fun d hd => ?_⟩
      rcases List.mem_append.1 hd with hd | hd
      · exact Plan.types_of_inline hp d hd
      · exact hnodes d hd

/-- The objects and enumerations that components and component messages spell out. -/
def spelledOut (s : Schema) : List SchemaType :=
  (s.types.flatMap fun t => t.val.structured) ++ s.messages.flatMap fun m => m.payload.structured

theorem exists_mirror {r : Resolver} {types : List SchemaType} {ds : List Declaration}
    (h : List.Forall₂ (Mirrors r) types ds) {t : SchemaType} (ht : t ∈ types) :
    ∃ d ∈ ds, Mirrors r t d := by
  obtain ⟨d, hd, hm⟩ := Outcome.exists_of_forall₂ h.flip ht
  exact ⟨d, hd, hm⟩

theorem placed_allMessages {s : Schema} (hplaced : s.Placed) : ∀ entry ∈ allMessages s,
    entry.2.payload.Stands Schema.messagesSpace [entry.2.name] := by
  intro entry hentry
  obtain ⟨-, hm | ⟨t, ht, hm⟩⟩ := of_mem_allMessages hentry
  · exact hplaced.messages entry.2 hm
  · exact hplaced.topics t ht entry.2 hm

theorem mirrors_messages {p : Plan} {s : Schema} {out : List Declaration} (hplaced : s.Placed)
    (h : Each (fun entry : String × Schema.Message => p.MessageClass (.ofPackage p.messagesPackage) entry.2)
      (allMessages s) out) {entry : String × Schema.Message} (hentry : entry ∈ allMessages s)
    {t : SchemaType} (ht : t ∈ entry.2.payload.structured) : ∃ d ∈ nodesAll out, Mirrors p.resolver t d := by
  have hstands := placed_allMessages hplaced entry hentry
  obtain ⟨part, ⟨inner, hinner, rfl⟩, hpart⟩ := h.part_of_mem hentry
  obtain ⟨d, hd, hmirrors⟩ := exists_mirror (Plan.mirrors_payload hstands hinner) ht
  refine ⟨d, Declaration.mem_nodesAll.2 ⟨_, hpart _ (.head _), ?_⟩, hmirrors⟩
  exact List.mem_cons_of_mem _ hd

/-- A tree with one declaration for each type that a description spells out, and no others in the package
of component types. -/
structure TreeMirrors (r : Resolver) (s : Schema) (t : Tree) : Prop where
  declared : ∀ type ∈ spelledOut s, ∃ name d, r.outputName type = .ok name ∧
    t.nodes.filter (fun e => e.qualifiedName? = some name) = [d] ∧ Mirrors r type d
  components : List.Forall₂ (Mirrors r) (s.types.flatMap fun type => type.val.structured)
    (nodesAll (t.members (.ofPackage (r.packageName (some Schema.typesSpace)))))
  onlyTypes : ∀ d ∈ t.members (.ofPackage (r.packageName (some Schema.typesSpace))),
    d.qualifiedName?.isSome

theorem tree_mirrors_description {text : String} {s : Schema} {o : Options} {extensions : List Extension}
    {r : Result} (hread : Schema.ofText text = .ok s)
    (hextensions : ∀ e ∈ extensions, e = TopicLookup.extension)
    (hrun : (run s o extensions).outcome = .ok r) :
    ∃ registry, Registry.ofSchema s = .ok registry ∧
      TreeMirrors (o.plan s registry extensions .standard).resolver s r.tree := by
  obtain ⟨registry, hbuilt⟩ := built_of_run hrun
  obtain ⟨hsound, stages, extras, hstages, hextras, hmembers⟩ := hbuilt.complete hextensions
  have hplaced := Schema.placed_of_text hread
  have htypes := mirrors_components hplaced.types (Plan.under_typesPackage hstages hextras)
  rw [← hmembers] at htypes
  refine ⟨registry, hbuilt.registered, fun t ht => ?_, htypes.1, htypes.2⟩
  -- What a component spells out is in the package of types, what a message spells out in the class of the message.
  have hnode : ∃ d ∈ r.tree.nodes, Mirrors (o.plan s registry extensions .standard).resolver t d := by
    rcases List.mem_append.1 ht with ht | ht
    · obtain ⟨d, hd, hm⟩ := exists_mirror htypes.1 ht
      obtain ⟨e, he, hd⟩ := Declaration.mem_nodesAll.1 hd
      exact ⟨d, Tree.mem_nodes_iff.2 ⟨_, hsound.mem_units.2 he, hd⟩, hm⟩
    · obtain ⟨messages, types, roles, hmessages, -, -, hshape⟩ := hstages
      obtain ⟨m, hm, ht⟩ := List.mem_flatMap.1 ht
      obtain ⟨d, hd, hm⟩ := mirrors_messages hplaced hmessages (mem_allMessages hm) ht
      have hmem : ((o.plan s registry extensions .standard).messagesPackage, messages) ∈
          stages ++ extras := by
        rw [hshape]
        exact List.mem_append_left _ (.head _)
      exact ⟨d, (mem_nodes_of_laid hsound hmembers).2 ⟨_, hmem, hd⟩, hm⟩
  obtain ⟨d, hd, hm⟩ := hnode
  obtain ⟨name, hname, hq⟩ := hm.outputName
  exact ⟨name, d, hname, hsound.filter_nodes hd hq, hm⟩

theorem tree_mirrors_sample : ∃ r registry,
    (run .sample sampleOptions [TopicLookup.extension]).outcome = .ok r ∧
      Registry.ofSchema .sample = .ok registry ∧
      TreeMirrors (sampleOptions.plan .sample registry [TopicLookup.extension] .standard).resolver
        .sample r.tree := by
  obtain ⟨r, hr⟩ := exists_sample_run
  obtain ⟨registry, hregistry, hmirrors⟩ :=
    tree_mirrors_description Schema.sample_of_text (by simp) hr
  exact ⟨r, registry, hr, hregistry, hmirrors⟩

end TopicBindings.Generation
