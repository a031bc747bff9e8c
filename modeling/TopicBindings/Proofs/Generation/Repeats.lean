import TopicBindings.Generation.Run
import TopicBindings.Proofs.Declaration.Recast
import TopicBindings.Proofs.Generation.Interfaces
import TopicBindings.Proofs.Generation.Outline
import TopicBindings.Proofs.Generation.Parallel
import TopicBindings.Proofs.Outcome

/-!
Runs that differ in packages and literals only. If the names that one resolver gives are the images of those of another
one, everything that is declared with the second is declared with the first under the images, and what fails with the
second fails with the first for the same reason.
-/

namespace TopicBindings

open Binding (QualifiedName Resolver TypeExpression)
open Declaration (Doc EnumLiteral Field Method Recast Scope Shape Tree)
open Schema (SchemaType TypeKey)

namespace Binding.Resolver

/-- The names of the second resolver are the images of those of the first. -/
structure Recasts (ρ : Recast) (r r' : Resolver) : Prop where
  registry : r'.registry = r.registry
  root : ρ.Known (r.packageName none) ∧ r'.packageName none = ρ.package (r.packageName none)
  package : ∀ {package}, package ≠ "" → ρ.Fills (r.packageName (some package)) ∧
    r'.packageName (some package) = ρ.package (r.packageName (some package))
  place : ∀ place, ρ.name (r.placeName place) = r'.placeName place
  primitive : ∀ kind, ρ.name (r.table.boxed kind) = r'.table.boxed kind
  collection : ∀ unique, ρ.name (r.collection unique) = r'.collection unique

variable {ρ : Recast} {r r' : Resolver}

namespace Recasts

theorem expressionWith (h : Recasts ρ r r') {follow follow' : TypeKey → Except Fault TypeExpression}
    (hfollow : ∀ key, follow' key = (follow key).map ρ.expression) :
    ∀ type, r'.expressionWith follow' type = (r.expressionWith follow type).map ρ.expression
  | .primitive _ kind _ => by
      simp only [Resolver.expressionWith, Except.map, ρ.expression_plain, h.primitive]
  | .array _ item unique _ => by
      rw [Resolver.expressionWith, Resolver.expressionWith, h.expressionWith hfollow item, ← h.collection unique]
      cases r.expressionWith follow item with
      | ok inner => rfl
      | error fault => rfl
  | .object place _ _ => by
      simp only [Resolver.expressionWith, Except.map, ρ.expression_plain, h.place]
  | .enumeration place _ _ => by
      simp only [Resolver.expressionWith, Except.map, ρ.expression_plain, h.place]
  | .reference key => hfollow key

theorem keyExpression (h : Recasts ρ r r') (hops : Nat) (key : TypeKey) :
    r'.keyExpression hops key = (r.keyExpression hops key).map ρ.expression := by
  induction hops generalizing key with
  | zero =>
      rw [Resolver.keyExpression, Resolver.keyExpression, h.registry]
      cases r.registry.lookupType key <;> rfl
  | succ hops ih =>
      rw [Resolver.keyExpression, Resolver.keyExpression, h.registry]
      cases r.registry.lookupType key with
      | ok found => exact h.expressionWith ih found.val
      | error unknown => rfl

theorem propertyType (h : Recasts ρ r r') (type : SchemaType) :
    r'.propertyType type = (r.propertyType type).map ρ.expression := by
  rw [Resolver.propertyType, Resolver.propertyType, h.registry]
  exact h.expressionWith (h.keyExpression _) type

theorem messagesSpace (h : Recasts ρ r r') : ρ.Fills (r.packageName (some Schema.messagesSpace)) ∧
    r'.packageName (some Schema.messagesSpace) = ρ.package (r.packageName (some Schema.messagesSpace)) :=
  h.package (by decide)

theorem messageType (h : Recasts ρ r r') (ref : Schema.MessageRef) :
    r'.messageType ref = (r.messageType ref).map ρ.expression := by
  rw [Resolver.messageType, Resolver.messageType, h.registry]
  cases r.registry.lookupMessage ref with
  | error unknown => rfl
  | ok message =>
      refine congrArg Except.ok ?_
      rw [ρ.expression_plain, QualifiedName.inPackage, QualifiedName.inPackage, h.messagesSpace.1.named,
        h.messagesSpace.2]

end Recasts

end Binding.Resolver

namespace Generation

open Service (Definitions Role)

/-- The class of a failure stays; only the places in it are new. -/
def recastFailure (ρ : Recast) : Failure → Failure
  | .declaration fault => .declaration (ρ.fault fault)
  | failure => failure

structure Recasting (ρ : Recast) (w w' : Workspace) : Prop where
  fits : ρ.Fits w.tree
  tree : w'.tree = ρ.tree w.tree

/-- A run that does to the image of a tree what another one does to the tree. -/
abbrev Repeats {α β : Type} (ρ : Recast) (b : Build α) (b' : Build β) : Prop :=
  Parallel (Recasting ρ) (recastFailure ρ) b b'

namespace Repeats

variable {α α' : Type} {ρ : Recast} {s : Scope}

theorem onTrees : OnTrees (Recasting ρ) :=
  fun hw _ _ => ⟨hw.fits, hw.tree⟩

theorem openPackage_bind {package : String} {f : Scope → Build α} {f' : Scope → Build α'}
    (hp : ρ.Known package) (h : Repeats ρ (f (.ofPackage package)) (f' (.ofPackage (ρ.package package)))) :
    Repeats ρ (Build.openPackage package >>= f) (Build.openPackage (ρ.package package) >>= f') := by
  refine Parallel.openPackage_bind (fun {w w'} hw => ⟨hw.fits.openPackage hp, ?_⟩) h
  show w'.tree.openPackage _ = _
  rw [hw.tree, Recast.openPackage_tree hw.fits hp]

theorem noteMetadata {package : String} (hp : ρ.Known package) (entries : Entries String String) :
    Repeats ρ (Build.noteMetadata package entries) (Build.noteMetadata (ρ.package package) entries) := by
  intro w w' hw
  rw [Build.runOn_noteMetadata, Build.runOn_noteMetadata]
  refine ⟨⟨hw.fits.modifyPackage _ _, ?_⟩, rfl⟩
  show w'.tree.noteMetadata _ _ = _
  rw [hw.tree, Recast.noteMetadata_tree hw.fits hp]

/-- A change that either fails for a reason that has to do with the scope only, or declares something. -/
theorem declare {change change' : Tree → Except Declaration.Fault Tree} (hs : ρ.Known s.package)
    (h : (∃ fault, (∀ t, change t = .error fault) ∧ ∀ t, change' t = .error (ρ.fault fault)) ∨
      ∃ new, (∀ t, change t = t.declare s new) ∧ ∀ t, change' t = t.declare (ρ.scope s) (ρ.declaration new)) :
    Repeats ρ (Build.edit change) (Build.edit change') := by
  rcases h with ⟨fault, hchange, hchange'⟩ | ⟨new, hchange, hchange'⟩
  · refine Parallel.edit (fun {w w' t} hw ht => ?_) fun {w w' other} hw ht => ?_
    · rw [hchange] at ht
      cases ht
    · rw [hchange] at ht
      obtain rfl := Except.error.inj ht
      exact ⟨_, hchange' _, rfl⟩
  · have himage : ∀ {w w'}, Recasting ρ w w' → change' w'.tree = ((change w.tree).map ρ.tree).mapError ρ.fault := by
      intro w w' hw
      rw [hchange', hchange, hw.tree, Recast.declare_tree hw.fits hs]
    refine Parallel.edit (fun {w w' t} hw ht => ?_) fun {w w' fault} hw ht => ?_
    · refine ⟨ρ.tree t, by rw [himage hw, ht]; rfl, ?_, rfl⟩
      rw [hchange] at ht
      exact hw.fits.declare ht
    · exact ⟨ρ.fault fault, by rw [himage hw, ht]; rfl, rfl⟩

theorem createField (hs : ρ.Known s.package) (field : Field) :
    Repeats ρ (Build.createField s field) (Build.createField (ρ.scope s) (ρ.field field)) := by
  refine declare hs ?_
  by_cases hpath : s.path.isEmpty = true
  · exact .inl ⟨_, fun t => if_pos hpath, fun t => if_pos hpath⟩
  · exact .inr ⟨.field field, fun t => if_neg hpath, fun t => if_neg hpath⟩

theorem createMethod (hs : ρ.Known s.package) (method : Method) :
    Repeats ρ (Build.createMethod s method) (Build.createMethod (ρ.scope s) (ρ.method method)) := by
  refine declare hs ?_
  by_cases hpath : s.path.isEmpty = true
  · exact .inl ⟨_, fun t => if_pos hpath, fun t => if_pos hpath⟩
  · exact .inr ⟨.method method, fun t => if_neg hpath, fun t => if_neg hpath⟩

theorem declareEnum (hs : ρ.Fills s.package) (name : String) (doc : Doc) (entries : List EnumLiteral) :
    Repeats ρ (Build.edit fun t => t.declareEnum s name doc entries)
      (Build.edit fun t => t.declareEnum (ρ.scope s) name doc (entries.map ρ.literal)) := by
  refine declare hs.known (.inr ⟨.enumeration (s.nameOf name) doc entries, fun _ => rfl, fun t => ?_⟩)
  rw [Recast.declaration, Scope.nameOf, hs.named]
  rfl

theorem createType {name : String} {doc : Doc} {shape : Shape} {body body' : Scope → Build Unit}
    (hs : ρ.Fills s.package) (hshape : ρ.shape shape = shape)
    (hbody : Repeats ρ (body (s.child name)) (body' (ρ.scope (s.child name)))) :
    Repeats ρ (Build.createType s name doc shape body) (Build.createType (ρ.scope s) name doc shape body') := by
  have hdeclare : Repeats ρ (Build.edit fun t => t.declareType s name doc shape)
      (Build.edit fun t => t.declareType (ρ.scope s) name doc shape) := by
    refine declare hs.known (.inr ⟨.type (s.nameOf name) doc shape [], fun _ => rfl, fun t => ?_⟩)
    rw [Recast.declaration, Scope.nameOf, hs.named, hshape]
    rfl
  exact Parallel.seq hdeclare fun _ _ => Parallel.seq hbody fun _ _ => Parallel.done _ _

end Repeats

theorem literalsOf_recast (ρ : Recast) (owner : QualifiedName) (keepLiterals : Bool) (seen literals : List String) :
    Declaration.literalsOf (ρ.name owner) keepLiterals seen literals =
      (Declaration.literalsOf owner keepLiterals seen literals).mapError ρ.fault := by
  induction literals generalizing seen with
  | nil => rfl
  | cons literal rest ih =>
      rw [Declaration.literalsOf, Declaration.literalsOf]
      by_cases hseen : Naming.constantName literal ∈ seen
      · rw [if_pos hseen, if_pos hseen]
        rfl
      · rw [if_neg hseen, if_neg hseen, ih]
        cases Declaration.literalsOf owner keepLiterals (Naming.constantName literal :: seen) rest <;> rfl

theorem metadata_literalsOf {owner : QualifiedName} {keepLiterals : Bool} {seen literals : List String}
    {entries : List EnumLiteral} (h : Declaration.literalsOf owner keepLiterals seen literals = .ok entries) :
    ∀ l ∈ entries, l.metadata = [] := by
  induction literals generalizing seen entries with
  | nil =>
      obtain rfl := Except.ok.inj h
      simp
  | cons literal rest ih =>
      rw [Declaration.literalsOf] at h
      split at h
      · cases h
      · obtain ⟨others, hothers, h⟩ := Outcome.bind_ok.1 h
        obtain rfl := Outcome.pure_ok.1 h
        exact List.forall_mem_cons.2 ⟨rfl, ih hothers⟩

namespace Plan

/-- Two plans for the same description whose names and literals correspond. -/
structure Recasts (ρ : Recast) (p p' : Plan) : Prop where
  resolver : Resolver.Recasts ρ p.resolver p'.resolver
  keepLiterals : p'.keepLiterals = p.keepLiterals
  annotated : ∀ l : EnumLiteral, l.metadata = [] →
    ρ.literal (Extension.annotateAll p.extensions l) = Extension.annotateAll p'.extensions l

variable {ρ : Recast} {p p' : Plan} {s : Scope}

theorem field_recasts (h : Recasts ρ p p') (property : Schema.Property SchemaType) :
    p'.field property = (p.field property).map ρ.field := by
  rw [field, field, h.resolver.registry, h.resolver.propertyType]
  cases p.resolver.registry.resolveType property.type with
  | error unknown => rfl
  | ok resolved =>
      cases p.resolver.propertyType property.type with
      | error fault => rfl
      | ok type =>
          cases property.description <;> rfl

theorem repeats_enum (h : Recasts ρ p p') (hs : ρ.Fills s.package) (place : Schema.Place) (literals : List String)
    (doc : Doc) :
    Repeats ρ (p.createEnum s place literals doc) (p'.createEnum (ρ.scope s) place literals doc) := by
  have hname : (ρ.scope s).nameOf (Naming.typeName place.name) = ρ.name (s.nameOf (Naming.typeName place.name)) :=
    (hs.named _ _).symm
  rw [createEnum, createEnum, h.keepLiterals]
  simp only [hname, literalsOf_recast]
  refine Parallel.ofExcept_bind (fun entries hentries => ⟨entries, by rw [hentries]; rfl, ?_⟩)
    fun fault hfault => ⟨ρ.fault fault, by rw [hfault]; rfl, rfl⟩
  refine Parallel.seq (Parallel.notes Repeats.onTrees _ _) fun _ _ => ?_
  have hliterals : entries.map (Extension.annotateAll p'.extensions) =
      (entries.map (Extension.annotateAll p.extensions)).map ρ.literal := by
    rw [List.map_map]
    exact List.map_congr_left fun l hl => (h.annotated l (metadata_literalsOf hentries l hl)).symm
  rw [hliterals]
  exact Repeats.declareEnum hs _ _ _

theorem binding_of_field {property : Schema.Property SchemaType} {failure : Failure}
    (h : p.field property = .error failure) : ∃ fault, failure = .binding fault := by
  rw [field] at h
  cases hresolved : p.resolver.registry.resolveType property.type with
  | error unknown =>
      rw [hresolved] at h
      exact ⟨_, (Except.error.inj h).symm⟩
  | ok resolved =>
      cases htype : p.resolver.propertyType property.type with
      | error fault =>
          rw [hresolved, htype] at h
          exact ⟨_, (Except.error.inj h).symm⟩
      | ok type =>
          rw [hresolved, htype] at h
          cases h

theorem repeats_field (h : Recasts ρ p p') (hs : ρ.Known s.package) (property : Schema.Property SchemaType) :
    Repeats ρ (p.createField s property) (p'.createField (ρ.scope s) property) := by
  rw [createField, createField, field_recasts h]
  refine Parallel.ofExcept_bind
    (fun field hfield => ⟨ρ.field field, by rw [hfield]; rfl, Repeats.createField hs field⟩) fun failure hfailure => ?_
  obtain ⟨fault, rfl⟩ := binding_of_field hfailure
  exact ⟨_, by rw [hfailure]; rfl, rfl⟩

mutual

theorem repeats_inline (h : Recasts ρ p p') : ∀ {s : Scope} (type : SchemaType), ρ.Fills s.package →
    Repeats ρ (p.createInline s type) (p'.createInline (ρ.scope s) type)
  | s, .object place properties doc, hs => by
      simp only [createInline]
      exact Parallel.seq (Repeats.createType hs ρ.shape_dataClass (repeats_members h properties hs)) fun _ _ =>
        Parallel.done _ _
  | s, .enumeration place literals doc, hs => by
      simp only [createInline]
      exact repeats_enum h hs place literals _
  | s, .array _ item _ _, hs => by
      simp only [createInline]
      exact repeats_inline h item hs
  | s, .primitive .., _ => by
      simp only [createInline]
      exact Parallel.done _ _
  | s, .reference _, _ => by
      simp only [createInline]
      exact Parallel.done _ _

theorem repeats_members (h : Recasts ρ p p') : ∀ {s : Scope} (properties : List (Schema.Property SchemaType)),
    ρ.Fills s.package → Repeats ρ (p.createMembers s properties) (p'.createMembers (ρ.scope s) properties)
  | s, [], _ => by
      simp only [createMembers]
      exact Parallel.done _ _
  | s, ⟨name, type, required, description⟩ :: rest, hs => by
      simp only [createMembers]
      exact Parallel.seq (repeats_inline h type hs) fun _ _ =>
        Parallel.seq (repeats_field h hs.known _) fun _ _ => repeats_members h rest hs

end

theorem repeats_payload (h : Recasts ρ p p') (hs : ρ.Fills s.package) (message : Schema.Message) :
    Repeats ρ (p.createPayload s message) (p'.createPayload (ρ.scope s) message) := by
  rw [createPayload_eq, createPayload_eq]
  cases message.payload.place? with
  | some place =>
      have hfield : ρ.field (payloadField (.plain (s.nameOf (Naming.typeName place.name)))) =
          payloadField (.plain ((ρ.scope s).nameOf (Naming.typeName place.name))) := by
        rw [Recast.field, payloadField, ρ.expression_plain, Scope.nameOf, hs.named]
        rfl
      dsimp only
      rw [← hfield]
      exact Parallel.seq (repeats_inline h message.payload hs) fun _ _ => Repeats.createField hs.known _
  | none =>
      by_cases harray : message.payload.kind = "array"
      · simp only [if_pos harray]
        exact Parallel.thrown rfl
      · simp only [if_neg harray, h.resolver.propertyType]
        exact Parallel.ofExcept_bind
          (fun type htype => ⟨ρ.expression type, by rw [htype]; rfl, Repeats.createField hs.known (payloadField type)⟩)
          fun fault hfault => ⟨fault, by rw [hfault]; rfl, rfl⟩

theorem repeats_message (h : Recasts ρ p p') (hs : ρ.Fills s.package) (message : Schema.Message) :
    Repeats ρ (p.createMessage s message) (p'.createMessage (ρ.scope s) message) :=
  Parallel.seq (Repeats.createType hs ρ.shape_dataClass
    (repeats_payload (s := s.child (Naming.typeName message.name)) h hs message)) fun _ _ => Parallel.done _ _

theorem repeats_component (h : Recasts ρ p p') (hs : ρ.Fills s.package) (type : SchemaType) :
    Repeats ρ (p.createComponent s type) (p'.createComponent (ρ.scope s) type) := by
  cases type with
  | primitive name kind doc => exact Parallel.note Repeats.onTrees _ _
  | _ => exact repeats_inline h _ hs

end Plan

namespace Connector

variable {ρ : Recast} {r r' : Resolver} {d : Definitions} {role : Role} {s : Scope}

theorem offer_recasts (h : Resolver.Recasts ρ r r') (role : Role) (t : Topic) :
    (Connector.mk r' d).offer role t = ((Connector.mk r d).offer role t).map (Option.map ρ.expression) := by
  rw [offer, offer]
  cases role.sent t with
  | none =>
      cases role.received t with
      | none => rfl
      | some into =>
          simp only [h.messageType]
          cases r.messageType into with
          | error fault => rfl
          | ok e => simp [bind, Except.bind, pure, Except.pure, Except.map, subscribe, Recast.expression_external, Recast.expressions]
  | some out =>
      cases role.received t with
      | none =>
          simp only [h.messageType]
          cases r.messageType out with
          | error fault => rfl
          | ok e => simp [bind, Except.bind, pure, Except.pure, Except.map, publish, Recast.expression_external, Recast.expressions]
      | some into =>
          simp only [h.messageType]
          cases r.messageType out with
          | error fault => rfl
          | ok first =>
              cases r.messageType into with
              | error fault => rfl
              | ok second =>
                  simp [bind, Except.bind, pure, Except.pure, Except.map, publishSubscribe, Recast.expression_external, Recast.expressions]

theorem topicMethod_recasts (h : Resolver.Recasts ρ r r') (role : Role) (t : Topic) :
    (Connector.mk r' d).topicMethod role t = ((Connector.mk r d).topicMethod role t).map (Option.map ρ.method) := by
  rw [topicMethod, topicMethod, offer_recasts h]
  cases (Connector.mk r d).offer role t with
  | error fault => rfl
  | ok type? => cases type? <;> rfl

theorem repeats_topicMethod (h : Resolver.Recasts ρ r r') (hs : ρ.Known s.package) (t : Topic) :
    Repeats ρ ((Connector.mk r d).createTopicMethod role s t)
      ((Connector.mk r' d).createTopicMethod role (ρ.scope s) t) := by
  rw [createTopicMethod, createTopicMethod, topicMethod_recasts h]
  refine Parallel.ofExcept_bind (fun method? hmethod => ⟨method?.map ρ.method, by rw [hmethod]; rfl, ?_⟩)
    fun fault hfault => ⟨fault, by rw [hfault]; rfl, rfl⟩
  cases method? with
  | none => exact Parallel.note Repeats.onTrees _ _
  | some method => exact Repeats.createMethod hs method

theorem rolePackage_recasts (h : Resolver.Recasts ρ r r') (role : Role) :
    ρ.Fills ((Connector.mk r d).rolePackage role) ∧
      (Connector.mk r' d).rolePackage role = ρ.package ((Connector.mk r d).rolePackage role) :=
  h.package (by cases role <;> decide)

theorem versionPackage_recasts (h : Resolver.Recasts ρ r r') (role : Role) (version : String) :
    ρ.Fills ((Connector.mk r d).versionPackage role version) ∧
      (Connector.mk r' d).versionPackage role version = ρ.package ((Connector.mk r d).versionPackage role version) := by
  rw [versionPackage_eq, versionPackage_eq]
  exact h.package (by cases role <;> simp [Role.packageName])

theorem repeats_service (h : Resolver.Recasts ρ r r') (hs : ρ.Fills s.package) (service : String × List Topic) :
    Repeats ρ
      (Build.createType s (Service.typeName service.1) ⟨none, none⟩ Shape.protocol fun scope =>
        service.2.forM ((Connector.mk r d).createTopicMethod role scope))
      (Build.createType (ρ.scope s) (Service.typeName service.1) ⟨none, none⟩ Shape.protocol fun scope =>
        service.2.forM ((Connector.mk r' d).createTopicMethod role scope)) :=
  Repeats.createType hs ρ.shape_protocol (Parallel.forM (List.forall₂_same.2 fun t _ =>
    repeats_topicMethod (s := s.child _) h hs.known t))

theorem repeats_services (h : Resolver.Recasts ρ r r') (version : String)
    (services : Entries String (List Topic)) :
    Repeats ρ ((Connector.mk r d).createServices role version services)
      ((Connector.mk r' d).createServices role version services) := by
  obtain ⟨hfills, hpackage⟩ := versionPackage_recasts (d := d) h role version
  rw [createServices, createServices, hpackage]
  refine Repeats.openPackage_bind hfills.known (Parallel.forM (List.forall₂_same.2 fun service _ => ?_))
  exact Parallel.seq (repeats_service (s := .ofPackage _) h hfills service) fun _ _ => Parallel.done _ _

theorem method_accessor_recast (name : String) (type : QualifiedName) (summary : Option String)
    (delegateTo : List String) : ρ.method (accessor name type summary delegateTo) =
      accessor name (ρ.name type) summary delegateTo :=
  rfl

theorem name_serviceName_recast (h : Resolver.Recasts ρ r r') (role : Role) (version service : String) :
    ρ.name ((Connector.mk r d).serviceName role version service) =
      (Connector.mk r' d).serviceName role version service := by
  obtain ⟨hfills, hpackage⟩ := versionPackage_recasts (d := d) h role version
  rw [serviceName, serviceName, QualifiedName.inPackage, hfills.named, hpackage]
  rfl

theorem method_latestMethod_recast (h : Resolver.Recasts ρ r r') (role : Role) (typeName : String)
    (latest : Service.Latest) : ρ.method ((Connector.mk r d).latestMethod role typeName latest) =
      (Connector.mk r' d).latestMethod role typeName latest := by
  rw [latestMethod, method_accessor_recast, name_serviceName_recast h]
  rfl

theorem method_serviceMethod_recast (h : Resolver.Recasts ρ r r') (role : Role) (version service : String) :
    ρ.method ((Connector.mk r d).serviceMethod role version service) =
      (Connector.mk r' d).serviceMethod role version service := by
  rw [serviceMethod, method_accessor_recast, name_serviceName_recast h]
  rfl

theorem repeats_version (h : Resolver.Recasts ρ r r') (hs : ρ.Fills s.package) (version : String)
    (services : List String) :
    Repeats ρ ((Connector.mk r d).createVersion role s version services)
      ((Connector.mk r' d).createVersion role (ρ.scope s) version services) := by
  have hmethod : ρ.method (versionMethod s version) = versionMethod (ρ.scope s) version := by
    rw [versionMethod, method_accessor_recast, Scope.nameOf, hs.named]
    rfl
  rw [createVersion, createVersion, ← hmethod]
  refine Parallel.seq (Repeats.createType hs ρ.shape_protocol ?_) fun _ _ => Repeats.createMethod hs.known _
  refine Parallel.forM (List.forall₂_same.2 fun service _ => ?_)
  rw [← method_serviceMethod_recast h]
  exact Repeats.createMethod (s := s.child _) hs.known _

theorem repeats_assemble (h : Resolver.Recasts ρ r r') (role : Role) :
    Repeats ρ ((Connector.mk r d).assemble role) ((Connector.mk r' d).assemble role) := by
  obtain ⟨hfills, hpackage⟩ := rolePackage_recasts (d := d) h role
  rw [assemble, assemble, hpackage]
  refine Parallel.seq (Parallel.forM (List.forall₂_same.2 fun version _ => repeats_services h _ _)) fun _ _ => ?_
  refine Repeats.openPackage_bind hfills.known (Parallel.seq ?_ fun _ _ => Parallel.done _ _)
  refine Repeats.createType (s := .ofPackage _) hfills ρ.shape_protocol (Parallel.seq ?_ fun _ _ => ?_)
  · exact Parallel.forM (List.forall₂_same.2 fun version _ => repeats_version h hfills _ _)
  · refine Parallel.forM (List.forall₂_same.2 fun entry _ => ?_)
    have hmethod := Repeats.createMethod (s := (Scope.ofPackage _).child role.typeName) hfills.known
      ((Connector.mk r d).latestMethod role entry.1 entry.2)
    rwa [method_latestMethod_recast h] at hmethod

end Connector

theorem repeats_schema {ρ : Recast} {p p' : Plan} (h : Plan.Recasts ρ p p') (s : Schema) (d : Definitions) :
    Repeats ρ (declareSchema s p d) (declareSchema s p' d) := by
  obtain ⟨hroot, hrootPackage⟩ := h.resolver.root
  obtain ⟨hmessages, hmessagesPackage⟩ := @h.resolver.package Schema.messagesSpace (by decide)
  obtain ⟨htypes, htypesPackage⟩ := @h.resolver.package Schema.typesSpace (by decide)
  rw [declareSchema, declareSchema, hrootPackage, hmessagesPackage, htypesPackage]
  refine Repeats.openPackage_bind hroot (Parallel.seq (Repeats.noteMetadata hroot _) fun _ _ => ?_)
  refine Repeats.openPackage_bind hmessages.known (Parallel.seq ?_ fun _ _ => ?_)
  · exact Parallel.forM (List.forall₂_same.2 fun entry _ => Plan.repeats_message h (s := .ofPackage _) hmessages _)
  refine Repeats.openPackage_bind htypes.known (Parallel.seq ?_ fun _ _ => ?_)
  · exact Parallel.forM (List.forall₂_same.2 fun type _ => Plan.repeats_component h (s := .ofPackage _) htypes _)
  · exact Parallel.forM (List.forall₂_same.2 fun role _ => Connector.repeats_assemble h.resolver role)

end Generation

end TopicBindings
