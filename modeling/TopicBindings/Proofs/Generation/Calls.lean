import TopicBindings.Proofs.Declaration.Additions
import TopicBindings.Proofs.Generation.Mirror
import TopicBindings.Proofs.Generation.Repeats

/-!
The calls of extensions that a run makes. While a description is declared, every literal of every enumeration is shown to
all extensions, in the order of the declarations; nothing else is shown to them, and none of them is started.
-/

namespace TopicBindings

namespace Declaration

def enumerated (ds : List Declaration) : List (List EnumLiteral) :=
  ds.filterMap fun
    | .enumeration _ _ literals => some literals
    | _ => none

/-- The literals of each enumeration of a tree, in the order of the declarations. -/
def Tree.enumerations (t : Tree) : List (List EnumLiteral) :=
  enumerated t.nodes

theorem enumerated_append (ds es : List Declaration) : enumerated (ds ++ es) = enumerated ds ++ enumerated es :=
  List.filterMap_append

end Declaration

namespace Generation

open Build (Yields chained_extends runOn_bind_ok)
open Declaration (Doc EnumLiteral Scope Shape Tree enumerated nodesAll)
open Schema (Message Property SchemaType)
open Service (Definitions Role)

def Notice.isCall : Notice → Bool
  | .literalOffered .. | .extensionStarted _ => true
  | _ => false

def Workspace.calls (w : Workspace) : List Notice :=
  w.journal.filter Notice.isCall

/-- A successful run makes these calls, and its new packages come behind those that there were. -/
def Calls {α : Type} (b : Build α) (calls : List Notice) : Prop :=
  ∀ w a v, b.runOn w = (.ok a, v) → v.calls = w.calls ++ calls ∧ w.tree.names <+: v.tree.names

namespace Calls

variable {α β : Type} {b : Build α} {calls calls' : List Notice}

theorem done (a : α) : Calls (pure a) [] := by
  intro w c v hrun
  obtain ⟨-, rfl⟩ := Prod.mk.inj hrun
  exact ⟨(List.append_nil _).symm, List.prefix_rfl⟩

theorem note (notice : Notice) : Calls (Build.note notice) ([notice].filter Notice.isCall) := by
  intro w c v hrun
  obtain ⟨-, rfl⟩ := Prod.mk.inj hrun
  exact ⟨List.filter_append .., List.prefix_rfl⟩

theorem seq {f : α → Build β} (h : Calls b calls) (hf : ∀ a, Calls (f a) calls') :
    Calls (b >>= f) (calls ++ calls') := by
  intro w c v hrun
  obtain ⟨a, u, hb, hrun⟩ := runOn_bind_ok.1 hrun
  obtain ⟨hcalls, hnames⟩ := h w a u hb
  obtain ⟨hcalls', hnames'⟩ := hf a u c v hrun
  exact ⟨by rw [hcalls', hcalls, List.append_assoc], hnames.trans hnames'⟩

theorem before {f : α → Build β} (h : Calls b calls) (hf : ∀ a, Calls (f a) []) : Calls (b >>= f) calls := by
  simpa using seq h hf

theorem after {f : α → Build β} (h : Calls b []) (hf : ∀ a, Calls (f a) calls) : Calls (b >>= f) calls := by
  simpa using seq h hf

theorem ofExcept_bind {ε : Type} {wrap : ε → Failure} {e : Except ε α} {f : α → Build β}
    (h : ∀ a, e = .ok a → Calls (f a) calls) : Calls (Build.ofExcept wrap e >>= f) calls := by
  intro w c v hrun
  obtain ⟨a, u, he, hrun⟩ := runOn_bind_ok.1 hrun
  obtain ⟨rfl, rfl⟩ := Build.runOn_ofExcept_ok.1 he
  exact h a rfl u c v hrun

theorem forM {ι : Type} {f : ι → Build PUnit} {items : List ι} {calls : ι → List Notice}
    (h : ∀ item ∈ items, Calls (f item) (calls item)) : Calls (items.forM f) (items.flatMap calls) := by
  induction items with
  | nil => exact done _
  | cons item rest ih => exact seq (h item (.head _)) fun _ => ih fun i hi => h i (.tail _ hi)

theorem forM_none {ι : Type} {f : ι → Build PUnit} {items : List ι} (h : ∀ item ∈ items, Calls (f item) []) :
    Calls (items.forM f) [] := by
  have hcalls := forM h
  rwa [List.flatMap_eq_nil_iff.2 fun _ _ => rfl] at hcalls

theorem edit {change : Tree → Except Declaration.Fault Tree}
    (h : ∀ t t', change t = .ok t' → t'.names = t.names) : Calls (Build.edit change) [] := by
  intro w c v hrun
  obtain ⟨t', hchange, rfl⟩ := Build.runOn_edit_ok.1 hrun
  exact ⟨(List.append_nil _).symm, by rw [h _ _ hchange]⟩

theorem openPackage_bind {name : String} {f : Scope → Build β} (h : Calls (f (.ofPackage name)) calls) :
    Calls (Build.openPackage name >>= f) calls := by
  intro w c v hrun
  rw [Build.runOn_bind, Build.runOn_openPackage] at hrun
  obtain ⟨hcalls, hnames⟩ := h _ c v hrun
  refine ⟨hcalls, List.IsPrefix.trans ?_ hnames⟩
  show w.tree.names <+: (w.tree.openPackage name).names
  rw [Tree.names_openPackage]
  split
  · exact List.prefix_rfl
  · exact List.prefix_append _ _

theorem noteMetadata (package : String) (entries : Entries String String) :
    Calls (Build.noteMetadata package entries) [] := by
  intro w c v hrun
  obtain ⟨-, rfl⟩ := Prod.mk.inj hrun
  exact ⟨(List.append_nil _).symm, by rw [Tree.names_noteMetadata]⟩

section Declaring

variable {scope : Scope}

theorem names_declare {t t' : Tree} {new : Declaration} (h : t.declare scope new = .ok t') : t'.names = t.names := by
  rw [Tree.eq_of_declare h, Tree.names_extend]

theorem createField (field : Declaration.Field) : Calls (Build.createField scope field) [] :=
  edit fun t t' h => by
    rw [Tree.declareField] at h
    split at h
    · cases h
    · exact names_declare h

theorem createMethod (method : Declaration.Method) : Calls (Build.createMethod scope method) [] :=
  edit fun t t' h => by
    rw [Tree.declareMethod] at h
    split at h
    · cases h
    · exact names_declare h

theorem createType {name : String} {doc : Doc} {shape : Shape} {body : Scope → Build Unit}
    (h : Calls (body (scope.child name)) calls) : Calls (Build.createType scope name doc shape body) calls :=
  after (edit fun _ _ hd => names_declare hd) fun _ => before h fun _ => done _

end Declaring

end Calls

def literalLists (types : List SchemaType) : List (List String) :=
  types.filterMap fun
    | .enumeration _ literals _ => some literals
    | _ => none

theorem literalLists_append (types others : List SchemaType) :
    literalLists (types ++ others) = literalLists types ++ literalLists others :=
  List.filterMap_append

/-- The types that a run declares something for, in the order of the document: those of the messages, then the
components. -/
def declaredTypes (s : Schema) : List SchemaType :=
  ((allMessages s).flatMap fun entry => entry.2.payload.structured) ++ s.types.flatMap fun type => type.val.structured

def offersOf (extensions : List Extension) (enumerations : List (List EnumLiteral)) : List Notice :=
  enumerations.flatMap fun literals => literals.flatMap fun l => Extension.offers extensions l.bare

theorem offersOf_append (extensions : List Extension) (first second : List (List EnumLiteral)) :
    offersOf extensions (first ++ second) = offersOf extensions first ++ offersOf extensions second :=
  List.flatMap_append

theorem bare_annotateAll (extensions : List Extension) (l : EnumLiteral) :
    (Extension.annotateAll extensions l).bare = l.bare := by
  simp only [Extension.annotateAll]
  induction extensions generalizing l with
  | nil => rfl
  | cons e rest ih => exact ih _

theorem filter_isCall_offers (extensions : List Extension) (l : EnumLiteral) :
    (Extension.offers extensions l).filter Notice.isCall = Extension.offers extensions l := by
  refine List.filter_eq_self.2 fun notice hnotice => ?_
  obtain ⟨position, -, rfl⟩ := List.mem_map.1 hnotice
  rfl

namespace Plan

variable {p : Plan} {scope : Scope}

def callsFor (p : Plan) (ds : List Declaration) : List Notice :=
  offersOf p.extensions (enumerated (nodesAll ds))

theorem callsFor_append (ds es : List Declaration) : p.callsFor (ds ++ es) = p.callsFor ds ++ p.callsFor es := by
  rw [callsFor, Declaration.nodesAll_append, Declaration.enumerated_append, offersOf_append]
  rfl

theorem callsFor_type (name : Binding.QualifiedName) (doc : Doc) (shape : Shape) (members : List Declaration) :
    p.callsFor [.type name doc shape members] = p.callsFor members := by
  rw [callsFor, Declaration.nodesAll_singleton]
  rfl

theorem callsFor_field (ds : List Declaration) (field : Declaration.Field) :
    p.callsFor (.field field :: ds) = p.callsFor ds :=
  rfl

theorem callsFor_enumeration {entries : List EnumLiteral} (h : ∀ l ∈ entries, l.metadata = [])
    (name : Binding.QualifiedName) (doc : Doc) :
    p.callsFor [.enumeration name doc (entries.map (Extension.annotateAll p.extensions))] =
      entries.flatMap (Extension.offers p.extensions) := by
  have hentries : p.callsFor [.enumeration name doc (entries.map (Extension.annotateAll p.extensions))] =
      (entries.map (Extension.annotateAll p.extensions)).flatMap fun l => Extension.offers p.extensions l.bare :=
    List.append_nil _
  rw [hentries, List.flatMap_map]
  refine List.flatMap_congr fun l hl => ?_
  rw [bare_annotateAll, EnumLiteral.bare, ← h l hl]

theorem calls_enum {place : Schema.Place} {literals : List String} {doc : Doc} {entries : List EnumLiteral}
    (h : Declaration.literalsOf (scope.nameOf (Naming.typeName place.name)) p.keepLiterals [] literals = .ok entries) :
    Calls (p.createEnum scope place literals doc) (entries.flatMap (Extension.offers p.extensions)) := by
  refine Calls.ofExcept_bind fun found hfound => ?_
  obtain rfl := Except.ok.inj (h.symm.trans hfound)
  refine Calls.before ?_ fun _ => Calls.edit fun _ _ hd => Calls.names_declare hd
  intro w a v hrun
  rw [Build.runOn_notes] at hrun
  obtain ⟨-, rfl⟩ := Prod.mk.inj hrun
  refine ⟨?_, List.prefix_rfl⟩
  rw [Workspace.calls, List.filter_append, List.filter_flatMap]
  simp only [filter_isCall_offers]
  rfl

theorem calls_field (property : Property SchemaType) : Calls (p.createField scope property) [] :=
  Calls.ofExcept_bind fun field _ => Calls.createField field

mutual

theorem calls_inline : ∀ {scope : Scope} (type : SchemaType) {out : List Declaration},
    p.Inline scope type out → Calls (p.createInline scope type) (p.callsFor out)
  | scope, .object place properties doc, _, h => by
      obtain ⟨inner, hinner, rfl⟩ := h
      rw [createInline, callsFor_type]
      exact Calls.before (Calls.createType (calls_members properties hinner)) fun _ => Calls.done _
  | scope, .enumeration place literals doc, _, h => by
      obtain ⟨entries, hentries, rfl⟩ := h
      rw [createInline, callsFor_enumeration (metadata_literalsOf hentries)]
      exact calls_enum hentries
  | scope, .array _ item _ _, _, h => by
      rw [createInline]
      exact calls_inline item h
  | scope, .primitive .., _, h => by
      rw [Inline] at h
      rw [createInline, h]
      exact Calls.done _
  | scope, .reference _, _, h => by
      rw [Inline] at h
      rw [createInline, h]
      exact Calls.done _

theorem calls_members : ∀ {scope : Scope} (properties : List (Property SchemaType)) {out : List Declaration},
    p.Members scope properties out → Calls (p.createMembers scope properties) (p.callsFor out)
  | scope, [], _, h => by
      rw [Members] at h
      rw [createMembers, h]
      exact Calls.done _
  | scope, ⟨name, type, required, description⟩ :: rest, _, h => by
      rw [Members] at h
      obtain ⟨first, field, others, hfirst, -, hothers, rfl⟩ := h
      rw [createMembers, callsFor_append, callsFor_field]
      exact Calls.seq (calls_inline type hfirst) fun _ => Calls.after (calls_field _) fun _ =>
        calls_members rest hothers

end

theorem calls_payload {message : Message} {out : List Declaration} (h : p.Payload scope message out) :
    Calls (p.createPayload scope message) (p.callsFor out) := by
  rw [payload_eq] at h
  rw [createPayload_eq]
  cases hplace : message.payload.place? with
  | some place =>
      rw [hplace] at h
      obtain ⟨first, hfirst, rfl⟩ := h
      rw [callsFor_append]
      exact Calls.seq (calls_inline _ hfirst) fun _ => Calls.createField _
  | none =>
      rw [hplace] at h
      by_cases harray : message.payload.kind = "array"
      · simp only [if_pos harray] at h
      · simp only [if_neg harray] at h ⊢
        obtain ⟨type, -, rfl⟩ := h
        exact Calls.ofExcept_bind fun _ _ => Calls.createField _

theorem calls_message {message : Message} {out : List Declaration} (h : p.MessageClass scope message out) :
    Calls (p.createMessage scope message) (p.callsFor out) := by
  obtain ⟨inner, hinner, rfl⟩ := h
  rw [createMessage, callsFor_type]
  exact Calls.before (Calls.createType (calls_payload hinner)) fun _ => Calls.done _

theorem calls_component {type : SchemaType} {out : List Declaration} (h : p.Inline scope type out) :
    Calls (p.createComponent scope type) (p.callsFor out) := by
  cases type with
  | primitive name kind doc =>
      rw [Inline] at h
      rw [h]
      exact Calls.note (.primitiveComponent name)
  | _ => exact calls_inline _ h

/-- Loops over items each of which adds something and makes the calls for it. -/
theorem calls_forM {ι : Type} {f : ι → Build PUnit} {P : ι → List Declaration → Prop} {items : List ι}
    {out : List Declaration} (hf : ∀ item part, P item part → Calls (f item) (p.callsFor part))
    (h : Each P items out) : Calls (items.forM f) (p.callsFor out) := by
  obtain ⟨parts, hparts, rfl⟩ := h
  induction hparts with
  | nil => exact Calls.done _
  | cons hpart _ ih =>
      rw [List.flatten_cons, callsFor_append]
      exact Calls.seq (hf _ _ hpart) fun _ => ih

/-- The literals of an enumeration in the description, and what they are declared as. -/
structure DeclaredAs (extensions : List Extension) (literals : List String) (entries : List EnumLiteral) : Prop where
  literals : entries.map EnumLiteral.literal = literals
  annotated : ∀ l ∈ entries, l = Extension.annotateAll extensions l.bare

mutual

theorem declaredAs_inline : ∀ {scope : Scope} (type : SchemaType) {out : List Declaration},
    p.Inline scope type out →
    List.Forall₂ (DeclaredAs p.extensions) (literalLists type.structured) (enumerated (nodesAll out))
  | _, .object place properties doc, _, h => by
      obtain ⟨inner, hinner, rfl⟩ := h
      rw [Declaration.nodesAll_singleton]
      exact declaredAs_members properties hinner
  | _, .enumeration place literals doc, _, h => by
      obtain ⟨entries, hentries, rfl⟩ := h
      refine .cons ⟨?_, fun l hl => ?_⟩ .nil
      · rw [List.map_map, ← literals_of_literalsOf hentries]
        exact List.map_congr_left fun l _ => literal_annotateAll _ l
      · obtain ⟨entry, hentry, rfl⟩ := List.mem_map.1 hl
        rw [bare_annotateAll, EnumLiteral.bare, ← metadata_literalsOf hentries entry hentry]
  | _, .array _ item _ _, _, h => declaredAs_inline item h
  | _, .primitive .., _, h => by
      rw [Inline] at h
      subst h
      exact .nil
  | _, .reference _, _, h => by
      rw [Inline] at h
      subst h
      exact .nil

theorem declaredAs_members : ∀ {scope : Scope} (properties : List (Property SchemaType)) {out : List Declaration},
    p.Members scope properties out →
    List.Forall₂ (DeclaredAs p.extensions) (literalLists (Schema.SchemaType.structuredAll properties))
      (enumerated (nodesAll out))
  | _, [], _, h => by
      rw [Members] at h
      subst h
      exact .nil
  | _, ⟨_, type, _, _⟩ :: rest, _, h => by
      rw [Members] at h
      obtain ⟨first, field, others, hfirst, -, hothers, rfl⟩ := h
      rw [nodesAll_members_cons, Declaration.enumerated_append, Schema.SchemaType.structuredAll, literalLists_append]
      exact List.rel_append (declaredAs_inline type hfirst) (declaredAs_members rest hothers)

end

theorem declaredAs_payload {message : Message} {out : List Declaration} (h : p.Payload scope message out) :
    List.Forall₂ (DeclaredAs p.extensions) (literalLists message.payload.structured) (enumerated (nodesAll out)) := by
  obtain ⟨first, type, hfirst, rfl, -⟩ := exists_of_payload h
  rw [nodesAll_members_cons]
  simpa [nodesAll] using declaredAs_inline _ hfirst

theorem declaredAs_each {ι : Type} {P : ι → List Declaration → Prop} {spelled : ι → List SchemaType} {items : List ι}
    {out : List Declaration}
    (hP : ∀ item part, P item part →
      List.Forall₂ (DeclaredAs p.extensions) (literalLists (spelled item)) (enumerated (nodesAll part)))
    (h : Each P items out) :
    List.Forall₂ (DeclaredAs p.extensions) (literalLists (items.flatMap spelled)) (enumerated (nodesAll out)) := by
  obtain ⟨parts, hparts, rfl⟩ := h
  induction hparts with
  | nil => exact .nil
  | cons hpart _ ih =>
      rw [List.flatMap_cons, literalLists_append, List.flatten_cons, Declaration.nodesAll_append,
        Declaration.enumerated_append]
      exact List.rel_append (hP _ _ hpart) ih

end Plan

namespace Connector

variable {c : Connector} {role : Role}

theorem calls_assemble : Calls (c.assemble role) [] := by
  have hmethods : ∀ {ι : Type} {items : List ι} {scope : Scope} {method : ι → Declaration.Method},
      Calls (items.forM fun item => Build.createMethod scope (method item)) [] :=
    Calls.forM_none fun _ _ => Calls.createMethod _
  have htopic : ∀ scope t, Calls (c.createTopicMethod role scope t) [] := by
    intro scope t
    refine Calls.ofExcept_bind fun method? _ => ?_
    cases method? with
    | none => exact Calls.note (.silentTopic t.name role)
    | some method => exact Calls.createMethod method
  have hservices : ∀ version services, Calls (c.createServices role version services) [] := fun version services =>
    Calls.openPackage_bind (Calls.forM_none fun service _ =>
      Calls.before (Calls.createType (Calls.forM_none fun t _ => htopic _ t)) fun _ => Calls.done _)
  have hversion : ∀ scope version services, Calls (c.createVersion role scope version services) [] :=
    fun scope version services => Calls.after (Calls.createType hmethods) fun _ => Calls.createMethod _
  refine Calls.after (Calls.forM_none fun version _ => hservices _ _) fun _ => ?_
  refine Calls.openPackage_bind (Calls.before (Calls.createType ?_) fun _ => Calls.done _)
  exact Calls.after (Calls.forM_none fun version _ => hversion _ _ _) fun _ => hmethods

end Connector

section Schemas

variable {p : Plan} {s : Schema} {d : Definitions}

theorem calls_schema {messages types : List Declaration}
    (hmessages : Each (fun entry : String × Message => p.MessageClass (.ofPackage p.messagesPackage) entry.2)
      (allMessages s) messages)
    (htypes : Each (fun type : Schema.DeclaredType => p.Inline (.ofPackage p.typesPackage) type.val) s.types types) :
    Calls (declareSchema s p d) (p.callsFor messages ++ p.callsFor types) := by
  refine Calls.openPackage_bind (Calls.after (Calls.noteMetadata _ _) fun _ => ?_)
  refine Calls.openPackage_bind (Calls.seq ?_ fun _ => Calls.openPackage_bind (Calls.before ?_ fun _ => ?_))
  · exact Plan.calls_forM (fun entry _ hpart => Plan.calls_message hpart) hmessages
  · exact Plan.calls_forM (fun type _ hpart => Plan.calls_component hpart) htypes
  · exact Calls.forM_none fun role _ => Connector.calls_assemble

def KeepsNames {α : Type} (b : Build α) : Prop :=
  ∀ w a v, w.tree.Sound → b.runOn w = (.ok a, v) → v.tree.names = w.tree.names ∧ v.tree.Sound

theorem keepsNames_of_adds {α : Type} {b : Build α} {scope : Scope} {P : List Declaration → Prop}
    (h : Build.Adds b scope P) : KeepsNames b := by
  intro w a v hw hrun
  obtain ⟨out, -, hout, hv⟩ := h w a v hw hrun
  exact ⟨by rw [hout, Tree.names_extend], hv⟩

theorem keepsNames_noteMetadata (package : String) (entries : Entries String String) :
    KeepsNames (Build.noteMetadata package entries) := by
  intro w a v hw hrun
  obtain ⟨-, rfl⟩ := Prod.mk.inj hrun
  exact ⟨Tree.names_noteMetadata .., hw.noteMetadata package entries⟩

theorem names_of_opened {α : Type} {name : String} {f : Scope → Build α} {w v : Workspace} {a : α}
    (hf : KeepsNames (f (.ofPackage name))) (hw : w.tree.Sound) (hfree : name ∉ w.tree.names)
    (hrun : (Build.openPackage name >>= f).runOn w = (.ok a, v)) :
    v.tree.names = w.tree.names ++ [name] ∧ v.tree.Sound := by
  rw [Build.runOn_bind, Build.runOn_openPackage] at hrun
  obtain ⟨hnames, hsound⟩ := hf _ a v (hw.openPackage name) hrun
  rw [hnames, Tree.names_openPackage, if_neg hfree]
  exact ⟨rfl, hsound⟩

/-- The packages of the base, of the messages and of the types come first. -/
theorem names_schema {w v : Workspace} (hw : w.tree = .empty)
    (hrun : (declareSchema s p d).runOn w = (.ok (), v)) :
    [p.resolver.packageName none, p.messagesPackage, p.typesPackage] <+: v.tree.names := by
  -- The names are followed package by package, so the run is divided where it opens one.
  have hsplit : declareSchema s p d =
      (Build.openPackage (p.resolver.packageName none) >>= fun root =>
        Build.noteMetadata root.package (rootMetadata s.about)) >>= fun _ =>
      (Build.openPackage p.messagesPackage >>= fun messages =>
        (allMessages s).forM fun entry => p.createMessage messages entry.2) >>= fun _ =>
      (Build.openPackage p.typesPackage >>= fun types =>
        s.types.forM fun type => p.createComponent types type.val) >>= fun _ =>
      Role.all.forM (Connector.mk p.resolver d).assemble := by
    simp only [declareSchema, bind_assoc]
    rfl
  rw [hsplit] at hrun
  obtain ⟨_, u₁, hroot, hrun⟩ := runOn_bind_ok.1 hrun
  obtain ⟨_, u₂, hmessages, hrun⟩ := runOn_bind_ok.1 hrun
  obtain ⟨_, u₃, htypes, hroles⟩ := runOn_bind_ok.1 hrun
  obtain ⟨hnames₁, hsound₁⟩ := names_of_opened (keepsNames_noteMetadata _ _) (by rw [hw]; exact Tree.Sound.empty)
    (by simp [hw, Tree.names, Tree.empty]) hroot
  have hnames₁ : u₁.tree.names = [p.resolver.packageName none] := by
    rw [hnames₁, hw]
    rfl
  have hfree₂ : p.messagesPackage ∉ u₁.tree.names := by
    have hne : p.messagesPackage ≠ p.resolver.packageName none := p.resolver.packageName_ne_root (by decide)
    rw [hnames₁]
    simpa using hne
  obtain ⟨hnames₂, hsound₂⟩ := names_of_opened (keepsNames_of_adds (Yields.forM (chained_extends _)
    fun entry _ => p.adds_message _ entry.2)) hsound₁ hfree₂ hmessages
  rw [hnames₁] at hnames₂
  have hfree₃ : p.typesPackage ∉ u₂.tree.names := by
    have hne : p.typesPackage ≠ p.resolver.packageName none := p.resolver.packageName_ne_root (by decide)
    rw [hnames₂]
    simpa using ⟨hne, Plan.messagesPackage_ne_typesPackage.symm⟩
  obtain ⟨hnames₃, -⟩ := names_of_opened (keepsNames_of_adds (Yields.forM (chained_extends _)
    fun type _ => p.adds_component _ type.val)) hsound₂ hfree₃ htypes
  rw [hnames₂] at hnames₃
  obtain ⟨-, hprefix⟩ := Calls.forM_none (fun role _ => Connector.calls_assemble) _ _ _ hroles
  rw [hnames₃] at hprefix
  exact hprefix

section Enumerations

theorem enumerated_nodesAll_nil {ds : List Declaration} (h : ∀ d ∈ ds, enumerated (Declaration.nodes d) = []) :
    enumerated (nodesAll ds) = [] := by
  induction ds with
  | nil => rfl
  | cons d rest ih =>
      rw [nodesAll, Declaration.enumerated_append, h d (.head _), ih fun e he => h e (.tail _ he)]
      rfl

theorem enumerated_type {name : Binding.QualifiedName} {doc : Doc} {shape : Shape} {members : List Declaration}
    (h : ∀ d ∈ members, enumerated (Declaration.nodes d) = []) :
    enumerated (Declaration.nodes (.type name doc shape members)) = [] :=
  enumerated_nodesAll_nil h

theorem enumerated_of_role {c : Connector} {role : Role} {stages : List Build.Stage} (h : c.RolePackages role stages)
    {stage : Build.Stage} (hs : stage ∈ stages) : ∀ d ∈ stage.2, enumerated (Declaration.nodes d) = [] := by
  obtain ⟨versions, hversions, rfl⟩ := h
  -- The packages of versions hold interfaces of methods, the package of the role its nested interfaces.
  rcases List.mem_append.1 hs with hs | hs
  · obtain ⟨version, -, part, ⟨interfaces, hinterfaces, rfl⟩, hs⟩ := hversions.exists_of_mem hs
    obtain rfl := List.mem_singleton.1 hs
    intro d hd
    obtain ⟨service, -, part, ⟨inner, hinner, rfl⟩, hd⟩ := hinterfaces.exists_of_mem hd
    obtain rfl := List.mem_singleton.1 hd
    refine enumerated_type fun e he => ?_
    obtain ⟨t, -, part, ⟨method?, -, rfl⟩, he⟩ := hinner.exists_of_mem he
    obtain ⟨method, -, rfl⟩ := List.mem_map.1 (Option.toList_map ▸ he)
    rfl
  · obtain rfl := List.mem_singleton.1 hs
    intro d hd
    obtain rfl := List.mem_singleton.1 hd
    refine enumerated_type fun e he => ?_
    rcases List.mem_append.1 he with he | he
    · obtain ⟨version, -, he⟩ := List.mem_flatMap.1 he
      rcases List.mem_cons.1 he with rfl | he
      · refine enumerated_type fun f hf => ?_
        obtain ⟨service, -, rfl⟩ := List.mem_map.1 hf
        rfl
      · obtain rfl := List.mem_singleton.1 he
        rfl
    · obtain ⟨entry, -, rfl⟩ := List.mem_map.1 he
      rfl

theorem enumerations_eq {t : Tree} (ht : t.Sound) :
    t.enumerations = t.names.flatMap fun name => enumerated (nodesAll (t.members (.ofPackage name))) := by
  rw [Tree.enumerations, Tree.nodes, enumerated, List.filterMap_flatMap, Tree.names, List.flatMap_map]
  refine List.flatMap_congr fun entry hentry => ?_
  rw [Tree.members_package_of_mem ht.distinct hentry]
  rfl

/-- The enumerations of the tree are those of the messages and then those of the types. -/
theorem enumerations_of_laid {t : Tree} {messages types : List Declaration} {roles : List Build.Stage}
    (ht : t.Sound) (hnames : [p.resolver.packageName none, p.messagesPackage, p.typesPackage] <+: t.names)
    (hroles : Each (Connector.mk p.resolver d).RolePackages Role.all roles)
    (hmembers : ∀ package, t.members (.ofPackage package) =
      Build.under package ((p.messagesPackage, messages) :: (p.typesPackage, types) :: roles)) :
    t.enumerations = enumerated (nodesAll messages) ++ enumerated (nodesAll types) := by
  obtain ⟨others, hothers⟩ := hnames
  have hdistinct := ht.distinct
  rw [← hothers] at hdistinct
  have hspace : ∀ {space}, space ≠ "" → (∀ role : Role, ¬ role.packageName.toList <+: space.toList) →
      Build.under (p.resolver.packageName (some space)) roles = [] := fun hne hspace =>
    Build.under_of_ne (Connector.ne_space_of_roles hroles hne hspace)
  -- Only the packages of messages and of types hold enumerations, and nothing of a role is in these two.
  have hnone : ∀ name, enumerated (nodesAll (Build.under name roles)) = [] := by
    intro name
    refine enumerated_nodesAll_nil fun e he => ?_
    obtain ⟨ds, hs, he⟩ := Build.mem_under.1 he
    obtain ⟨role, -, part, hpart, hs⟩ := hroles.exists_of_mem hs
    exact enumerated_of_role hpart hs e he
  have hbeside : ∀ name, name ≠ p.messagesPackage → name ≠ p.typesPackage →
      enumerated (nodesAll (t.members (.ofPackage name))) = [] := by
    intro name hmessages htypes
    rw [hmembers, Build.under_cons, if_neg hmessages.symm, Build.under_cons, if_neg htypes.symm]
    exact hnone name
  have hmessages : t.members (.ofPackage p.messagesPackage) = messages := by
    rw [hmembers, Build.under_cons, if_pos rfl, Build.under_cons, if_neg Plan.messagesPackage_ne_typesPackage.symm,
      Plan.messagesPackage, hspace (by decide) (by intro role; cases role <;> decide)]
    simp
  have htypes : t.members (.ofPackage p.typesPackage) = types := by
    rw [hmembers, Build.under_cons, if_neg Plan.messagesPackage_ne_typesPackage, Build.under_cons, if_pos rfl,
      Plan.typesPackage, hspace (by decide) (by intro role; cases role <;> decide)]
    simp
  have hroot : enumerated (nodesAll (t.members (.ofPackage (p.resolver.packageName none)))) = [] :=
    hbeside _ (p.resolver.packageName_ne_root (by decide)).symm (p.resolver.packageName_ne_root (by decide)).symm
  have hrest : (others.flatMap fun name => enumerated (nodesAll (t.members (.ofPackage name)))) = [] := by
    refine List.flatMap_eq_nil_iff.2 fun name hname => ?_
    have hapart := (List.nodup_append.1 hdistinct).2.2
    exact hbeside name (fun he => hapart p.messagesPackage (by simp) name hname he.symm)
      fun he => hapart p.typesPackage (by simp) name hname he.symm
  rw [enumerations_eq ht, ← hothers, List.flatMap_append, hrest]
  simp [hroot, hmessages, htypes]

end Enumerations

end Schemas

end Generation

end TopicBindings
