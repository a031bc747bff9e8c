import TopicBindings.Proofs.Declaration.Steps
import TopicBindings.Proofs.Generation.Confined
import TopicBindings.Proofs.Registry
import TopicBindings.Proofs.Source.Imports
import TopicBindings.Proofs.Source.Location

/-!
Nothing in the generated source points nowhere: every generated name that the tree of a run mentions is
declared in it, the reference to the name leads to the declaration, and the modules that mention it import
the module that it is in.
-/

namespace TopicBindings.Generation

open Binding (QualifiedName Resolver)
open Build (Stage)
open Declaration (Confined Scope Tree mentions nodes nodesAll)
open Schema (Message MessageRef SchemaType)
open Service (Definitions Role)

def Declares (t : Tree) (n : QualifiedName) : Prop :=
  ∃ d ∈ t.nodes, d.qualifiedName? = some n

def Holds (t : Tree) (stages : List Stage) : Prop :=
  ∀ stage ∈ stages, ∀ d ∈ nodesAll stage.2, d ∈ t.nodes

theorem names_of_mirrors {r : Resolver} {t : Tree} {types : List SchemaType}
    (h : ∀ type ∈ types, ∃ d ∈ t.nodes, Mirrors r type d) : r.Names (Declares t) types := by
  intro type htype name hname
  obtain ⟨d, hd, hm⟩ := h type htype
  obtain ⟨other, hother, hq⟩ := hm.outputName
  obtain rfl := Except.ok.inj (hother.symm.trans hname)
  exact ⟨d, hd, hq⟩

namespace Plan

variable {p : Plan} {s : Schema} {d : Definitions} {stages : List Stage} {t : Tree}

theorem names_component (hplaced : s.Placed) (hstages : p.SchemaStages s d stages) (ht : Holds t stages)
    {type : Schema.DeclaredType} (htype : type ∈ s.types) :
    p.resolver.Names (Declares t) type.val.structured := by
  obtain ⟨messages, types, roles, -, htypes, -, rfl⟩ := hstages
  obtain ⟨part, hpart, hsub⟩ := htypes.part_of_mem htype
  have hmirrors := mirrors_inline type.val (hplaced.types type htype) hpart
  refine names_of_mirrors fun inner hinner => ?_
  obtain ⟨e, he, hm⟩ := exists_mirror hmirrors hinner
  obtain ⟨unit, hunit, he⟩ := Declaration.mem_nodesAll.1 he
  exact ⟨e, ht _ (.tail _ (.head _)) e (Declaration.mem_nodesAll.2 ⟨unit, hsub unit hunit, he⟩), hm⟩

theorem names_payload (hplaced : s.Placed) (hstages : p.SchemaStages s d stages) (ht : Holds t stages)
    {entry : String × Message} (hentry : entry ∈ allMessages s) :
    p.resolver.Names (Declares t) entry.2.payload.structured := by
  obtain ⟨messages, types, roles, hmessages, -, -, rfl⟩ := hstages
  refine names_of_mirrors fun inner hinner => ?_
  obtain ⟨e, he, hm⟩ := mirrors_messages hplaced hmessages hentry hinner
  exact ⟨e, ht _ (.head _) e he, hm⟩

theorem declares_message (hstages : p.SchemaStages s d stages) (ht : Holds t stages)
    {entry : String × Message} (hentry : entry ∈ allMessages s) :
    Declares t (.inPackage p.messagesPackage (Naming.typeName entry.2.name)) := by
  obtain ⟨messages, types, roles, hmessages, -, -, rfl⟩ := hstages
  obtain ⟨part, ⟨inner, -, rfl⟩, hsub⟩ := hmessages.part_of_mem hentry
  exact ⟨_, ht _ (.head _) _ (Declaration.mem_nodesAll.2 ⟨_, hsub _ (.head _), .head _⟩), rfl⟩

theorem declares_carried (hregistry : Registry.ofSchema s = .ok p.resolver.registry)
    (hstages : p.SchemaStages s d stages) (ht : Holds t stages) {topic : Topic} (htopic : topic ∈ s.topics)
    {ref : MessageRef} (href : some ref ∈ [topic.publish, topic.subscribe]) {message : Message}
    (hmessage : p.resolver.registry.lookupMessage ref = .ok message) :
    Declares t (.inPackage p.messagesPackage (Naming.typeName message.name)) := by
  cases ref with
  | named name =>
      obtain ⟨hm, -⟩ := Registry.mem_of_lookupMessage hregistry hmessage
      have hclass := declares_message hstages ht (mem_allMessages hm)
      exact hclass
  | inline inner =>
      obtain rfl := Except.ok.inj hmessage
      obtain ⟨other, hother⟩ := exists_of_mem_topics htopic href
      obtain ⟨hname, -⟩ := of_mem_allMessages hother
      have hname : inner.name = other.name := hname
      have hclass := declares_message hstages ht hother
      rw [hname]
      exact hclass

theorem declares_service (hstages : p.SchemaStages s d stages) (ht : Holds t stages) {role : Role}
    (hrole : role ∈ Role.all) {label service : String} (h : Service.Offered d.versions label service) :
    Declares t ((Connector.mk p.resolver d).serviceName role label service) := by
  obtain ⟨messages, types, roles, -, -, hroles, rfl⟩ := hstages
  obtain ⟨version, hversion, rfl, hservice⟩ := h
  obtain ⟨entry, hentry, rfl⟩ := List.mem_map.1 hservice
  obtain ⟨part, hpart, hsub⟩ := hroles.part_of_mem hrole
  obtain ⟨stage, hstage, inner, hinterface, -⟩ := Connector.interface_of_rolePackages hpart hversion hentry
  exact ⟨_, ht _ (.tail _ (.tail _ (hsub _ hstage))) _ (Declaration.mem_nodesAll.2 ⟨_, hinterface, .head _⟩), rfl⟩

theorem declares_version (hstages : p.SchemaStages s d stages) (ht : Holds t stages) {role : Role}
    (hrole : role ∈ Role.all) {version : String × Entries String (List Topic)}
    (hversion : version ∈ d.versions) :
    Declares t (((Connector.mk p.resolver d).entryScope role).nameOf
      (Connector.versionTypeName version.1)) := by
  obtain ⟨messages, types, roles, -, -, hroles, rfl⟩ := hstages
  obtain ⟨part, ⟨versions, -, rfl⟩, hsub⟩ := hroles.part_of_mem hrole
  have hstage := hsub _ (List.mem_append_right _ (.head _))
  have hmember : Declaration.type
      (((Connector.mk p.resolver d).entryScope role).nameOf (Connector.versionTypeName version.1))
      (Connector.versionDoc version.1) Declaration.Shape.protocol (version.2.keys.map fun service =>
        .method ((Connector.mk p.resolver d).serviceMethod role version.1 service)) ∈
      (Connector.mk p.resolver d).entryMembers role :=
    List.mem_append_left _ (List.mem_flatMap.2 ⟨version, hversion, .head _⟩)
  have hinner := Declaration.mem_nodesAll.2 ⟨_, hmember, .head _⟩
  exact ⟨_, ht _ (.tail _ (.tail _ hstage)) _
    (Declaration.mem_nodesAll.2 ⟨_, .head _, .tail _ hinner⟩), rfl⟩

variable {validate : Bool}

theorem supplied (haggregated : Service.aggregate s.topics validate = .ok d)
    (hregistry : Registry.ofSchema s = .ok p.resolver.registry) (hstages : p.SchemaStages s d stages)
    (ht : Holds t stages) {role : Role} (hrole : role ∈ Role.all) :
    (Connector.mk p.resolver d).Supplied role (Declares t) where
  messages topic htopic ref href e he := by
    obtain ⟨message, hmessage, he⟩ := Outcome.bind_ok.1 he
    obtain rfl := Outcome.pure_ok.1 he
    have htopic := (Service.filed_iff haggregated).1 htopic
    exact Binding.TypeExpression.within_plain fun _ =>
      declares_carried hregistry hstages ht htopic href (Outcome.mapError_ok.1 hmessage)
  services label service h := declares_service hstages ht hrole h
  versions version hversion := declares_version hstages ht hrole hversion
  latest := Service.offered_of_latest haggregated

/-- All that the stages of a description mention is among what they declare. -/
theorem confined_stages (hplaced : s.Placed) (haggregated : Service.aggregate s.topics validate = .ok d)
    (hregistry : Registry.ofSchema s = .ok p.resolver.registry) (htable : p.resolver.table = .standard)
    (hstages : p.SchemaStages s d stages) (ht : Holds t stages) :
    ∀ stage ∈ stages, ∀ e ∈ stage.2, Confined (Declares t) e := by
  have hfinds : p.resolver.Finds (Declares t) := ⟨htable, fun key type h =>
    names_component hplaced hstages ht (Registry.mem_of_lookupType hregistry h)⟩
  intro stage hstage e he
  rcases hstages.origin hstage with ⟨-, hmessages⟩ | ⟨-, htypes⟩ | ⟨role, hrole, part, hpart, hstage⟩
  · obtain ⟨entry, hentry, part, hpart, he⟩ := hmessages e he
    exact confined_message hfinds (placed_allMessages hplaced entry hentry)
      (names_payload hplaced hstages ht hentry) hpart e he
  · obtain ⟨type, htype, part, hpart, he⟩ := htypes e he
    exact confined_inline hfinds type.val (names_component hplaced hstages ht htype) hpart e he
  · exact (supplied haggregated hregistry hstages ht hrole).rolePackages hpart stage hstage e he

theorem confined_extras {extras : List Stage} (haggregated : Service.aggregate s.topics validate = .ok d)
    (hregistry : Registry.ofSchema s = .ok p.resolver.registry) (hstages : p.SchemaStages s d stages)
    (ht : Holds t stages) (hextras : p.ExtensionStages d extras) :
    ∀ stage ∈ extras, ∀ e ∈ stage.2, Confined (Declares t) e := by
  intro stage hstage e he
  obtain ⟨_, -, part, hpart, hstage⟩ := hextras.exists_of_mem hstage
  refine TopicLookup.confined_table hpart (fun topic htopic ref href name hname => ?_) stage hstage e he
  obtain ⟨message, hmessage, hname⟩ := Outcome.bind_ok.1 hname
  obtain rfl := Outcome.pure_ok.1 hname
  exact declares_carried hregistry hstages ht (Service.mem_of_classified haggregated htopic) href
    (Outcome.mapError_ok.1 hmessage)

theorem named_stages (hstages : p.SchemaStages s d stages) : ∀ stage ∈ stages, ∀ e ∈ stage.2, ∃ own,
    e.qualifiedName? = some ((Scope.ofPackage stage.1).nameOf (Naming.typeName own)) := by
  intro stage hstage e he
  rcases hstages.origin hstage with ⟨hpackage, hmessages⟩ | ⟨hpackage, htypes⟩ | ⟨role, -, part, hpart, hstage⟩
  · obtain ⟨entry, -, part, ⟨inner, -, rfl⟩, he⟩ := hmessages e he
    obtain rfl := List.mem_singleton.1 he
    rw [hpackage]
    exact ⟨entry.2.name, rfl⟩
  · obtain ⟨type, -, part, hpart, he⟩ := htypes e he
    rw [hpackage]
    exact named_of_inline type.val hpart e he
  · obtain ⟨versions, hversions, rfl⟩ := hpart
    rcases List.mem_append.1 hstage with hstage | hstage
    · obtain ⟨version, -, part, ⟨interfaces, hinterfaces, rfl⟩, hstage⟩ := hversions.exists_of_mem hstage
      obtain rfl := List.mem_singleton.1 hstage
      obtain ⟨service, -, part, ⟨inner, -, rfl⟩, he⟩ := hinterfaces.exists_of_mem he
      obtain rfl := List.mem_singleton.1 he
      exact ⟨service.1, rfl⟩
    · obtain rfl := List.mem_singleton.1 hstage
      obtain rfl := List.mem_singleton.1 he
      have hrole : role.typeName = Naming.typeName role.packageName := by
        cases role <;> decide +kernel
      refine ⟨role.packageName, ?_⟩
      rw [← hrole]
      rfl

theorem named_extras {extras : List Stage} (hextras : p.ExtensionStages d extras) :
    ∀ stage ∈ extras, ∀ e ∈ stage.2, ∃ own,
      e.qualifiedName? = some ((Scope.ofPackage stage.1).nameOf (Naming.typeName own)) := by
  intro stage hstage e he
  obtain ⟨_, -, part, ⟨rows, -, rfl⟩, hstage⟩ := hextras.exists_of_mem hstage
  obtain rfl := List.mem_singleton.1 hstage
  obtain rfl := List.mem_singleton.1 he
  have htable : TopicLookup.typeName = Naming.typeName TopicLookup.typeName := by decide +kernel
  refine ⟨TopicLookup.typeName, ?_⟩
  rw [← htable]
  rfl

end Plan

section Results

variable {s : Schema} {o : Options} {extensions : List Extension} {r : Result} {registry : Registry}

theorem Built.named (h : Built s o extensions r registry) (hextensions : ∀ e ∈ extensions, e = TopicLookup.extension) :
    ∀ unit ∈ r.tree.units, ∃ own,
      unit.2.qualifiedName? = some ((Scope.ofPackage unit.1).nameOf (Naming.typeName own)) := by
  obtain ⟨hsound, stages, extras, hstages, hextras, hmembers⟩ := h.complete hextensions
  intro unit hunit
  obtain ⟨ds, hds, hd⟩ := (mem_units_of_laid hsound hmembers).1 hunit
  rcases List.mem_append.1 hds with hds | hds
  · exact Plan.named_stages hstages _ hds _ hd
  · exact Plan.named_extras hextras _ hds _ hd

theorem Built.structured (h : Built s o extensions r registry)
    (hextensions : ∀ e ∈ extensions, e = TopicLookup.extension) : r.tree.Structured := by
  intro unit hunit
  obtain ⟨own, hown⟩ := h.named hextensions unit hunit
  rw [hown]
  rfl

theorem Built.titled (h : Built s o extensions r registry) (hextensions : ∀ e ∈ extensions, e = TopicLookup.extension) :
    Source.Titled r.tree := by
  intro unit hunit own hown
  obtain ⟨other, hother⟩ := h.named hextensions unit hunit
  exact ⟨other, Option.some.inj (hown.symm.trans (Declaration.memberName?_of_qualifiedName? hother))⟩

theorem Built.confined (h : Built s o extensions r registry) (hplaced : s.Placed)
    (hextensions : ∀ e ∈ extensions, e = TopicLookup.extension) :
    ∀ unit ∈ r.tree.units, Confined (Declares r.tree) unit.2 := by
  obtain ⟨hsound, stages, extras, hstages, hextras, hmembers⟩ := h.complete hextensions
  have hholds : Holds r.tree (stages ++ extras) := fun stage hs d hd =>
    (mem_nodes_of_laid hsound hmembers).2 ⟨stage, hs, hd⟩
  have hschema : Holds r.tree stages := fun stage hs => hholds stage (List.mem_append_left _ hs)
  intro unit hunit
  obtain ⟨ds, hds, hd⟩ := (mem_units_of_laid hsound hmembers).1 hunit
  rcases List.mem_append.1 hds with hds | hds
  · exact Plan.confined_stages hplaced h.aggregated h.registered rfl hstages hschema _ hds _ hd
  · exact Plan.confined_extras h.aggregated h.registered hstages hschema hextras _ hds _ hd

end Results

/-- Every generated name that a tree mentions is declared in it and located in its files, and every file that
is not that of a package is a module that imports what it mentions. -/
structure ReferencesClosed (t : Tree) (files : Entries Source.RelativePath String) : Prop where
  declared : ∀ unit ∈ t.units, ∀ n ∈ mentions unit.2, n.isGenerated = true → Declares t n
  located : ∀ unit ∈ t.units, ∀ n ∈ mentions unit.2, n.isGenerated = true → Source.Located t files n
  imported : ∀ file ∈ files, Source.IsPackageFile file ∨ ∃ unit ∈ t.units, ∃ name home,
    unit.2.qualifiedName? = some name ∧ Source.moduleName name = .ok home ∧
    Source.moduleText home unit.2 = .ok file.2 ∧ Source.ImportsAll home unit.2 file.2

theorem references_closed {text : String} {s : Schema} {o : Options} {extensions : List Extension}
    {r : Result} {files : Entries Source.RelativePath String} (hread : Schema.ofText text = .ok s)
    (hextensions : ∀ e ∈ extensions, e = TopicLookup.extension)
    (hrun : (run s o extensions).outcome = .ok r) (hfiles : r.files = .ok files) :
    ReferencesClosed r.tree files := by
  obtain ⟨registry, hbuilt⟩ := built_of_run hrun
  have hsound := (hbuilt.complete hextensions).1
  have hrender := Outcome.mapError_ok.1 hfiles
  have hconfined := hbuilt.confined (Schema.placed_of_text hread) hextensions
  refine ⟨hconfined, fun unit hunit n hn hgenerated => ?_, fun file hfile => ?_⟩
  · obtain ⟨d, hd, hq⟩ := hconfined unit hunit n hn hgenerated
    exact Source.located_of_mem_nodes hsound (hbuilt.titled hextensions) hrender hd hq hgenerated
  · rcases (Source.render_ok hrender).1.known file hfile with hpackage | ⟨unit, hunit, hmodule⟩
    · exact .inl hpackage
    · obtain ⟨name, segments, directory, hq, hsegments, -, -, htext⟩ := hmodule
      have hhome : Source.moduleName name = .ok (Text.join "." segments) := by
        rw [Source.moduleName, hsegments]
        rfl
      exact .inr ⟨unit, hunit, name, _, hq, hhome, htext, Source.importsAll_of_moduleText htext⟩

theorem references_closed_sample : ∃ r files,
    (run .sample sampleOptions [TopicLookup.extension]).outcome = .ok r ∧ r.files = .ok files ∧
      ReferencesClosed r.tree files := by
  obtain ⟨r, files, hr, hfiles⟩ := exists_sample_files
  exact ⟨r, files, hr, hfiles, references_closed Schema.sample_of_text (by simp) hr hfiles⟩

end TopicBindings.Generation
