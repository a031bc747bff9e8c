import TopicBindings.Proofs.Generation.Accessors
import TopicBindings.Proofs.Generation.Closure
import TopicBindings.Proofs.Generation.WireNames
import TopicBindings.Proofs.Naming.Edges

/-!
The form of what a description calls for. Apart from the table of topics, a run declares data classes, interfaces and
enumerations, at every depth; their members are fields, methods without decorators and more of these; and no name of
theirs has a low line at one of its ends.
-/

namespace TopicBindings.Generation

open Binding (QualifiedName)
open Build (Stage)
open Declaration (Doc Scope Shape entryOf)
open Naming (Trimmed constantName)
open Schema (Message Property SchemaType)
open Service (Definitions Dotted Role)

/-- A declaration of a form that descriptions lead to; its literals were shown to some extensions. -/
inductive Regular (extensions : List Extension) : Declaration → Prop where
  | type {name : QualifiedName} {doc : Doc} {shape : Shape} {members : List Declaration} :
      Trimmed name.name → shape = .dataClass ∨ shape = .protocol → (∀ d ∈ members, Regular extensions d) →
      Regular extensions (.type name doc shape members)
  | enumeration {name : QualifiedName} {doc : Doc} {keepLiterals : Bool} {literals : List String} :
      Trimmed name.name → (literals.map constantName).Nodup → Regular extensions
        (.enumeration name doc ((literals.map (entryOf keepLiterals)).map (Extension.annotateAll extensions)))
  | field {f : Declaration.Field} : Trimmed f.name → Regular extensions (.field f)
  | method {m : Declaration.Method} : Trimmed m.name → m.decorators = [] → Regular extensions (.method m)

theorem Regular.exists_trimmed {extensions : List Extension} {d : Declaration} (h : Regular extensions d) :
    ∃ name, d.memberName? = some name ∧ Trimmed name := by
  cases h with
  | type hname _ _ => exact ⟨_, rfl, hname⟩
  | enumeration hname _ => exact ⟨_, rfl, hname⟩
  | field hname => exact ⟨_, rfl, hname⟩
  | method hname _ => exact ⟨_, rfl, hname⟩

namespace Plan

variable {p : Plan}

mutual

theorem regular_inline : ∀ {scope : Scope} (type : SchemaType) {out : List Declaration}, p.Inline scope type out →
    ∀ d ∈ out, Regular p.extensions d
  | _, .object place properties doc, _, h, d, hd => by
      obtain ⟨inner, hinner, rfl⟩ := h
      obtain rfl := List.mem_singleton.1 hd
      exact .type (Naming.trimmed_typeName place.name) (.inl rfl) (regular_members properties hinner)
  | _, .enumeration place literals doc, _, h, d, hd => by
      obtain ⟨entries, hentries, rfl⟩ := h
      obtain rfl := List.mem_singleton.1 hd
      obtain ⟨hnodup, -, rfl⟩ := Declaration.literalsOf_ok_iff.1 hentries
      exact .enumeration (Naming.trimmed_typeName place.name) hnodup
  | _, .array _ item _ _, _, h, d, hd => regular_inline item h d hd
  | _, .primitive .., _, h, d, hd => by
      rw [Inline] at h
      rw [h] at hd
      cases hd
  | _, .reference _, _, h, d, hd => by
      rw [Inline] at h
      rw [h] at hd
      cases hd

theorem regular_members : ∀ {scope : Scope} (properties : List (Property SchemaType)) {out : List Declaration},
    p.Members scope properties out → ∀ d ∈ out, Regular p.extensions d
  | _, [], _, h, d, hd => by
      rw [Members] at h
      rw [h] at hd
      cases hd
  | _, ⟨name, type, required, description⟩ :: rest, _, h, d, hd => by
      rw [Members] at h
      obtain ⟨first, field, others, hfirst, hfield, hothers, rfl⟩ := h
      rcases List.mem_append.1 hd with hd | hd
      · exact regular_inline type hfirst d hd
      · rcases List.mem_cons.1 hd with rfl | hd
        · exact .field ((fieldOf_field hfield).name ▸ Naming.trimmed_lowerUnderscore name)
        · exact regular_members rest hothers d hd

end

theorem regular_payload {scope : Scope} {message : Message} {out : List Declaration} (h : p.Payload scope message out) :
    ∀ d ∈ out, Regular p.extensions d := by
  obtain ⟨first, type, hfirst, rfl, -⟩ := exists_of_payload h
  intro d hd
  rcases List.mem_append.1 hd with hd | hd
  · exact regular_inline _ hfirst d hd
  · obtain rfl := List.mem_singleton.1 hd
    exact .field (Naming.trimmed_of_not_mem (by decide : '_' ∉ "payload".toList))

theorem regular_message {scope : Scope} {message : Message} {out : List Declaration}
    (h : p.MessageClass scope message out) : ∀ d ∈ out, Regular p.extensions d := by
  obtain ⟨inner, hinner, rfl⟩ := h
  intro d hd
  obtain rfl := List.mem_singleton.1 hd
  exact .type (Naming.trimmed_typeName message.name) (.inl rfl) (regular_payload hinner)

end Plan

namespace Connector

section Versions

variable {label : String} (h : Dotted label)

include h

theorem dot_not_last : label.toList.getLast? ≠ some '.' := by
  intro hlast
  obtain ⟨front, hfront⟩ := List.getLast?_eq_some_iff.1 hlast
  have hlabel : label = String.ofList front ++ String.singleton '.' ++ "" :=
    String.toList_injective (by simpa using hfront)
  have hempty : "" ∈ Text.splitAt '.' label := by
    rw [hlabel, Text.splitAt_append_sep]
    exact List.mem_append_right _ (.head _)
  exact Topic.isNumeral_ne_empty (h "" hempty) rfl

theorem trimmed_of_label {first : Char} (hfirst : first ≠ '_') {name : String}
    (hname : name.toList = first :: label.toList.map fun c => if c = '.' then '_' else c) : Trimmed name := by
  rw [Trimmed, hname]
  refine ⟨by simpa using hfirst, fun hlast => ?_⟩
  rw [List.getLast?_cons, List.getLast?_map] at hlast
  cases hlabel : label.toList.getLast? with
  | none => exact hfirst (by simpa [hlabel] using hlast)
  | some c =>
      have hmem := List.mem_of_getLast? hlabel
      by_cases hdot : c = '.'
      · exact dot_not_last h (hdot ▸ hlabel)
      · obtain rfl : c = '_' := by simpa [hlabel, hdot] using hlast
        exact h.underscore_not_mem hmem

theorem trimmed_versionIdentifier : Trimmed (Naming.versionIdentifier label) :=
  trimmed_of_label h (by decide) (Service.toList_versionIdentifier label)

theorem trimmed_versionTypeName : Trimmed (versionTypeName label) :=
  trimmed_of_label h (by decide) (toList_versionTypeName h)

end Versions

variable {c : Connector} {role : Role} {extensions : List Extension}

theorem trimmed_methodName (c : Connector) (t : Topic) : Trimmed (c.methodName t) := by
  rw [methodName]
  cases c.definitions.information t with
  | none => exact Naming.trimmed_of_not_mem (by decide : '_' ∉ "".toList)
  | some information => exact Naming.trimmed_lowerCamel _

theorem regular_topicMethods {t : Topic} {out : List Declaration} (h : c.TopicMethods role t out) :
    ∀ d ∈ out, Regular extensions d := by
  obtain ⟨method?, hmethod, rfl⟩ := h
  obtain ⟨e?, -, hmap⟩ := Outcome.bind_ok.1 hmethod
  obtain rfl := Outcome.pure_ok.1 hmap
  intro d hd
  cases e? with
  | none => cases hd
  | some e =>
      obtain rfl := List.mem_singleton.1 hd
      exact .method (c.trimmed_methodName t) rfl

theorem regular_versionPackage {version : String × Entries String (List Topic)} {stages : List Stage}
    (h : c.VersionPackage role version stages) : ∀ stage ∈ stages, ∀ d ∈ stage.2, Regular extensions d := by
  obtain ⟨interfaces, hinterfaces, rfl⟩ := h
  intro stage hstage d hd
  obtain rfl := List.mem_singleton.1 hstage
  obtain ⟨service, -, part, ⟨inner, hinner, rfl⟩, hd⟩ := hinterfaces.exists_of_mem hd
  obtain rfl := List.mem_singleton.1 hd
  refine .type (Naming.trimmed_typeName service.1) (.inr rfl) fun d hd => ?_
  obtain ⟨t, -, part, hpart, hd⟩ := hinner.exists_of_mem hd
  exact regular_topicMethods hpart d hd

theorem regular_versionMembers {scope : Scope} {version : String} (h : Dotted version) (services : List String) :
    ∀ d ∈ c.versionMembers role scope version services, Regular extensions d := by
  intro d hd
  rcases List.mem_cons.1 hd with rfl | hd
  · refine .type (trimmed_versionTypeName h) (.inr rfl) fun d hd => ?_
    obtain ⟨service, -, rfl⟩ := List.mem_map.1 hd
    exact .method (Naming.trimmed_lowerCamel service) rfl
  · obtain rfl := List.mem_singleton.1 hd
    exact .method (trimmed_versionIdentifier h) rfl

theorem regular_entryPoint (h : ∀ version ∈ c.definitions.versions, Dotted version.1) :
    Regular extensions (c.entryPoint role) := by
  have hname : '_' ∉ role.typeName.toList := by cases role <;> decide
  refine .type (Naming.trimmed_of_not_mem hname) (.inr rfl) fun d hd => ?_
  rcases List.mem_append.1 hd with hd | hd
  · obtain ⟨version, hversion, hd⟩ := List.mem_flatMap.1 hd
    exact regular_versionMembers (h version hversion) _ d hd
  · obtain ⟨entry, -, rfl⟩ := List.mem_map.1 hd
    exact .method (Naming.trimmed_lowerCamel entry.2.service) rfl

theorem regular_rolePackages (h : ∀ version ∈ c.definitions.versions, Dotted version.1) {stages : List Stage}
    (hstages : c.RolePackages role stages) : ∀ stage ∈ stages, ∀ d ∈ stage.2, Regular extensions d := by
  obtain ⟨versions, hversions, rfl⟩ := hstages
  intro stage hstage d hd
  rcases List.mem_append.1 hstage with hstage | hstage
  · obtain ⟨version, -, part, hpart, hstage⟩ := hversions.exists_of_mem hstage
    exact regular_versionPackage hpart stage hstage d hd
  · obtain rfl := List.mem_singleton.1 hstage
    obtain rfl := List.mem_singleton.1 hd
    exact regular_entryPoint h

end Connector

theorem Plan.regular_stages {p : Plan} {s : Schema} {d : Definitions} {validate : Bool} {stages : List Stage}
    (haggregated : Service.aggregate s.topics validate = .ok d) (hstages : p.SchemaStages s d stages) :
    ∀ stage ∈ stages, ∀ e ∈ stage.2, Regular p.extensions e := by
  intro stage hstage e he
  rcases hstages.origin hstage with ⟨-, hmessages⟩ | ⟨-, htypes⟩ | ⟨role, -, part, hpart, hstage⟩
  · obtain ⟨entry, -, part, hpart, he⟩ := hmessages e he
    exact regular_message hpart e he
  · obtain ⟨type, -, part, hpart, he⟩ := htypes e he
    exact regular_inline type.val hpart e he
  · exact Connector.regular_rolePackages (fun _ => Service.dotted_of_mem haggregated) hpart stage hstage e he

def TopicLookup.IsTable (c : Context) (unit : String × Declaration) : Prop :=
  ∃ rows, c.definitions.topics.keys.mapM (TopicLookup.entries c) = .ok rows ∧
    unit = (TopicLookup.packageName c, .type ((Scope.ofPackage (TopicLookup.packageName c)).nameOf TopicLookup.typeName)
      TopicLookup.doc Shape.plain [.raw (TopicLookup.content rows)])

section Results

variable {s : Schema} {o : Options} {extensions : List Extension} {r : Result} {registry : Registry}

theorem Built.laid_or_table (h : Built s o extensions r registry)
    (hextensions : ∀ e ∈ extensions, e = TopicLookup.extension) : ∀ unit ∈ r.tree.units,
      (∃ stages ds, (o.plan s registry extensions .standard).SchemaStages s r.definitions stages ∧
        (unit.1, ds) ∈ stages ∧ unit.2 ∈ ds) ∨ extensions ≠ [] ∧
        TopicLookup.IsTable ⟨(o.plan s registry extensions .standard).resolver, r.definitions⟩ unit := by
  obtain ⟨hsound, stages, extras, hstages, hextras, hmembers⟩ := h.complete hextensions
  rintro ⟨package, d⟩ hunit
  obtain ⟨ds, hds, hd⟩ := (mem_units_of_laid hsound hmembers).1 hunit
  rcases List.mem_append.1 hds with hds | hds
  · exact .inl ⟨stages, ds, hstages, hds, hd⟩
  · obtain ⟨e, he, part, ⟨rows, hrows, rfl⟩, hstage⟩ := hextras.exists_of_mem hds
    obtain ⟨rfl, rfl⟩ := Prod.mk.inj (List.mem_singleton.1 hstage)
    obtain rfl := List.mem_singleton.1 hd
    exact .inr ⟨List.ne_nil_of_mem he, rows, hrows, rfl⟩

theorem Built.regular (h : Built s o [] r registry) : ∀ unit ∈ r.tree.units, Regular [] unit.2 := by
  intro unit hunit
  rcases h.laid_or_table (by simp) unit hunit with ⟨stages, ds, hstages, hds, hd⟩ | ⟨hsome, -⟩
  · exact Plan.regular_stages h.aggregated hstages _ hds _ hd
  · exact absurd rfl hsome

end Results

end TopicBindings.Generation
