import TopicBindings.Proofs.Generation.Assembled

/-!
The access to the latest version of a service. It calls the access to a version and, on what that returns, the
access to a service, and both ways end at the same interface.
-/

namespace TopicBindings

namespace Declaration

theorem names_sublist (ds : List Declaration) :
    ((methods ds).map Method.name).Sublist (ds.filterMap memberName?) := by
  induction ds with
  | nil => exact .slnil
  | cons d rest ih =>
      cases d with
      | method m => exact ih.cons_cons m.name
      | type name doc shape members => exact ih.cons name.name
      | enumeration name doc literals => exact ih.cons name.name
      | field f => exact ih.cons f.name
      | raw content => exact ih

/-- A chain of calls that is well typed: every name is that of one method alone, and each but the last of them
returns an interface declared right there, to which the rest of the chain belongs. -/
inductive Leads (t : Tree) : List Declaration → List String → Binding.TypeExpression → Prop
  | last {members : List Declaration} {name : String} {m : Method} {e : Binding.TypeExpression} :
      members.filter (fun d => d.memberName? = some name) = [.method m] → m.returns = some e →
      Leads t members [name] e
  | step {members inner : List Declaration} {name : String} {m : Method} {nested : Binding.QualifiedName}
      {doc : Doc} {rest : List String} {e : Binding.TypeExpression} :
      members.filter (fun d => d.memberName? = some name) = [.method m] → m.returns = some (.plain nested) →
      .type nested doc Shape.protocol inner ∈ members →
      t.nodes.filter (fun d => d.qualifiedName? = some nested) = [.type nested doc Shape.protocol inner] →
      Leads t inner rest e → Leads t members (name :: rest) e

end Declaration

namespace Generation

open Binding (QualifiedName TypeExpression)
open Declaration (Leads Method Scope Shape Tree memberName? methods)
open Service (Latest Offered Role)

namespace Connector

variable {c : Connector} {role : Role}

theorem methods_entryMembers (c : Connector) (role : Role) : methods (c.entryMembers role) =
    (c.definitions.versions.map fun version => versionMethod (c.entryScope role) version.1) ++
      c.definitions.latest.map fun entry => c.latestMethod role entry.1 entry.2 := by
  rw [entryMembers, methods, List.filterMap_append]
  congr 1
  · rw [List.filterMap_flatMap, List.map_eq_flatMap]
    rfl
  · rw [List.filterMap_map]
    exact congrFun List.filterMap_eq_map _

/-- Of the methods of a role only the accesses to latest versions go on to others. -/
theorem delegating_entryMembers (c : Connector) (role : Role) :
    (methods (c.entryMembers role)).filter (fun m => m.delegateTo ≠ []) =
      c.definitions.latest.map fun entry => c.latestMethod role entry.1 entry.2 := by
  rw [methods_entryMembers, List.filter_append, List.filter_eq_nil_iff.2, List.nil_append,
    List.filter_eq_self.2]
  · intro m hm
    obtain ⟨entry, -, rfl⟩ := List.mem_map.1 hm
    simp [latestMethod, accessor]
  · intro m hm
    obtain ⟨version, -, rfl⟩ := List.mem_map.1 hm
    simp [versionMethod, accessor]

/-- An access to the latest version of a service, the only one with its chain of calls. -/
structure Delegates (c : Connector) (role : Role) (t : Tree) (members : List Declaration) (latest : Latest)
    (m : Method) : Prop where
  name : m.name = serviceAccessor latest.service
  chain : m.delegateTo = [Naming.versionIdentifier latest.label, serviceAccessor latest.service]
  only : (methods members).filter (fun other => other.delegateTo = m.delegateTo) = [m]
  returns : m.returns = some (.plain (c.serviceName role latest.label latest.service))
  leads : Leads t members m.delegateTo (.plain (c.serviceName role latest.label latest.service))
  offered : Offered c.definitions.versions latest.label latest.service
  target : ∃ inner, t.nodes.filter (fun d =>
      d.qualifiedName? = some (c.serviceName role latest.label latest.service)) =
    [.type (c.serviceName role latest.label latest.service) ⟨none, none⟩ Shape.protocol inner]

/-- The interface of a role with one access for each service that has a latest version. -/
def LatestDelegates (c : Connector) (role : Role) (t : Tree) : Prop :=
  ∃ members, t.nodes.filter (fun d =>
      d.qualifiedName? = some (.inPackage (c.rolePackage role) role.typeName)) =
    [.type (.inPackage (c.rolePackage role) role.typeName) (entryDoc role) Shape.protocol members] ∧
    List.Forall₂ (fun entry m => c.Delegates role t members entry.2 m) c.definitions.latest
      ((methods members).filter fun m => m.delegateTo ≠ [])

/-- A tree in which a role was assembled. -/
structure RoleLaid (c : Connector) (role : Role) (t : Tree) : Prop where
  sound : t.Sound
  entry : c.entryPoint role ∈ t.members (.ofPackage (c.rolePackage role))
  services : ∀ version ∈ c.definitions.versions, ∀ service ∈ version.2.keys, ∃ inner,
    .type (c.serviceName role version.1 service) ⟨none, none⟩ Shape.protocol inner ∈ t.nodes

theorem roleLaid_of_run {roles : List Role} {w v : Workspace} (hw : w.tree.Sound)
    (h : (roles.forM c.assemble).runOn w = (.ok (), v)) (hrole : role ∈ roles) : c.RoleLaid role v.tree := by
  obtain ⟨stages, hstages, hlaid, hsound⟩ := stages_of_run hw h
  obtain ⟨part, hpart, hsub⟩ := hstages.part_of_mem hrole
  refine ⟨hsound, ?_, fun version hversion service hservice => ?_⟩
  · obtain ⟨versions, -, rfl⟩ := hpart
    have hstage := hsub _ (List.mem_append_right _ (.head _))
    rw [hlaid]
    exact List.mem_append_right _ (Build.mem_under.2 ⟨_, hstage, .head _⟩)
  · obtain ⟨entry, hentry, rfl⟩ := List.mem_map.1 hservice
    obtain ⟨stage, hstage, inner, hinterface, -⟩ := interface_of_rolePackages hpart hversion hentry
    exact ⟨inner, mem_nodes_of_stages hsound hlaid (hsub _ hstage)
      (Declaration.mem_nodesAll.2 ⟨_, hinterface, .head _⟩)⟩

section Entry

variable {t : Tree}

theorem RoleLaid.orderly (h : c.RoleLaid role t) :
    Declaration.OrderlyAll (c.rolePackage role) [role.typeName] (c.entryMembers role) :=
  (Declaration.orderly_of_mem (h.sound.orderly_members _) h.entry).2

theorem RoleLaid.leads (h : c.RoleLaid role t) {version : String × Entries String (List Topic)}
    (hversion : version ∈ c.definitions.versions) {service : String} (hservice : service ∈ version.2.keys) :
    Leads t (c.entryMembers role) [Naming.versionIdentifier version.1, serviceAccessor service]
      (.plain (c.serviceName role version.1 service)) := by
  have hnested : ∀ d ∈ c.versionMembers role (c.entryScope role) version.1 version.2.keys,
      d ∈ c.entryMembers role := fun d hd =>
    List.mem_append_left _ (List.mem_flatMap.2 ⟨version, hversion, hd⟩)
  have htype := hnested _ (.head _)
  have hmethod := hnested _ (.tail _ (.head _))
  have hnode := h.sound.mem_nodes_of_members h.entry
    (.tail _ (Declaration.mem_nodesAll.2 ⟨_, htype, .head _⟩))
  have hlink := Declaration.filter_eq_singleton (Declaration.nodup_memberNames h.orderly) hmethod rfl
  have hinner := (Declaration.orderly_of_mem h.orderly htype).2
  have haccess : Declaration.method (c.serviceMethod role version.1 service) ∈ version.2.keys.map
      fun service => .method (c.serviceMethod role version.1 service) := List.mem_map_of_mem hservice
  have hlast := Declaration.filter_eq_singleton (Declaration.nodup_memberNames hinner) haccess rfl
  exact .step hlink rfl htype (h.sound.filter_nodes hnode rfl) (.last hlast rfl)

theorem RoleLaid.only (h : c.RoleLaid role t) {entry : String × Latest}
    (hentry : entry ∈ c.definitions.latest) :
    (methods (c.entryMembers role)).filter (fun other =>
      other.delegateTo = (c.latestMethod role entry.1 entry.2).delegateTo) =
        [c.latestMethod role entry.1 entry.2] := by
  have hnames : ((methods (c.entryMembers role)).map Method.name).Nodup :=
    (Declaration.nodup_memberNames h.orderly).sublist (Declaration.names_sublist _)
  have hmem : c.latestMethod role entry.1 entry.2 ∈ methods (c.entryMembers role) := by
    rw [methods_entryMembers]
    exact List.mem_append_right _ (List.mem_map_of_mem hentry)
  -- A method with the same chain is the access to a service of the same accessor, so it has the same name.
  have hsame : ∀ other ∈ methods (c.entryMembers role),
      (other.delegateTo = (c.latestMethod role entry.1 entry.2).delegateTo) ↔
        some other.name = some (c.latestMethod role entry.1 entry.2).name := by
    intro other hother
    constructor
    · intro heq
      have hdelegating : other ∈ (methods (c.entryMembers role)).filter fun m => m.delegateTo ≠ [] :=
        List.mem_filter.2 ⟨hother, by simp [heq, latestMethod, accessor]⟩
      rw [delegating_entryMembers] at hdelegating
      obtain ⟨entry', -, rfl⟩ := List.mem_map.1 hdelegating
      have hlast := (List.cons.inj (List.cons.inj heq).2).1
      exact congrArg some hlast
    · intro heq
      rw [List.inj_on_of_nodup_map hnames hother hmem (Option.some.inj heq)]
  rw [List.filter_congr fun other hother => decide_eq_decide.2 (hsame other hother)]
  refine Declaration.filter_eq_singleton ?_ hmem rfl
  rwa [← List.filterMap_eq_map] at hnames

theorem latestDelegates_of_laid {topics : List Topic} {validate : Bool}
    (haggregated : Service.aggregate topics validate = .ok c.definitions) (h : c.RoleLaid role t) :
    c.LatestDelegates role t := by
  have hnode := h.sound.mem_nodes_of_members h.entry (.head _)
  refine ⟨c.entryMembers role, h.sound.filter_nodes hnode rfl, ?_⟩
  rw [delegating_entryMembers, List.forall₂_map_right_iff, List.forall₂_same]
  intro entry hentry
  have hoffered := Service.offered_of_latest haggregated entry hentry
  obtain ⟨version, hversion, hlabel, hservice⟩ := hoffered
  obtain ⟨inner, hinner⟩ := h.services version hversion entry.2.service hservice
  have hleads := h.leads hversion hservice
  rw [hlabel] at hinner hleads
  exact {
    name := rfl
    chain := rfl
    only := h.only hentry
    returns := rfl
    leads := hleads
    offered := ⟨version, hversion, hlabel, hservice⟩
    target := ⟨inner, h.sound.filter_nodes hinner rfl⟩ }

end Entry

theorem latest_delegates {topics : List Topic} {validate : Bool} {roles : List Role} {w v : Workspace}
    (haggregated : Service.aggregate topics validate = .ok c.definitions) (hw : w.tree.Sound)
    (hrun : (roles.forM c.assemble).runOn w = (.ok (), v)) :
    ∀ role ∈ roles, c.LatestDelegates role v.tree := by
  intro role hrole
  exact latestDelegates_of_laid haggregated (roleLaid_of_run hw hrun hrole)

theorem latest_delegates_sample : ∃ d w, Service.aggregate sampleTopics false = .ok d ∧
    ([Role.server, .client].forM (Connector.mk sampleResolver d).assemble).runOn .empty = (.ok (), w) ∧
    ∀ role ∈ [Role.server, .client], (Connector.mk sampleResolver d).LatestDelegates role w.tree := by
  obtain ⟨d, w, hd, hrun⟩ := exists_sample_assembled
  exact ⟨d, w, hd, hrun, latest_delegates (c := ⟨sampleResolver, d⟩) hd Tree.Sound.empty hrun⟩

end Connector

end Generation

end TopicBindings
