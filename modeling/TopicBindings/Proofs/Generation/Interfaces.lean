import Mathlib.Data.List.ReduceOption
import TopicBindings.Generation.Connector
import TopicBindings.Generation.TopicLookup
import TopicBindings.Proofs.Binding.Packages
import TopicBindings.Proofs.Generation.Adds
import TopicBindings.Proofs.Outcome

/-!
The packages that a run lays down for the two roles and for the table of topics.
-/

namespace TopicBindings.Generation

open Binding (TypeExpression)
open Build (Adds Lays Stage Yields chained_extends chained_stages)
open Declaration (Method Scope Shape)
open Service (Definitions Latest Role)

namespace Connector

def TopicMethods (c : Connector) (role : Role) (topic : Topic) (out : List Declaration) : Prop :=
  ∃ method?, c.topicMethod role topic = .ok method? ∧
    out = (method?.map Declaration.method).toList

/-- What a role is offered for what it sends and receives: a type of the runtime on the classes of the messages. -/
inductive Offering (c : Connector) : Option Schema.MessageRef → Option Schema.MessageRef → Option TypeExpression → Prop
  | silent : Offering c none none none
  | sending {out : Schema.MessageRef} {e : TypeExpression} (h : c.resolver.messageType out = .ok e) :
      Offering c (some out) none (some (.apply publish [e]))
  | receiving {into : Schema.MessageRef} {e : TypeExpression} (h : c.resolver.messageType into = .ok e) :
      Offering c none (some into) (some (.apply subscribe [e]))
  | both {out into : Schema.MessageRef} {first second : TypeExpression} (h : c.resolver.messageType out = .ok first)
      (h' : c.resolver.messageType into = .ok second) :
      Offering c (some out) (some into) (some (.apply publishSubscribe [first, second]))

theorem offering_of_offer {c : Connector} {role : Role} {t : Topic} {e? : Option TypeExpression}
    (h : c.offer role t = .ok e?) : c.Offering (role.sent t) (role.received t) e? := by
  rw [offer] at h
  generalize role.sent t = out? at h ⊢
  generalize role.received t = into? at h ⊢
  cases out? with
  | none =>
      cases into? with
      | none =>
          obtain rfl := Outcome.pure_ok.1 h
          exact .silent
      | some into =>
          obtain ⟨second, hsecond, h⟩ := Outcome.bind_ok.1 h
          obtain rfl := Outcome.pure_ok.1 h
          exact .receiving hsecond
  | some out =>
      cases into? with
      | none =>
          obtain ⟨first, hfirst, h⟩ := Outcome.bind_ok.1 h
          obtain rfl := Outcome.pure_ok.1 h
          exact .sending hfirst
      | some into =>
          obtain ⟨first, hfirst, h⟩ := Outcome.bind_ok.1 h
          obtain ⟨second, hsecond, h⟩ := Outcome.bind_ok.1 h
          obtain rfl := Outcome.pure_ok.1 h
          exact .both hfirst hsecond

/-- The classes of the messages that a role sends and receives are the arguments of the type that it is offered. -/
theorem Offering.arguments {c : Connector} {out? into? : Option Schema.MessageRef} {e? : Option TypeExpression}
    (h : c.Offering out? into? e?) : ∃ arguments,
      List.Forall₂ (fun ref e => c.resolver.messageType ref = .ok e) [out?, into?].reduceOption arguments ∧
      ∀ e ∈ e?, ∃ name, e = .apply (.external runtimeModule name) arguments := by
  cases h with
  | silent => exact ⟨[], .nil, by simp⟩
  | sending h => exact ⟨_, .cons h .nil, fun e he => ⟨_, (Option.some.inj he).symm⟩⟩
  | receiving h => exact ⟨_, .cons h .nil, fun e he => ⟨_, (Option.some.inj he).symm⟩⟩
  | both h h' => exact ⟨_, .cons h (.cons h' .nil), fun e he => ⟨_, (Option.some.inj he).symm⟩⟩

def ServiceInterface (c : Connector) (role : Role) (scope : Scope) (service : String × List Topic)
    (out : List Declaration) : Prop :=
  ∃ inner, Each (c.TopicMethods role) service.2 inner ∧
    out = [.type (scope.nameOf (Service.typeName service.1)) ⟨none, none⟩ Shape.protocol inner]

def VersionPackage (c : Connector) (role : Role) (version : String × Entries String (List Topic))
    (stages : List Stage) : Prop :=
  ∃ interfaces, Each (c.ServiceInterface role (.ofPackage (c.versionPackage role version.1))) version.2
      interfaces ∧
    stages = [(c.versionPackage role version.1, interfaces)]

def versionMembers (c : Connector) (role : Role) (scope : Scope) (version : String)
    (services : List String) : List Declaration :=
  [.type (scope.nameOf (versionTypeName version)) (versionDoc version) Shape.protocol
      (services.map fun service => .method (c.serviceMethod role version service)),
    .method (versionMethod scope version)]

def entryScope (c : Connector) (role : Role) : Scope :=
  (Scope.ofPackage (c.rolePackage role)).child role.typeName

def entryMembers (c : Connector) (role : Role) : List Declaration :=
  c.definitions.versions.flatMap (fun version =>
      c.versionMembers role (c.entryScope role) version.1 version.2.keys) ++
    c.definitions.latest.map fun entry => .method (c.latestMethod role entry.1 entry.2)

def entryPoint (c : Connector) (role : Role) : Declaration :=
  .type ((Scope.ofPackage (c.rolePackage role)).nameOf role.typeName) (entryDoc role) Shape.protocol
    (c.entryMembers role)

def RolePackages (c : Connector) (role : Role) (stages : List Stage) : Prop :=
  ∃ versions, Each (c.VersionPackage role) c.definitions.versions versions ∧
    stages = versions ++ [(c.rolePackage role, [c.entryPoint role])]

variable (c : Connector) (role : Role)

theorem adds_topicMethod (scope : Scope) (topic : Topic) :
    Adds (c.createTopicMethod role scope topic) scope (c.TopicMethods role topic) := by
  refine Yields.ofExcept_bind fun method? hmethod => ?_
  cases method? with
  | none =>
      refine (Yields.note (chained_extends scope) _).mono ?_
      rintro out rfl
      exact ⟨none, hmethod, rfl⟩
  | some method =>
      refine (Build.adds_method method).mono ?_
      rintro out rfl
      exact ⟨some method, hmethod, rfl⟩

theorem adds_serviceInterface (scope : Scope) (service : String × List Topic) :
    Adds (Build.createType scope (Service.typeName service.1) ⟨none, none⟩ Shape.protocol
      fun inner => service.2.forM (c.createTopicMethod role inner)) scope
      (c.ServiceInterface role scope service) :=
  Build.adds_type (Yields.forM (chained_extends _) fun topic _ => c.adds_topicMethod role _ topic)

theorem lays_services (version : String × Entries String (List Topic)) :
    Lays (c.createServices role version.1 version.2) (c.VersionPackage role version) := by
  refine Build.lays_package ?_
  refine Yields.forM (chained_extends _) fun service _ => ?_
  exact Yields.before (chained_extends _) (c.adds_serviceInterface role _ service) fun _ =>
    Yields.done (chained_extends _) _

theorem adds_methods {ι : Type} (scope : Scope) (method : ι → Method) (items : List ι) :
    Adds (items.forM fun item => Build.createMethod scope (method item)) scope
      (· = items.map fun item => .method (method item)) := by
  refine (Yields.forM (chained_extends scope) fun item _ => Build.adds_method (method item)).mono ?_
  intro out h
  exact h.map_of_eq

theorem adds_version (scope : Scope) (version : String) (services : List String) :
    Adds (c.createVersion role scope version services) scope
      (· = c.versionMembers role scope version services) := by
  refine (Yields.seq (chained_extends scope)
    (Build.adds_type (adds_methods _ (c.serviceMethod role version) services)) fun _ =>
      Build.adds_method _).mono ?_
  rintro out ⟨first, second, ⟨inner, rfl, rfl⟩, rfl, rfl⟩
  rfl

theorem adds_entryMembers :
    Adds (do
      c.definitions.versions.forM fun (version, services) =>
        c.createVersion role (c.entryScope role) version services.keys
      c.definitions.latest.forM fun (typeName, latest) =>
        Build.createMethod (c.entryScope role) (c.latestMethod role typeName latest))
      (c.entryScope role) (· = c.entryMembers role) := by
  have hversions : Adds (c.definitions.versions.forM fun (version, services) =>
      c.createVersion role (c.entryScope role) version services.keys) (c.entryScope role)
      (· = c.definitions.versions.flatMap fun version =>
        c.versionMembers role (c.entryScope role) version.1 version.2.keys) := by
    refine (Yields.forM (chained_extends _) fun version _ =>
      c.adds_version role _ version.1 version.2.keys).mono ?_
    intro out h
    exact h.flatMap_of_eq
  refine (Yields.seq (chained_extends _) hversions fun _ =>
    adds_methods _ (fun entry => c.latestMethod role entry.1 entry.2) c.definitions.latest).mono ?_
  rintro out ⟨first, second, rfl, rfl, rfl⟩
  rfl

theorem lays_assemble : Lays (c.assemble role) (c.RolePackages role) := by
  have hentry : Lays (do
      let package ← Build.openPackage (c.rolePackage role)
      let _ ← Build.createType package role.typeName (entryDoc role) Shape.protocol fun scope => do
        c.definitions.versions.forM fun (version, services) =>
          c.createVersion role scope version services.keys
        c.definitions.latest.forM fun (typeName, latest) =>
          Build.createMethod scope (c.latestMethod role typeName latest))
      (· = [(c.rolePackage role, [c.entryPoint role])]) := by
    refine (Build.lays_package (Yields.before (chained_extends _)
      (Build.adds_type (c.adds_entryMembers role)) fun _ => Yields.done (chained_extends _) _)).mono ?_
    rintro stages ⟨out, ⟨inner, rfl, rfl⟩, rfl⟩
    rfl
  refine (Yields.seq chained_stages (Yields.forM chained_stages fun version _ =>
    c.lays_services role version) fun _ => hentry).mono ?_
  rintro stages ⟨versions, entry, hversions, rfl, rfl⟩
  exact ⟨versions, hversions, rfl⟩

theorem versionPackage_eq (c : Connector) (role : Service.Role) (version : String) :
    c.versionPackage role version =
      c.resolver.packageName (some (role.packageName ++ "." ++ Naming.versionIdentifier version)) := by
  have hversion : Naming.versionIdentifier version ≠ "" := by
    intro he
    have := congrArg String.toList he
    simp [Naming.versionIdentifier] at this
  rw [versionPackage, rolePackage, c.resolver.joinPackage_packageName (by cases role <;> decide) hversion]

def packages (c : Connector) (role : Role) : List String :=
  c.definitions.versions.keys.map (c.versionPackage role) ++ [c.rolePackage role]

theorem mem_packages_of_rolePackages {c : Connector} {role : Role} {stages : List Stage}
    (h : c.RolePackages role stages) {stage : Stage} (hs : stage ∈ stages) : stage.1 ∈ c.packages role := by
  obtain ⟨versions, hversions, rfl⟩ := h
  rcases List.mem_append.1 hs with hs | hs
  · obtain ⟨version, hversion, part, ⟨interfaces, -, rfl⟩, hs⟩ := hversions.exists_of_mem hs
    obtain rfl := List.mem_singleton.1 hs
    exact List.mem_append_left _ (List.mem_map_of_mem (List.mem_map_of_mem hversion))
  · obtain rfl := List.mem_singleton.1 hs
    exact List.mem_append_right _ (.head _)

theorem interface_of_rolePackages {c : Connector} {role : Role} {stages : List Stage} (h : c.RolePackages role stages)
    {version : String × Entries String (List Topic)} (hversion : version ∈ c.definitions.versions)
    {service : String × List Topic} (hservice : service ∈ version.2) : ∃ stage ∈ stages, ∃ inner,
      .type (c.serviceName role version.1 service.1) ⟨none, none⟩ Shape.protocol inner ∈ stage.2 ∧
        Each (c.TopicMethods role) service.2 inner := by
  obtain ⟨versions, hversions, rfl⟩ := h
  obtain ⟨part, ⟨interfaces, hinterfaces, rfl⟩, hsub⟩ := hversions.part_of_mem hversion
  obtain ⟨part, ⟨inner, hinner, rfl⟩, hsub'⟩ := hinterfaces.part_of_mem hservice
  exact ⟨_, List.mem_append_left _ (hsub _ (.head _)), inner, hsub' _ (.head _), hinner⟩

theorem packages_ne_space (c : Connector) {role : Role} {space package : String} (hspace : space ≠ "")
    (hrole : ¬ role.packageName.toList <+: space.toList) (h : package ∈ c.packages role) :
    package ≠ c.resolver.packageName (some space) := by
  rintro rfl
  rcases List.mem_append.1 h with h | h
  · obtain ⟨label, -, heq⟩ := List.mem_map.1 h
    rw [versionPackage_eq] at heq
    obtain rfl := c.resolver.packageName_inj (by simp) hspace heq
    exact hrole (by simp)
  · obtain rfl := c.resolver.packageName_inj hspace (by cases role <;> decide) (List.mem_singleton.1 h)
    exact hrole List.prefix_rfl

theorem ne_space_of_roles {c : Connector} {stages : List Stage} (h : Each c.RolePackages Role.all stages)
    {space : String} (hspace : space ≠ "") (hrole : ∀ role : Role, ¬ role.packageName.toList <+: space.toList) :
    ∀ stage ∈ stages, stage.1 ≠ c.resolver.packageName (some space) := by
  intro stage hs
  obtain ⟨role, -, part, hpart, hs⟩ := h.exists_of_mem hs
  exact packages_ne_space c hspace (hrole role) (mem_packages_of_rolePackages hpart hs)

end Connector

namespace TopicLookup

def packageName (c : Context) : String :=
  c.resolver.packageName (some package)

def Table (c : Context) (stages : List Stage) : Prop :=
  ∃ rows, c.definitions.topics.keys.mapM (entries c) = .ok rows ∧
    stages = [(packageName c, [.type ((Scope.ofPackage (packageName c)).nameOf typeName) doc Shape.plain
      [.raw (content rows)]])]

theorem lays_table (c : Context) : Lays (generate c) (Table c) := by
  refine Yields.ofExcept_bind fun rows hrows => ?_
  refine (Build.lays_package (Yields.before (chained_extends _)
    (Build.adds_type (Build.adds_raw _)) fun _ => Yields.note (chained_extends _) _)).mono ?_
  rintro stages ⟨out, ⟨inner, rfl, rfl⟩, rfl⟩
  exact ⟨rows, hrows, rfl⟩

end TopicLookup

end TopicBindings.Generation
