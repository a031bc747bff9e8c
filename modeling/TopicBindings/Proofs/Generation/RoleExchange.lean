import TopicBindings.Proofs.Generation.RoleRenaming

/-!
The server is the client of the exchanged topics. Assembling the interfaces of the server fails as assembling
those of the client over the exchanged topics does, and comes to the same tree but for the names of the two
roles.
-/

namespace TopicBindings

open Binding (QualifiedName Resolver)

namespace Generation

open Declaration (Doc Method Renaming Scope Shape Tree)
open Service (Definitions Role)

namespace Connector

variable (c : Connector)

section Runs

theorem offer_swap (t : Topic) : c.swap.offer .client t.swap = c.offer .server t :=
  rfl

theorem topicMethod_swap (t : Topic) : c.swap.topicMethod .client t.swap = c.topicMethod .server t := by
  have hname : c.swap.methodName t.swap = c.methodName t := by
    rw [methodName, methodName]
    exact congrArg (fun i => (i.map Topic.Information.methodName).getD "")
      (Service.information_swap c.definitions t)
  rw [topicMethod, topicMethod, offer_swap, hname]
  rfl

theorem method_of_topicMethod {t : Topic} {m : Method} (h : c.topicMethod .server t = .ok (some m)) :
    c.toClient.method m = m := by
  obtain ⟨e?, hoffer, h⟩ := Outcome.bind_ok.1 h
  obtain ⟨e, rfl, rfl⟩ := Option.map_eq_some_iff.1 (Outcome.pure_ok.1 h)
  rcases offer_ok hoffer with ⟨hnone, -⟩ | ⟨e', he, -, hoffers⟩
  · cases hnone
  · obtain rfl := Option.some.inj he
    simp [Renaming.method, expression_of_offers c hoffers]

theorem follows_topicMethod {s : Scope} (hs : c.toClient.Reaches s) (t : Topic) :
    Follows c.toClient (c.createTopicMethod .server s t)
      (c.swap.createTopicMethod .client (c.toClient.scope s) t.swap) := by
  rw [createTopicMethod, createTopicMethod, topicMethod_swap]
  refine Follows.ofExcept_bind (fun _ => rfl) fun method? hmethod => ?_
  cases method? with
  | none => exact Follows.note _ _
  | some m =>
      have hm := Follows.createMethod hs m
      rwa [method_of_topicMethod c hmethod] at hm

/-- The versions of the exchanged topics are those of the topics, with exchanged services. -/
theorem follows_groups {f f' : String × Entries String (List Topic) → Build PUnit}
    (h : ∀ version, Follows c.toClient (f version) (f' (version.1, Service.swapServices version.2))) :
    Follows c.toClient (c.definitions.versions.forM f) (c.swap.definitions.versions.forM f') := by
  refine Follows.forM ?_
  show List.Forall₂ _ c.definitions.versions (Service.swapGroups c.definitions.versions)
  rw [Service.swapGroups, List.forall₂_map_right_iff, List.forall₂_same]
  exact fun version _ => h version

theorem follows_services (version : String × Entries String (List Topic)) :
    Follows c.toClient (c.createServices .server version.1 version.2)
      (c.swap.createServices .client version.1 (Service.swapServices version.2)) := by
  have hne := versionPackage_ne_rolePackage (c := c) .server .server version.1
  have hreaches : c.toClient.Reaches (.ofPackage (c.versionPackage .server version.1)) :=
    ⟨c.known_versionPackage version.1, by simp [Scope.ofPackage]⟩
  -- In the package of a version the names of types stay; only the package itself gets another one.
  have hservice : ∀ service : String × List Topic, Follows c.toClient
      (Build.createType (.ofPackage (c.versionPackage .server version.1)) (Service.typeName service.1)
        ⟨none, none⟩ Shape.protocol fun scope => service.2.forM (c.createTopicMethod .server scope))
      (Build.createType (c.toClient.scope (.ofPackage (c.versionPackage .server version.1)))
        (Service.typeName service.1) ⟨none, none⟩ Shape.protocol fun scope =>
          (service.2.map Topic.swap).forM (c.swap.createTopicMethod .client scope)) := by
    intro service
    have hadmits := c.admits_of_ne hne (Service.typeName service.1)
    refine Follows.createType_of_fixed hreaches (fun _ => hadmits) (c.outermost_of_ne hne _)
      (c.about_beside hne _ _) (Renaming.shape_protocol _) (Follows.forM ?_)
    rw [List.forall₂_map_right_iff, List.forall₂_same]
    exact fun t _ => c.follows_topicMethod (hreaches.child fun _ => hadmits) t
  have hpackage : c.swap.versionPackage .client version.1 =
      c.toClient.package (c.versionPackage .server version.1) :=
    (c.package_versionPackage version.1).symm
  rw [createServices, createServices, hpackage]
  refine Follows.openPackage_bind (c.known_versionPackage version.1) (Follows.forM ?_)
  rw [Service.swapServices, List.forall₂_map_right_iff, List.forall₂_same]
  exact fun service _ => Follows.seq (hservice service) fun _ _ => Follows.done _ _

theorem reaches_rolePackage : c.toClient.Reaches (.ofPackage (c.rolePackage .server)) :=
  ⟨c.known_rolePackage, by simp [Scope.ofPackage]⟩

theorem admits_root : c.toClient.Admits (c.rolePackage .server) Role.server.typeName :=
  fun _ => rfl

theorem reaches_entryScope : c.toClient.Reaches (c.entryScope .server) :=
  c.reaches_rolePackage.child fun _ => c.admits_root

theorem follows_version (label : String) (services : List String) :
    Follows c.toClient (c.createVersion .server (c.entryScope .server) label services)
      (c.swap.createVersion .client (c.toClient.scope (c.entryScope .server)) label services) := by
  have hinside : (c.entryScope .server).path ≠ [] := by simp [entryScope, Scope.child]
  have hadmits : (c.entryScope .server).path = [] → c.toClient.Admits
      (c.entryScope .server).package (versionTypeName label) := fun hpath => absurd hpath hinside
  have hmethods : Follows c.toClient
      (services.forM fun service => Build.createMethod ((c.entryScope .server).child (versionTypeName label))
        (c.serviceMethod .server label service))
      (services.forM fun service => Build.createMethod
        (c.toClient.scope ((c.entryScope .server).child (versionTypeName label)))
        (c.swap.serviceMethod .client label service)) := by
    refine Follows.forM (List.forall₂_same.2 fun service _ => ?_)
    rw [← method_serviceMethod]
    exact Follows.createMethod (c.reaches_entryScope.child hadmits) _
  have hmethod := Follows.createMethod c.reaches_entryScope (versionMethod (c.entryScope .server) label)
  rw [method_versionMethod, ← scope_entryScope] at hmethod
  exact Follows.seq (Follows.createType_of_fixed c.reaches_entryScope hadmits (Renaming.own_child ..)
    (c.about_inside hinside _ _) (Renaming.shape_protocol _) hmethods) fun _ _ => hmethod

theorem follows_versions :
    Follows c.toClient
      (c.definitions.versions.forM fun (version, services) =>
        c.createVersion .server (c.entryScope .server) version services.keys)
      (c.swap.definitions.versions.forM fun (version, services) =>
        c.swap.createVersion .client (c.toClient.scope (c.entryScope .server)) version
          services.keys) := by
  refine c.follows_groups fun version => ?_
  show Follows _ (c.createVersion .server (c.entryScope .server) version.1 version.2.keys)
    (c.swap.createVersion .client _ version.1 (Service.swapServices version.2).keys)
  rw [Service.keys_swapServices]
  exact c.follows_version version.1 version.2.keys

theorem follows_latest :
    Follows c.toClient
      (c.definitions.latest.forM fun (typeName, latest) =>
        Build.createMethod (c.entryScope .server) (c.latestMethod .server typeName latest))
      (c.swap.definitions.latest.forM fun (typeName, latest) =>
        Build.createMethod (c.toClient.scope (c.entryScope .server))
          (c.swap.latestMethod .client typeName latest)) := by
  refine Follows.forM (List.forall₂_same.2 fun entry _ => ?_)
  have hmethod := Follows.createMethod c.reaches_entryScope (c.latestMethod .server entry.1 entry.2)
  rwa [method_latestMethod] at hmethod

theorem follows_entryPoint :
    Follows c.toClient
      (Build.createType (.ofPackage (c.rolePackage .server)) Role.server.typeName (entryDoc .server)
        Shape.protocol fun scope => do
          c.definitions.versions.forM fun (version, services) =>
            c.createVersion .server scope version services.keys
          c.definitions.latest.forM fun (typeName, latest) =>
            Build.createMethod scope (c.latestMethod .server typeName latest))
      (Build.createType (.ofPackage (c.toClient.package (c.rolePackage .server)))
        Role.client.typeName (entryDoc .client) Shape.protocol fun scope => do
          c.swap.definitions.versions.forM fun (version, services) =>
            c.swap.createVersion .client scope version services.keys
          c.swap.definitions.latest.forM fun (typeName, latest) =>
            Build.createMethod scope (c.swap.latestMethod .client typeName latest)) := by
  rw [← about_root c, ← outermost_rolePackage c, ← Renaming.own_ofPackage, ← Renaming.scope_ofPackage]
  exact Follows.createType c.reaches_rolePackage (fun _ => c.admits_root)
    (Follows.seq c.follows_versions fun _ _ => c.follows_latest)

theorem follows_assemble :
    Follows c.toClient (c.assemble .server) (c.swap.assemble .client) := by
  have hservices : Follows c.toClient
      (c.definitions.versions.forM fun (version, services) => c.createServices .server version services)
      (c.swap.definitions.versions.forM fun (version, services) =>
        c.swap.createServices .client version services) :=
    c.follows_groups c.follows_services
  have hpackage : c.swap.rolePackage .client = c.toClient.package (c.rolePackage .server) :=
    c.package_rolePackage.symm
  rw [assemble, assemble, hpackage]
  exact Follows.seq hservices fun _ _ => Follows.openPackage_bind c.known_rolePackage
    (Follows.seq c.follows_entryPoint fun _ _ => Follows.done _ _)

/-- Assembling the client over the exchanged topics fails when assembling the server does, with a failure of the
same class, and comes to the same tree under the names of the client. -/
theorem server_is_swapped_client {topics : List Topic} {validate : Bool} {r : Resolver} {d : Definitions}
    (haggregated : Service.aggregate topics validate = .ok d) :
    Service.aggregate (topics.map Topic.swap) validate = .ok d.swap ∧
      (((Connector.mk r d.swap).assemble .client).runOn .empty).1 =
        (((Connector.mk r d).assemble .server).runOn .empty).1.mapError (renamedFailure (roleRenaming r)) ∧
      (((Connector.mk r d.swap).assemble .client).runOn .empty).2.tree =
        (roleRenaming r).tree (((Connector.mk r d).assemble .server).runOn .empty).2.tree := by
  have hempty : Images (roleRenaming r) .empty .empty := ⟨Renaming.Fits.empty, rfl⟩
  obtain ⟨himages, hverdict⟩ := follows_assemble ⟨r, d⟩ .empty .empty hempty
  refine ⟨Service.aggregate_swap haggregated, ?_, himages.tree⟩
  rwa [verdict_unit, verdict_unit] at hverdict

theorem server_is_swapped_client_sample : ∃ d server client,
    Service.aggregate sampleTopics false = .ok d ∧
      Service.aggregate (sampleTopics.map Topic.swap) false = .ok d.swap ∧
      ((Connector.mk sampleResolver d).assemble .server).runOn .empty = (.ok (), server) ∧
      ((Connector.mk sampleResolver d.swap).assemble .client).runOn .empty = (.ok (), client) ∧
      client.tree = (roleRenaming sampleResolver).tree server.tree := by
  obtain ⟨d, w, hd, hrun⟩ := exists_sample_assembled
  obtain ⟨_, server, hserver, -⟩ := Build.runOn_bind_ok.1 hrun
  obtain ⟨hswapped, hverdict, htree⟩ := server_is_swapped_client (r := sampleResolver) hd
  rw [hserver] at hverdict htree
  exact ⟨d, server, _, hd, hswapped, hserver, Prod.ext hverdict rfl, htree⟩

end Runs

end Connector

end Generation

end TopicBindings
