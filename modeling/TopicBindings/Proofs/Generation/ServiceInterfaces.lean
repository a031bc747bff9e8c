import TopicBindings.Proofs.Generation.Assembled

/-!
The interfaces of services. Each of them has one method for every topic of its service that carries a message,
in the order of the topics, and the package of a version holds nothing but these interfaces.
-/

namespace TopicBindings

def Topic.carriesMessage (t : Topic) : Bool :=
  t.publish.isSome || t.subscribe.isSome

namespace Generation

open Binding (TypeExpression)
open Declaration (Method Scope Shape Tree)
open Schema (Message MessageRef)
open Service (Role)

namespace Connector

variable {c : Connector} {role : Role}

def messageClass (c : Connector) (message : Message) : TypeExpression :=
  .plain (.inPackage (c.resolver.packageName (some Schema.messagesSpace)) (Naming.typeName message.name))

/-- The type of what goes out and comes in, with the classes of the messages that are found. -/
inductive Offers (c : Connector) : Option MessageRef → Option MessageRef → TypeExpression → Prop
  | sending {out : MessageRef} {message : Message} :
      c.resolver.registry.lookupMessage out = .ok message →
      Offers c (some out) none (.apply publish [c.messageClass message])
  | receiving {into : MessageRef} {message : Message} :
      c.resolver.registry.lookupMessage into = .ok message →
      Offers c none (some into) (.apply subscribe [c.messageClass message])
  | both {out into : MessageRef} {first second : Message} :
      c.resolver.registry.lookupMessage out = .ok first →
      c.resolver.registry.lookupMessage into = .ok second →
      Offers c (some out) (some into) (.apply publishSubscribe [c.messageClass first, c.messageClass second])

theorem messageType_ok {ref : MessageRef} {e : TypeExpression} (h : c.resolver.messageType ref = .ok e) :
    ∃ message, c.resolver.registry.lookupMessage ref = .ok message ∧ e = c.messageClass message := by
  obtain ⟨message, hmessage, h⟩ := Outcome.bind_ok.1 h
  exact ⟨message, Outcome.mapError_ok.1 hmessage, (Outcome.pure_ok.1 h).symm⟩

theorem offer_ok {t : Topic} {e? : Option TypeExpression} (h : c.offer role t = .ok e?) :
    (e? = none ∧ t.carriesMessage = false) ∨
      ∃ e, e? = some e ∧ t.carriesMessage = true ∧ c.Offers (role.sent t) (role.received t) e := by
  have hcarries : t.carriesMessage = ((role.sent t).isSome || (role.received t).isSome) := by
    cases role with
    | client => rfl
    | server => exact Bool.or_comm _ _
  have hoffering := offering_of_offer h
  rw [hcarries]
  generalize role.sent t = out? at hoffering ⊢
  generalize role.received t = into? at hoffering ⊢
  cases hoffering with
  | silent => exact .inl ⟨rfl, rfl⟩
  | sending hout =>
      obtain ⟨message, hmessage, rfl⟩ := messageType_ok hout
      exact .inr ⟨_, rfl, rfl, .sending hmessage⟩
  | receiving hinto =>
      obtain ⟨message, hmessage, rfl⟩ := messageType_ok hinto
      exact .inr ⟨_, rfl, rfl, .receiving hmessage⟩
  | both hout hinto =>
      obtain ⟨message, hmessage, rfl⟩ := messageType_ok hout
      obtain ⟨other, hother, rfl⟩ := messageType_ok hinto
      exact .inr ⟨_, rfl, rfl, .both hmessage hother⟩

/-- The method of a topic: named after its classification, returning what the role sends and receives. -/
structure MethodOf (c : Connector) (role : Role) (t : Topic) (m : Method) : Prop where
  name : ∃ information, c.definitions.information t = some information ∧ m.name = information.methodName
  returns : ∃ e, m.returns = some e ∧ c.Offers (role.sent t) (role.received t) e

theorem methodOf_topicMethod {t : Topic} {m : Method} (hclassified : (c.definitions.information t).isSome)
    (h : c.topicMethod role t = .ok (some m)) : t.carriesMessage = true ∧ c.MethodOf role t m := by
  obtain ⟨e?, hoffer, h⟩ := Outcome.bind_ok.1 h
  obtain ⟨e, rfl, hm⟩ := Option.map_eq_some_iff.1 (Outcome.pure_ok.1 h)
  obtain ⟨information, hinformation⟩ := Option.isSome_iff_exists.1 hclassified
  rcases offer_ok hoffer with ⟨hnone, -⟩ | ⟨e', he, hcarries, hoffers⟩
  · cases hnone
  · obtain rfl := Option.some.inj he
    refine ⟨hcarries, ⟨information, hinformation, ?_⟩, e, ?_, hoffers⟩
    · rw [← hm]
      simp [methodName, hinformation]
    · rw [← hm]

theorem silent_of_topicMethod {t : Topic} (h : c.topicMethod role t = .ok none) : t.carriesMessage = false := by
  obtain ⟨e?, hoffer, h⟩ := Outcome.bind_ok.1 h
  obtain rfl := Option.map_eq_none_iff.1 (Outcome.pure_ok.1 h)
  rcases offer_ok hoffer with ⟨-, hsilent⟩ | ⟨e, he, -⟩
  · exact hsilent
  · cases he

theorem methods_of_topics {topics : List Topic} {out : List Declaration}
    (hclassified : ∀ t ∈ topics, (c.definitions.information t).isSome)
    (h : Each (c.TopicMethods role) topics out) : ∃ methods, out = methods.map .method ∧
      List.Forall₂ (c.MethodOf role) (topics.filter Topic.carriesMessage) methods := by
  obtain ⟨parts, hparts, rfl⟩ := h
  induction hparts with
  | nil => exact ⟨[], rfl, .nil⟩
  | @cons t part topics parts hpart _ ih =>
      obtain ⟨methods, hout, hmethods⟩ := ih fun t ht => hclassified t (.tail _ ht)
      obtain ⟨method?, hmethod, rfl⟩ := hpart
      cases method? with
      | none =>
          rw [List.filter_cons_of_neg (by simp [silent_of_topicMethod hmethod])]
          exact ⟨methods, hout, hmethods⟩
      | some m =>
          obtain ⟨hcarries, hm⟩ := methodOf_topicMethod (hclassified t (.head _)) hmethod
          rw [List.filter_cons_of_pos hcarries]
          exact ⟨m :: methods, by rw [List.flatten_cons, hout]; rfl, .cons hm hmethods⟩

def InterfaceOf (c : Connector) (role : Role) (label : String) (service : String × List Topic)
    (d : Declaration) : Prop :=
  ∃ methods, d = .type (c.serviceName role label service.1) ⟨none, none⟩ Shape.protocol
      (methods.map .method) ∧
    List.Forall₂ (c.MethodOf role) (service.2.filter Topic.carriesMessage) methods ∧
    (methods.map Method.name).Nodup

theorem InterfaceOf.qualifiedName? {label : String} {service : String × List Topic} {d : Declaration}
    (h : c.InterfaceOf role label service d) : d.qualifiedName? = some (c.serviceName role label service.1) := by
  obtain ⟨methods, rfl, -, -⟩ := h
  rfl

theorem filterMap_memberName?_methods (methods : List Method) :
    (methods.map Declaration.method).filterMap Declaration.memberName? = methods.map Method.name := by
  rw [List.filterMap_map]
  exact congrFun List.filterMap_eq_map methods

theorem interfaces_of_services {label : String} {services : Entries String (List Topic)}
    {out : List Declaration}
    (hclassified : ∀ service ∈ services, ∀ t ∈ service.2, (c.definitions.information t).isSome)
    (horderly : Declaration.OrderlyAll (c.versionPackage role label) [] out)
    (h : Each (c.ServiceInterface role (.ofPackage (c.versionPackage role label))) services out) :
    List.Forall₂ (c.InterfaceOf role label) services out := by
  have hsingle : Each (fun service part => ∃ d, c.InterfaceOf role label service d ∧ part = [d])
      services out := by
    refine h.mono_of_subset fun service hservice part hpart => ?_
    rintro ⟨inner, hinner, rfl⟩
    obtain ⟨methods, rfl, hmethods⟩ := methods_of_topics (hclassified service hservice) hinner
    refine ⟨_, ⟨methods, rfl, hmethods, ?_⟩, rfl⟩
    have hmembers := (Declaration.orderly_of_mem horderly (hpart (.head _))).2
    rw [← filterMap_memberName?_methods]
    exact Declaration.nodup_memberNames hmembers
  exact hsingle.forall₂_of_singletons

/-- The interfaces of a role in a tree: one for each service of each version, which is declared nowhere else,
and no others in the package of the version. -/
structure ServicesDeclared (c : Connector) (role : Role) (t : Tree) : Prop where
  interfaces : ∀ version ∈ c.definitions.versions, ∀ service ∈ version.2, ∃ interface,
    t.nodes.filter (fun d => d.qualifiedName? = some (c.serviceName role version.1 service.1)) = [interface] ∧
      c.InterfaceOf role version.1 service interface
  only : ∀ version ∈ c.definitions.versions, List.Forall₂ (c.InterfaceOf role version.1) version.2
    (t.members (.ofPackage (c.versionPackage role version.1)))

theorem servicesDeclared_of_roleTree {topics : List Topic} {validate : Bool} {t : Tree}
    (haggregated : Service.aggregate topics validate = .ok c.definitions) (ht : t.Sound)
    (h : c.RoleTree role t) : c.ServicesDeclared role t := by
  have honly : ∀ version ∈ c.definitions.versions, List.Forall₂ (c.InterfaceOf role version.1) version.2
      (t.members (.ofPackage (c.versionPackage role version.1))) := by
    intro version hversion
    refine interfaces_of_services (fun service hservice topic htopic => ?_)
      (ht.orderly_members _) (h.services version hversion)
    have hmem := (Service.filed_iff haggregated).1 ⟨version, hversion, service, hservice, htopic⟩
    rw [Service.information_of_mem haggregated hmem]
    rfl
  refine ⟨fun version hversion service hservice => ?_, honly⟩
  obtain ⟨interface, hmem, hinterface⟩ :=
    Outcome.exists_of_forall₂ (honly version hversion).flip hservice
  have hname := InterfaceOf.qualifiedName? hinterface
  have hnode := ht.mem_nodes_of_members hmem (Declaration.mem_nodes_self hname)
  exact ⟨interface, ht.filter_nodes hnode hname, hinterface⟩

theorem services_declared {topics : List Topic} {validate : Bool} {roles : List Role} {w : Workspace}
    (haggregated : Service.aggregate topics validate = .ok c.definitions)
    (hrun : (roles.forM c.assemble).runOn .empty = (.ok (), w)) :
    Service.Grouped topics c.definitions.versions ∧ ∀ role ∈ roles, c.ServicesDeclared role w.tree := by
  obtain ⟨hsound, -, hroles⟩ := roleTree_of_run haggregated hrun
  refine ⟨Service.grouped_versions haggregated, fun role hrole => ?_⟩
  exact servicesDeclared_of_roleTree haggregated hsound (hroles role hrole)

theorem services_declared_sample : ∃ d w, Service.aggregate sampleTopics false = .ok d ∧
    ([Role.server, .client].forM (Connector.mk sampleResolver d).assemble).runOn .empty = (.ok (), w) ∧
    Service.Grouped sampleTopics d.versions ∧
    ∀ role ∈ [Role.server, .client], (Connector.mk sampleResolver d).ServicesDeclared role w.tree := by
  obtain ⟨d, w, hd, hrun⟩ := exists_sample_assembled
  have hdeclared := services_declared (c := ⟨sampleResolver, d⟩) hd hrun
  exact ⟨d, w, hd, hrun, hdeclared.1, hdeclared.2⟩

end Connector

end Generation

end TopicBindings
