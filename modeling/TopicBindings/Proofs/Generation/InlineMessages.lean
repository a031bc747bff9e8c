import TopicBindings.Proofs.Declaration.Mentions
import TopicBindings.Proofs.Generation.Mirror
import TopicBindings.Proofs.Generation.References
import TopicBindings.Proofs.Generation.ServiceInterfaces
import TopicBindings.Proofs.Schema.Messages

/-!
The classes of messages that topics spell out. The methods of a topic mention the class that bears the name of its message,
and this is the only declaration of its name. It is made from the message of the topic, unless a component message has the
name already: then it is made from the component, and what the topic spells out is left out without notice.
-/

namespace TopicBindings.Generation

open Binding (QualifiedName Resolver TypeExpression)
open Build (Stage)
open Declaration (Scope Shape Tree fields nodesAll)
open Schema (Message)
open Service (Definitions Role)

def messageName (r : Resolver) (m : Message) : QualifiedName :=
  .inPackage (r.packageName (some Schema.messagesSpace)) (Naming.typeName m.name)

/-- The class that a message is declared as: described as the message is, with a field of the type of the payload, and
with what the payload spells out below it. -/
inductive ClassOf (r : Resolver) (m : Message) : Declaration → Prop
  | intro {members : List Declaration} {type : TypeExpression} :
      r.propertyType m.payload = .ok type → fields members = [Plan.payloadField type] →
      List.Forall₂ (Mirrors r) m.payload.structured (nodesAll members) →
      ClassOf r m (.type (messageName r m) ⟨Plan.messageSummary m, m.description⟩ Shape.dataClass members)

theorem ClassOf.qualifiedName? {r : Resolver} {m : Message} {d : Declaration} (h : ClassOf r m d) :
    d.qualifiedName? = some (messageName r m) := by
  cases h
  rfl

namespace Plan

variable {p : Plan}

theorem payload_field {message : Message} {out : List Declaration}
    (hstands : message.payload.Stands Schema.messagesSpace [message.name])
    (h : p.Payload (scopeOf p.resolver Schema.messagesSpace [message.name]) message out) :
    ∃ type, p.resolver.propertyType message.payload = .ok type ∧ fields out = [payloadField type] := by
  obtain ⟨first, type, hfirst, htype, rfl⟩ := resolved_of_payload hstands h
  refine ⟨type, htype, ?_⟩
  rw [fields, List.filterMap_append, ← fields, fields_eq_nil (types_of_inline hfirst)]
  rfl

theorem classOf_message {message : Message} {out : List Declaration}
    (hstands : message.payload.Stands Schema.messagesSpace [message.name])
    (h : p.MessageClass (.ofPackage p.messagesPackage) message out) :
    ∃ d, out = [d] ∧ ClassOf p.resolver message d := by
  obtain ⟨inner, hinner, rfl⟩ := h
  obtain ⟨type, htype, hfields⟩ := payload_field hstands hinner
  exact ⟨_, rfl, .intro htype hfields (mirrors_payload hstands hinner)⟩

end Plan

section Classes

variable {s : Schema} {o : Options} {extensions : List Extension} {r : Result} {registry : Registry}

/-- Every message that a run declares has its class in the tree, and nothing else has the name of the class. -/
theorem class_of_entry (hplaced : s.Placed) (hbuilt : Built s o extensions r registry)
    (hextensions : ∀ e ∈ extensions, e = TopicLookup.extension) {entry : String × Message}
    (hentry : entry ∈ allMessages s) : ∃ d, ClassOf (o.plan s registry extensions .standard).resolver entry.2 d ∧
      r.tree.nodes.filter (fun e => e.qualifiedName? =
        some (messageName (o.plan s registry extensions .standard).resolver entry.2)) = [d] := by
  obtain ⟨hsound, stages, extras, ⟨messages, types, roles, hmessages, -, -, hstages⟩, -, hmembers⟩ :=
    hbuilt.complete hextensions
  obtain ⟨part, hpart, hsub⟩ := hmessages.part_of_mem hentry
  obtain ⟨d, rfl, hd⟩ := Plan.classOf_message (placed_allMessages hplaced entry hentry) hpart
  refine ⟨d, hd, hsound.filter_nodes ?_ hd.qualifiedName?⟩
  have hstage : ((o.plan s registry extensions .standard).messagesPackage, messages) ∈ stages ++ extras := by
    rw [hstages]
    exact List.mem_append_left _ (.head _)
  refine (mem_nodes_of_laid hsound hmembers).2 ⟨_, hstage, ?_⟩
  exact Declaration.mem_nodesAll.2 ⟨d, hsub d (.head _), Declaration.mem_nodes_self hd.qualifiedName?⟩

end Classes

namespace Connector

variable {c : Connector} {role : Role}

theorem interface_of_filed {stages : List Stage} {topics : List Topic} {validate : Bool}
    (haggregated : Service.aggregate topics validate = .ok c.definitions) (h : c.RolePackages role stages) {t : Topic}
    (ht : t ∈ topics) : ∃ stage ∈ stages, ∃ interface ∈ stage.2, ∃ methods,
      interface = .type (c.serviceName role t.classification.version t.classification.service) ⟨none, none⟩
        Shape.protocol (methods.map .method) ∧
      List.Forall₂ (c.MethodOf role) ((topics.filter (Topic.belongsTo t.classification.version
        t.classification.service)).filter Topic.carriesMessage) methods := by
  obtain ⟨version, hversion, service, hservice, htopic⟩ := (Service.filed_iff haggregated).2 ht
  have htopics := Service.topics_of_service haggregated hversion hservice
  obtain ⟨hversion', hservice'⟩ : t.classification.version = version.1 ∧ t.classification.service = service.1 := by
    rw [htopics] at htopic
    simpa [Topic.belongsTo] using (List.mem_filter.1 htopic).2
  obtain ⟨stage, hstage, inner, hinterface, hinner⟩ := interface_of_rolePackages h hversion hservice
  have hclassified : ∀ t ∈ service.2, (c.definitions.information t).isSome := by
    intro t ht
    rw [htopics] at ht
    rw [Service.information_of_mem haggregated (List.mem_filter.1 ht).1]
    rfl
  obtain ⟨methods, rfl, hmethods⟩ := methods_of_topics hclassified hinner
  refine ⟨stage, hstage, _, hinterface, methods, ?_, ?_⟩
  · rw [hversion', hservice']
  · rw [hversion', hservice', ← htopics]
    exact hmethods

theorem methodName_of_methodOf {t : Topic} {m : Declaration.Method} (h : c.MethodOf role t m) :
    c.methodName t = m.name := by
  obtain ⟨information, hinformation, hname⟩ := h.name
  rw [methodName, hinformation, hname]
  rfl

theorem names_of_methods {topics : List Topic} {methods : List Declaration.Method}
    (h : List.Forall₂ (c.MethodOf role) topics methods) :
    methods.map Declaration.Method.name = topics.map c.methodName :=
  (List.forall₂_eq_eq_eq ▸ List.forall₂_map_left_iff.2 (List.forall₂_map_right_iff.2
    (h.imp fun _ _ hm => methodName_of_methodOf hm)) : _ = _).symm

theorem topic_eq_of_name {topics : List Topic} {validate : Bool}
    (haggregated : Service.aggregate topics validate = .ok c.definitions) {methods : List Declaration.Method}
    {t t' : Topic} (hmethods : List.Forall₂ (c.MethodOf role) ((topics.filter (Topic.belongsTo
      t.classification.version t.classification.service)).filter Topic.carriesMessage) methods)
    (hnodup : (methods.map Declaration.Method.name).Nodup) (ht : t ∈ topics) (ht' : t' ∈ topics)
    (hcarries : t.carriesMessage = true) (hcarries' : t'.carriesMessage = true) (hname : t.name = t'.name) :
    t = t' := by
  have hclassified : t.classification = t'.classification := by rw [Topic.classification, Topic.classification, hname]
  rw [names_of_methods hmethods] at hnodup
  refine List.inj_on_of_nodup_map hnodup ?_ ?_ ?_
  · simp [Topic.belongsTo, ht, hcarries]
  · simp [Topic.belongsTo, ht', hcarries', hclassified]
  · rw [methodName, methodName, Service.information_of_mem haggregated ht, Service.information_of_mem haggregated ht',
      hclassified]

/-- The interface of the service of a topic has a method for the topic that mentions a name. -/
def RefersTo (c : Connector) (role : Role) (t : Topic) (tree : Tree) (n : QualifiedName) : Prop :=
  ∃ members method, .type (c.serviceName role t.classification.version t.classification.service) ⟨none, none⟩
      Shape.protocol members ∈ tree.nodes ∧
    .method method ∈ members ∧ c.MethodOf role t method ∧ n ∈ method.mentions

theorem mentions_of_methodOf {t : Topic} {m : Declaration.Method} (h : c.MethodOf role t m) {message : Message}
    (hm : some (.inline message) ∈ [t.publish, t.subscribe]) : messageName c.resolver message ∈ m.mentions := by
  obtain ⟨e, he, hoffers⟩ := h.returns
  have hside : role.sent t = some (.inline message) ∨ role.received t = some (.inline message) := by
    cases role <;> simpa [Role.sent, Role.received, eq_comm, or_comm] using hm
  have hmentioned : messageName c.resolver message ∈ e.references := by
    generalize role.sent t = out at hoffers hside
    generalize role.received t = into at hoffers hside
    have hown : ∀ {found : Message}, c.resolver.registry.lookupMessage (.inline message) = .ok found →
        c.messageClass found = .plain (messageName c.resolver message) := by
      intro found hfound
      obtain rfl := Except.ok.inj hfound
      rfl
    cases hoffers with
    | sending hout =>
        obtain rfl : _ = Schema.MessageRef.inline message := by simpa using hside
        simp [hown hout, TypeExpression.references, TypeExpression.referencesAll, TypeExpression.plain]
    | receiving hinto =>
        obtain rfl : _ = Schema.MessageRef.inline message := by simpa using hside
        simp [hown hinto, TypeExpression.references, TypeExpression.referencesAll, TypeExpression.plain]
    | both hout hinto =>
        rcases hside with hside | hside
        · obtain rfl := Option.some.inj hside
          simp [hown hout, TypeExpression.references, TypeExpression.referencesAll, TypeExpression.plain]
        · obtain rfl := Option.some.inj hside
          simp [hown hinto, TypeExpression.references, TypeExpression.referencesAll, TypeExpression.plain]
  simp [Declaration.Method.mentions, Declaration.Method.annotations, he, hmentioned]

end Connector

theorem carries_of_inline {t : Topic} {m : Message} (h : some (.inline m) ∈ [t.publish, t.subscribe]) :
    t.carriesMessage = true := by
  rcases List.mem_cons.1 h with h | h
  · simp [Topic.carriesMessage, ← h]
  · simp [Topic.carriesMessage, ← List.mem_singleton.1 h]

section Runs

variable {s : Schema} {o : Options} {extensions : List Extension} {r : Result} {registry : Registry}

theorem interface_of_built (hbuilt : Built s o extensions r registry)
    (hextensions : ∀ e ∈ extensions, e = TopicLookup.extension) (role : Role) {t : Topic} (ht : t ∈ s.topics) :
    ∃ methods, .type ((Connector.mk (o.plan s registry extensions .standard).resolver r.definitions).serviceName role
        t.classification.version t.classification.service) ⟨none, none⟩ Shape.protocol (methods.map .method) ∈
          r.tree.nodes ∧
      List.Forall₂ ((Connector.mk (o.plan s registry extensions .standard).resolver r.definitions).MethodOf role)
        ((s.topics.filter (Topic.belongsTo t.classification.version t.classification.service)).filter
          Topic.carriesMessage) methods ∧
      (methods.map Declaration.Method.name).Nodup := by
  obtain ⟨hsound, stages, extras, ⟨messages, types, roles, -, -, hroles, hstages⟩, -, hmembers⟩ :=
    hbuilt.complete hextensions
  obtain ⟨part, hpart, hsub⟩ := hroles.part_of_mem (show role ∈ Role.all by cases role <;> decide)
  obtain ⟨stage, hstage, interface, hinterface, methods, rfl, hmethods⟩ :=
    Connector.interface_of_filed hbuilt.aggregated hpart ht
  have hunit := (mem_units_of_laid hsound hmembers).2 ⟨stage.2, by
    rw [hstages]
    exact List.mem_append_left _ (.tail _ (.tail _ (hsub stage hstage))), hinterface⟩
  refine ⟨methods, Tree.mem_nodes_iff.2 ⟨_, hunit, Declaration.mem_nodes_self rfl⟩, hmethods, ?_⟩
  rw [← Connector.filterMap_memberName?_methods]
  exact Declaration.nodup_memberNames (hsound.orderly_of_mem_units hunit).2

/-- The message that the class of a message in a topic is made from: the component of its name, if there is one. -/
theorem source_of_inline (hnamed : s.MessagesNamed)
    (hapart : ∀ t ∈ s.topics, ∀ t' ∈ s.topics, t.carriesMessage = true → t'.carriesMessage = true →
      t.name = t'.name → t = t') {t : Topic} (ht : t ∈ s.topics) {m : Message}
    (hm : some (.inline m) ∈ [t.publish, t.subscribe]) : ∃ source, (m.name, source) ∈ allMessages s ∧
      ((source ∈ s.messages ∧ source.name = m.name) ∨ (∀ other ∈ s.messages, other.name ≠ m.name) ∧ source = m) := by
  by_cases hcomponent : ∃ other ∈ s.messages, other.name = m.name
  · obtain ⟨other, hother, hname⟩ := hcomponent
    exact ⟨other, hname ▸ mem_allMessages hother, .inl ⟨hother, hname⟩⟩
  · have hfree : ∀ other ∈ s.messages, other.name ≠ m.name := fun other hother hname =>
      hcomponent ⟨other, hother, hname⟩
    obtain ⟨source, hsource⟩ := exists_of_mem_topics ht hm
    obtain ⟨hname, hcomponent | ⟨t', ht', hm'⟩⟩ := of_mem_allMessages hsource
    · exact absurd hname.symm (hfree source hcomponent)
    · obtain ⟨htopics, hmessages⟩ := (hnamed.topics t ht).same_side (hnamed.topics t' ht') hm hm' hname
      exact ⟨source, hsource, .inr ⟨hfree, (hmessages
        (hapart t ht t' ht' (carries_of_inline hm) (carries_of_inline hm') htopics)).symm⟩⟩

/-- The class of a message that a topic spells out, and what it is made from. -/
structure InlineClass (c : Connector) (s : Schema) (tree : Tree) (t : Topic) (m source : Message) : Prop where
  resolved : c.resolver.messageType (.inline m) = .ok (.plain (messageName c.resolver m))
  referred : ∀ role, c.RefersTo role t tree (messageName c.resolver m)
  /-- Nothing else has the name of the class. -/
  declared : ∃ d, ClassOf c.resolver source d ∧
    tree.nodes.filter (fun e => e.qualifiedName? = some (messageName c.resolver m)) = [d]
  origin : (source ∈ s.messages ∧ source.name = m.name) ∨ (∀ other ∈ s.messages, other.name ≠ m.name) ∧ source = m
  /-- It is the message of the topic as long as no component has its name. -/
  own_iff : source = m ↔ ∀ other ∈ s.messages, other.name = m.name → other = m

theorem inline_message_class {text : String} (hread : Schema.ofText text = .ok s)
    (hextensions : ∀ e ∈ extensions, e = TopicLookup.extension) (hrun : (run s o extensions).outcome = .ok r) :
    ∃ registry, Registry.ofSchema s = .ok registry ∧ ∀ t ∈ s.topics, ∀ m,
      some (.inline m) ∈ [t.publish, t.subscribe] → ∃ source,
        InlineClass ⟨(o.plan s registry extensions .standard).resolver, r.definitions⟩ s r.tree t m source := by
  obtain ⟨registry, hbuilt⟩ := built_of_run hrun
  refine ⟨registry, hbuilt.registered, fun t ht m hm => ?_⟩
  have hnodup := nodup_keys_allMessages (Registry.nodup_messages hbuilt.registered)
  -- Topics of one name would have methods of one name in one interface, so the name of a message leads to its topic.
  have hapart : ∀ t ∈ s.topics, ∀ t' ∈ s.topics, t.carriesMessage = true → t'.carriesMessage = true →
      t.name = t'.name → t = t' := by
    intro t ht t' ht' hcarries hcarries' hname
    obtain ⟨methods, -, hmethods, hdistinct⟩ := interface_of_built hbuilt hextensions .client ht
    exact Connector.topic_eq_of_name hbuilt.aggregated hmethods hdistinct ht ht' hcarries hcarries' hname
  obtain ⟨source, hsource, horigin⟩ := source_of_inline (Schema.messagesNamed_of_text hread) hapart ht hm
  have hname : source.name = m.name := (of_mem_allMessages hsource).1.symm
  obtain ⟨d, hclass, hunique⟩ := class_of_entry (Schema.placed_of_text hread) hbuilt hextensions hsource
  refine ⟨source, rfl, fun role => ?_, ⟨d, hclass, ?_⟩, horigin, fun heq other hother hotherName => ?_, fun h => ?_⟩
  · obtain ⟨methods, hnode, hmethods, -⟩ := interface_of_built hbuilt hextensions role ht
    have hlisted : t ∈ (s.topics.filter (Topic.belongsTo t.classification.version t.classification.service)).filter
        Topic.carriesMessage := by
      simp [Topic.belongsTo, ht, carries_of_inline hm]
    obtain ⟨method, hmethod, hof⟩ := Outcome.exists_of_forall₂ hmethods.flip hlisted
    exact ⟨_, method, hnode, List.mem_map_of_mem hmethod, hof, Connector.mentions_of_methodOf hof hm⟩
  · rw [← hunique, messageName, messageName, hname]
  · have hlookup := Entries.lookup_of_mem hnodup (hotherName ▸ mem_allMessages hother)
    have hlookup' := Entries.lookup_of_mem hnodup hsource
    rw [← heq]
    exact Option.some.inj (hlookup.symm.trans hlookup')
  · rcases horigin with ⟨hmem, hname⟩ | ⟨-, hown⟩
    · exact h source hmem hname
    · exact hown

/-- One side of the topic is spelled out under the name of a component, the other side is not. -/
def shadowedText : String :=
  "\x7basyncapi: 1.0.0,host: h,info: \x7bversion: v\x7d,topics: \x7bs.1.t.r.a: \x7b" ++
  "publish: \x7bsummary: Own,payload: \x7btype: string\x7d\x7d," ++
  "subscribe: \x7bpayload: \x7btype: string,enum: [c]\x7d\x7d\x7d\x7d," ++
  "components: \x7bmessages: \x7bPublish.s.1.t.r.a: \x7bpayload: \x7btype: integer\x7d\x7d\x7d\x7d\x7d"

def shadowedMessage : Message :=
  ⟨"Publish.s.1.t.r.a", .primitive "payload" .string ⟨none, none⟩, some "Own", none, false⟩

def shadowingMessage : Message :=
  ⟨"Publish.s.1.t.r.a", .primitive "payload" .integer ⟨none, none⟩, none, none, false⟩

def unshadowedMessage : Message :=
  ⟨"Subscribe.s.1.t.r.a", .enumeration ⟨Schema.messagesSpace, ["Subscribe.s.1.t.r.a"], "payload"⟩ ["c"] ⟨none, none⟩,
    none, none, false⟩

def shadowed : Schema where
  baseTopic := none
  host := "h"
  schemes := []
  about := ⟨none, "v", none⟩
  topics := [⟨"s.1.t.r.a", some (.inline shadowedMessage), some (.inline unshadowedMessage)⟩]
  messages := [shadowingMessage]
  types := []

set_option maxRecDepth 100000 in
theorem shadowed_of_text : Schema.ofText shadowedText = .ok shadowed :=
  Schema.ofText_eq_of_decide (by decide +kernel)

theorem inline_message_class_beside_component : ∃ r registry,
    (run shadowed sampleOptions [TopicLookup.extension]).outcome = .ok r ∧ Registry.ofSchema shadowed = .ok registry ∧
      InlineClass ⟨(sampleOptions.plan shadowed registry [TopicLookup.extension] .standard).resolver, r.definitions⟩
        shadowed r.tree ⟨"s.1.t.r.a", some (.inline shadowedMessage), some (.inline unshadowedMessage)⟩
        unshadowedMessage unshadowedMessage := by
  obtain ⟨r, hr⟩ : ∃ r, (run shadowed sampleOptions [TopicLookup.extension]).outcome = .ok r :=
    Outcome.exists_ok_of_isSome (by decide +kernel)
  obtain ⟨registry, hregistry, hinline⟩ := inline_message_class shadowed_of_text (by simp) hr
  obtain ⟨source, hclass⟩ := hinline _ (.head _) unshadowedMessage (.tail _ (.head _))
  obtain rfl : source = unshadowedMessage := hclass.own_iff.2 (by decide)
  exact ⟨r, registry, hr, hregistry, hclass⟩

/-- Nothing is made from the message of the topic. -/
theorem inline_message_shadowed : Schema.ofText shadowedText = .ok shadowed ∧
    (∃ t ∈ shadowed.topics, t.publish = some (.inline shadowedMessage)) ∧ ∃ r registry,
      (run shadowed sampleOptions []).outcome = .ok r ∧ Registry.ofSchema shadowed = .ok registry ∧
        ∀ d ∈ r.tree.nodes, ¬ ClassOf (sampleOptions.plan shadowed registry [] .standard).resolver shadowedMessage d := by
  obtain ⟨r, hr⟩ : ∃ r, (run shadowed sampleOptions []).outcome = .ok r :=
    Outcome.exists_ok_of_isSome (by decide +kernel)
  obtain ⟨registry, hbuilt⟩ := built_of_run hr
  refine ⟨shadowed_of_text, ⟨_, .head _, rfl⟩, r, registry, hr, hbuilt.registered, fun d hd hclass => ?_⟩
  obtain ⟨other, hother, hunique⟩ := class_of_entry (Schema.placed_of_text shadowed_of_text) hbuilt (by simp)
    (mem_allMessages (s := shadowed) (m := shadowingMessage) (.head _))
  have hmem : d ∈ r.tree.nodes.filter fun e => e.qualifiedName? =
      some (messageName (sampleOptions.plan shadowed registry [] .standard).resolver shadowingMessage) :=
    List.mem_filter.2 ⟨hd, decide_eq_true hclass.qualifiedName?⟩
  rw [hunique] at hmem
  obtain rfl := List.mem_singleton.1 hmem
  cases hclass
  cases hother

end Runs

end TopicBindings.Generation
