import TopicBindings.Proofs.Generation.InlineMessages
import TopicBindings.Proofs.Service.Partition
import TopicBindings.Proofs.Source.Identifier
import TopicBindings.Proofs.Source.Imports

/-!
The tables of topics beside the interfaces. Each table lists the topics that have a message in its direction, in their
order and each of them once, under the class that the methods of the topic return for that direction.
-/

namespace TopicBindings

namespace Service.Role

variable {t : Topic} {ref : Schema.MessageRef}

theorem carries_of_sent (role : Role) (h : role.sent t = some ref) : t.carriesMessage = true := by
  cases role <;> simp_all [Role.sent, Topic.carriesMessage]

theorem carries_of_received (role : Role) (h : role.received t = some ref) : t.carriesMessage = true := by
  cases role <;> simp_all [Role.received, Topic.carriesMessage]

end Service.Role

namespace Generation

open Binding (QualifiedName TypeExpression)
open Declaration (Method RawContent Scope Shape Tree)
open Schema (Message MessageRef)
open Service (Role)

namespace Connector

def publishArgument? : TypeExpression → Option TypeExpression
  | .apply target [out] => if target = publish then some out else none
  | .apply target [out, _] => if target = publishSubscribe then some out else none
  | _ => none

def subscribeArgument? : TypeExpression → Option TypeExpression
  | .apply target [into] => if target = subscribe then some into else none
  | .apply target [_, into] => if target = publishSubscribe then some into else none
  | _ => none

section Results

variable {c : Connector} {role : Role} {ref : MessageRef} {message : Message} {e : TypeExpression}

theorem Offers.publishes {into : Option MessageRef} (h : c.Offers (some ref) into e)
    (hmessage : c.resolver.registry.lookupMessage ref = .ok message) :
    publishArgument? e = some (c.messageClass message) := by
  cases h with
  | sending hout =>
      have hsame := Except.ok.inj (hout.symm.trans hmessage)
      simp [publishArgument?, hsame]
  | both hout =>
      have hsame := Except.ok.inj (hout.symm.trans hmessage)
      simp [publishArgument?, hsame]

theorem Offers.subscribes {out : Option MessageRef} (h : c.Offers out (some ref) e)
    (hmessage : c.resolver.registry.lookupMessage ref = .ok message) :
    subscribeArgument? e = some (c.messageClass message) := by
  cases h with
  | receiving hinto =>
      have hsame := Except.ok.inj (hinto.symm.trans hmessage)
      simp [subscribeArgument?, hsame]
  | both _ hinto =>
      have hsame := Except.ok.inj (hinto.symm.trans hmessage)
      simp [subscribeArgument?, hsame]

/-- The one method of a topic, in the one interface of its service, returns a type with a property. -/
def Returns (c : Connector) (role : Role) (t : Topic) (tree : Tree) (P : TypeExpression → Prop) : Prop :=
  ∃ (methods : List Method) (method : Method) (e : TypeExpression), tree.nodes.filter (fun d => d.qualifiedName? =
        some (c.serviceName role t.classification.version t.classification.service)) =
      [.type (c.serviceName role t.classification.version t.classification.service) ⟨none, none⟩ Shape.protocol
        (methods.map .method)] ∧
    methods.filter (fun m => m.name = c.methodName t) = [method] ∧ method.returns = some e ∧ P e

theorem Returns.mono {t : Topic} {tree : Tree} {P Q : TypeExpression → Prop} (h : c.Returns role t tree P)
    (hPQ : ∀ e, P e → Q e) : c.Returns role t tree Q := by
  obtain ⟨methods, method, e, hinterface, hmethod, hreturns, he⟩ := h
  exact ⟨methods, method, e, hinterface, hmethod, hreturns, hPQ e he⟩

end Results

end Connector

section Built

variable {s : Schema} {o : Options} {extensions : List Extension} {r : Result} {registry : Registry}

theorem returns_of_built (hbuilt : Built s o extensions r registry)
    (hextensions : ∀ e ∈ extensions, e = TopicLookup.extension) (role : Role) {t : Topic} (ht : t ∈ s.topics)
    (hcarries : t.carriesMessage = true) :
    (Connector.mk (o.plan s registry extensions .standard).resolver r.definitions).Returns role t r.tree
      ((Connector.mk (o.plan s registry extensions .standard).resolver r.definitions).Offers
        (role.sent t) (role.received t)) := by
  obtain ⟨methods, hnode, hmethods, hnodup⟩ := interface_of_built hbuilt hextensions role ht
  have hlisted : t ∈ (s.topics.filter (Topic.belongsTo t.classification.version t.classification.service)).filter
      Topic.carriesMessage := by
    simp [Topic.belongsTo, ht, hcarries]
  obtain ⟨method, hmethod, hof⟩ := Outcome.exists_of_forall₂ hmethods.flip hlisted
  obtain ⟨e, he, hoffers⟩ := hof.returns
  have hunique : methods.filter (fun m => some m.name = some (Connector.methodName
      ⟨(o.plan s registry extensions .standard).resolver, r.definitions⟩ t)) = [method] :=
    Declaration.filter_eq_singleton (f := fun m : Method => some m.name)
      (by simpa [List.filterMap_eq_map] using hnodup) hmethod
      (congrArg some (Connector.methodName_of_methodOf hof).symm)
  refine ⟨methods, method, e, ?_, by simpa using hunique, he, hoffers⟩
  exact (hbuilt.complete hextensions).1.filter_nodes hnode rfl

/-- A topic with a message is described only once: a second one would be another method of the same name. -/
theorem nodup_carrying (hbuilt : Built s o extensions r registry)
    (hextensions : ∀ e ∈ extensions, e = TopicLookup.extension) : (s.topics.filter Topic.carriesMessage).Nodup := by
  refine List.nodup_iff_count_le_one.2 fun t => ?_
  by_cases ht : t ∈ s.topics.filter Topic.carriesMessage
  · obtain ⟨hmem, hcarries⟩ := List.mem_filter.1 ht
    obtain ⟨methods, -, hmethods, hnodup⟩ := interface_of_built hbuilt hextensions .client hmem
    have hgroup := hnodup
    rw [Connector.names_of_methods hmethods] at hgroup
    have hown : Topic.belongsTo t.classification.version t.classification.service t = true := by
      simp [Topic.belongsTo]
    have hcount := List.nodup_iff_count_le_one.1 hgroup.of_map t
    rwa [List.count_filter hcarries, List.count_filter hown, ← List.count_filter (l := s.topics) hcarries] at hcount
  · rw [List.count_eq_zero.2 ht]
    exact Nat.zero_le 1

theorem nodup_names_carrying (hbuilt : Built s o extensions r registry)
    (hextensions : ∀ e ∈ extensions, e = TopicLookup.extension) :
    ((s.topics.filter Topic.carriesMessage).map Topic.name).Nodup := by
  refine List.Nodup.map_on (fun t ht t' ht' hname => ?_) (nodup_carrying hbuilt hextensions)
  obtain ⟨hmem, hcarries⟩ := List.mem_filter.1 ht
  obtain ⟨hmem', hcarries'⟩ := List.mem_filter.1 ht'
  obtain ⟨methods, -, hmethods, hdistinct⟩ := interface_of_built hbuilt hextensions .client hmem
  exact Connector.topic_eq_of_name hbuilt.aggregated hmethods hdistinct hmem hmem' hcarries hcarries' hname

end Built

namespace TopicLookup

/-- A line of a table: a topic, and the class of its message as it is spelled. -/
structure Row where
  topic : Topic
  name : QualifiedName
  spelling : String
  spelled : Source.reference name = .ok spelling

def Row.line (row : Row) : String :=
  "    " ++ String.ofList (quoteKey row.topic.name.toList) ++ ": " ++ row.spelling ++ ","

def Row.Carries (c : Context) (side : Topic → Option MessageRef) (row : Row) : Prop :=
  ∃ ref message, side row.topic = some ref ∧ c.resolver.registry.lookupMessage ref = .ok message ∧
    row.name = Generation.messageName c.resolver message

section Rows

variable {c : Context}

theorem row_of_entry {side : Topic → Option MessageRef} {topic : Topic} {ref : MessageRef} {out : String × QualifiedName}
    (hside : side topic = some ref) (h : entry c topic.name ref = .ok out) :
    ∃ row : Row, row.topic = topic ∧ out = (row.line, row.name) ∧ row.Carries c side := by
  obtain ⟨name, hname, h⟩ := Outcome.bind_ok.1 h
  obtain ⟨message, hmessage, hname⟩ := Outcome.bind_ok.1 hname
  obtain ⟨spelling, hspelling, h⟩ := Outcome.bind_ok.1 h
  obtain rfl := Outcome.pure_ok.1 hname
  obtain rfl := Outcome.pure_ok.1 h
  exact ⟨⟨topic, _, spelling, Outcome.mapError_ok.1 hspelling⟩, rfl, rfl, ref, message, hside,
    Outcome.mapError_ok.1 hmessage, rfl⟩

theorem rows_of_side (side : Topic → Option MessageRef) {topics : List Topic}
    {parts : List (List (String × QualifiedName))}
    (h : List.Forall₂ (fun t part => (side t).toList.mapM (entry c t.name) = .ok part) topics parts) :
    ∃ rows : List Row, parts.flatten = rows.map (fun row => (row.line, row.name)) ∧
      rows.map Row.topic = topics.filter (fun t => (side t).isSome) ∧ ∀ row ∈ rows, row.Carries c side := by
  induction h with
  | nil => exact ⟨[], rfl, rfl, by simp⟩
  | @cons t part topics parts hpart _ ih =>
      obtain ⟨rows, hparts, htopics, hrows⟩ := ih
      cases hside : side t with
      | none =>
          rw [hside] at hpart
          obtain rfl := Outcome.pure_ok.1 hpart
          exact ⟨rows, hparts, by simp [hside, htopics], hrows⟩
      | some ref =>
          rw [hside] at hpart
          have hentry : List.Forall₂ (fun ref out => entry c t.name ref = .ok out) [ref] part :=
            Outcome.mapM_ok.1 hpart
          obtain ⟨out, none, hout, hnone, rfl⟩ := List.forall₂_cons_left_iff.1 hentry
          obtain rfl := List.forall₂_nil_left_iff.1 hnone
          obtain ⟨row, rfl, rfl, hrow⟩ := row_of_entry hside hout
          refine ⟨row :: rows, by simp [hparts], by simp [hside, htopics], fun other hother => ?_⟩
          rcases List.mem_cons.1 hother with rfl | hother
          · exact hrow
          · exact hrows other hother

structure Tabulates (c : Context) (topics : List Topic) (content : RawContent) (published subscribed : List Row) :
    Prop where
  lines : content.lines = table "PUBLISH" (published.map Row.line) ++ table "SUBSCRIBE" (subscribed.map Row.line)
  publishedTopics : published.map Row.topic = topics.filter fun t => t.publish.isSome
  subscribedTopics : subscribed.map Row.topic = topics.filter fun t => t.subscribe.isSome
  publishes : ∀ row ∈ published, row.Carries c Topic.publish
  subscribes : ∀ row ∈ subscribed, row.Carries c Topic.subscribe
  references : ∀ n, n ∈ content.references ↔
    n = .external "typing" "ClassVar" ∨ ∃ row ∈ published ++ subscribed, row.name = n

theorem tabulates_of_entries {topics : List Topic}
    {rows : List (List (String × QualifiedName) × List (String × QualifiedName))}
    (h : topics.mapM (entries c) = .ok rows) :
    ∃ published subscribed, Tabulates c topics (content rows) published subscribed := by
  -- Every topic gives the lines of both tables at once; they are sorted out into the rows of each side.
  have hrows := Outcome.mapM_ok.1 h
  have hsides : List.Forall₂ (fun t row => t.publish.toList.mapM (entry c t.name) = .ok row.1 ∧
      t.subscribe.toList.mapM (entry c t.name) = .ok row.2) topics rows := hrows.imp fun t row hrow => by
    obtain ⟨first, hfirst, hrow⟩ := Outcome.bind_ok.1 hrow
    obtain ⟨second, hsecond, hrow⟩ := Outcome.bind_ok.1 hrow
    obtain rfl := Outcome.pure_ok.1 hrow
    exact ⟨hfirst, hsecond⟩
  have hpublish : List.Forall₂ (fun t part => t.publish.toList.mapM (entry c t.name) = .ok part) topics
      (rows.map Prod.fst) := List.forall₂_map_right_iff.2 (hsides.imp fun _ _ hrow => hrow.1)
  have hsubscribe : List.Forall₂ (fun t part => t.subscribe.toList.mapM (entry c t.name) = .ok part) topics
      (rows.map Prod.snd) := List.forall₂_map_right_iff.2 (hsides.imp fun _ _ hrow => hrow.2)
  obtain ⟨published, hpublished, htopics, hcarries⟩ := rows_of_side Topic.publish hpublish
  obtain ⟨subscribed, hsubscribed, htopics', hcarries'⟩ := rows_of_side Topic.subscribe hsubscribe
  have hlines : ∀ (side : List (String × QualifiedName) × List (String × QualifiedName) → List (String × QualifiedName))
      (listed : List Row), (rows.map side).flatten = listed.map (fun row => (row.line, row.name)) →
        (rows.flatMap fun row => (side row).map Prod.fst) = listed.map Row.line := by
    intro side listed hlisted
    have hflat := congrArg (List.map Prod.fst) hlisted
    simpa [List.map_flatten, List.flatMap_def, Function.comp_def] using hflat
  have hnames : ∀ n, (n ∈ rows.flatMap fun r => (r.1 ++ r.2).map Prod.snd) ↔
      n ∈ (rows.map Prod.fst).flatten.map Prod.snd ∨ n ∈ (rows.map Prod.snd).flatten.map Prod.snd := by
    intro n
    simp only [List.mem_flatMap, List.mem_map, List.mem_flatten, List.mem_append]
    constructor
    · rintro ⟨row, hrow, entry, hentry | hentry, rfl⟩
      · exact .inl ⟨entry, ⟨_, ⟨row, hrow, rfl⟩, hentry⟩, rfl⟩
      · exact .inr ⟨entry, ⟨_, ⟨row, hrow, rfl⟩, hentry⟩, rfl⟩
    · rintro (⟨entry, ⟨_, ⟨row, hrow, rfl⟩, hentry⟩, rfl⟩ | ⟨entry, ⟨_, ⟨row, hrow, rfl⟩, hentry⟩, rfl⟩)
      · exact ⟨row, hrow, entry, .inl hentry, rfl⟩
      · exact ⟨row, hrow, entry, .inr hentry, rfl⟩
  refine ⟨published, subscribed, ?_, htopics, htopics', hcarries, hcarries', fun n => ?_⟩
  · rw [content, hlines Prod.fst published hpublished, hlines Prod.snd subscribed hsubscribed]
  · rw [content, List.mem_cons, hnames, hpublished, hsubscribed]
    simp [or_and_right, exists_or]

theorem Tabulates.of_eraseDups {topics : List Topic} {content : RawContent} {published subscribed : List Row}
    (hcarrying : (topics.filter Topic.carriesMessage).Nodup)
    (h : Tabulates c topics.eraseDups content published subscribed) : Tabulates c topics content published subscribed := by
  -- A topic with a message occurs once only, so that leaving out repetitions does not touch the rows.
  have hside : ∀ p : Topic → Bool, (∀ t, p t = true → t.carriesMessage = true) →
      topics.eraseDups.filter p = topics.filter p := by
    intro p hp
    have hsub : topics.filter p = (topics.filter Topic.carriesMessage).filter p := by
      rw [List.filter_filter]
      refine List.filter_congr fun t _ => ?_
      cases hpt : p t with
      | false => rfl
      | true => simp [hp t hpt]
    rw [Entries.filter_eraseDups, Entries.eraseDups_of_nodup (hsub ▸ hcarrying.filter p)]
  exact { h with
    publishedTopics := h.publishedTopics.trans (hside _ fun t ht => by simp [Topic.carriesMessage, ht])
    subscribedTopics := h.subscribedTopics.trans (hside _ fun t ht => by simp [Topic.carriesMessage, ht]) }

end Rows

def tableName (c : Context) : QualifiedName :=
  .inPackage (packageName c) typeName

def declaration (c : Context) (content : RawContent) : Declaration :=
  .type (tableName c) doc Shape.plain [.raw content]

/-- The tables name the classes that the interfaces of both roles return. -/
structure Agrees (c : Connector) (topics : List Topic) (tree : Tree) (content : RawContent)
    (published subscribed : List Row) : Prop
    extends Tabulates ⟨c.resolver, c.definitions⟩ topics content published subscribed where
  declared : tree.nodes.filter (fun d => d.qualifiedName? = some (tableName ⟨c.resolver, c.definitions⟩)) =
    [declaration ⟨c.resolver, c.definitions⟩ content]
  publishedOnce : (published.map fun row => row.topic.name).Nodup
  subscribedOnce : (subscribed.map fun row => row.topic.name).Nodup
  publishedAs : ∀ row ∈ published,
    c.Returns .client row.topic tree (fun e => Connector.publishArgument? e = some (.plain row.name)) ∧
    c.Returns .server row.topic tree (fun e => Connector.subscribeArgument? e = some (.plain row.name))
  subscribedAs : ∀ row ∈ subscribed,
    c.Returns .client row.topic tree (fun e => Connector.subscribeArgument? e = some (.plain row.name)) ∧
    c.Returns .server row.topic tree (fun e => Connector.publishArgument? e = some (.plain row.name))
  imported : ∀ row ∈ published ++ subscribed, ∃ m, Source.moduleOf row.name = .ok (some m) ∧
    ∀ home, m ∈ Source.runtimeImports home (declaration ⟨c.resolver, c.definitions⟩ content)

section Run

variable {s : Schema} {o : Options} {r : Result} {registry : Registry}

def contextOf (s : Schema) (o : Options) (registry : Registry) (d : Service.Definitions) : Context :=
  ⟨(o.plan s registry [extension] .standard).resolver, d⟩

theorem tabulated_of_built (hbuilt : Built s o [extension] r registry) : ∃ content published subscribed,
    (packageName (contextOf s o registry r.definitions),
      declaration (contextOf s o registry r.definitions) content) ∈ r.tree.units ∧
    Tabulates (contextOf s o registry r.definitions) s.topics content published subscribed := by
  obtain ⟨hsound, stages, extras, -, hextras, hmembers⟩ := hbuilt.complete (by simp)
  obtain ⟨part, ⟨rows, hrows, rfl⟩, hsub⟩ := hextras.part_of_mem (List.mem_singleton_self extension)
  rw [Service.keys_topics hbuilt.aggregated] at hrows
  obtain ⟨published, subscribed, htabulates⟩ := tabulates_of_entries hrows
  refine ⟨content rows, published, subscribed, ?_, htabulates.of_eraseDups (nodup_carrying hbuilt (by simp))⟩
  exact (mem_units_of_laid hsound hmembers).2 ⟨_, List.mem_append_right _ (hsub _ (.head _)), .head _⟩

theorem Row.Carries.generated {c : Context} {side : Topic → Option MessageRef} {row : Row} (h : row.Carries c side) :
    row.name.isGenerated = true := by
  obtain ⟨ref, message, -, -, hname⟩ := h
  have hpackage := c.resolver.packageName_ne_empty (show Schema.messagesSpace ≠ "" by decide)
  simp [hname, Generation.messageName, QualifiedName.inPackage, QualifiedName.isGenerated, hpackage]

theorem Row.Carries.imported {c : Context} {side : Topic → Option MessageRef} {content : RawContent} {row : Row}
    (h : row.Carries c side) (href : row.name ∈ content.references) :
    ∃ m, Source.moduleOf row.name = .ok (some m) ∧ ∀ home, m ∈ Source.runtimeImports home (declaration c content) := by
  have hforeign := (Source.origin_of_generated h.generated).1
  obtain ⟨m, hm⟩ := Source.exists_module (Source.hasModule_of_reference row.spelled) hforeign
  have hmodule : m ∈ Source.modulesOf content.references := Source.mem_modulesOf.2 ⟨row.name, href, hm⟩
  refine ⟨m, hm, fun home => Source.mem_runtimeImports ?_⟩
  simp [declaration, Source.runtimeModules, Source.runtimeModulesAll, hmodule]

theorem Row.Carries.returns_sent (hbuilt : Built s o [extension] r registry) (role : Role) {row : Row}
    (h : row.Carries (contextOf s o registry r.definitions) role.sent) (hmem : row.topic ∈ s.topics) :
    (Connector.mk (o.plan s registry [extension] .standard).resolver r.definitions).Returns role row.topic r.tree
      fun e => Connector.publishArgument? e = some (.plain row.name) := by
  obtain ⟨ref, message, hside, hmessage, hname⟩ := h
  refine (returns_of_built hbuilt (by simp) role hmem (role.carries_of_sent hside)).mono fun e he => ?_
  rw [hside] at he
  rw [he.publishes hmessage, hname]
  rfl

theorem Row.Carries.returns_received (hbuilt : Built s o [extension] r registry) (role : Role) {row : Row}
    (h : row.Carries (contextOf s o registry r.definitions) role.received) (hmem : row.topic ∈ s.topics) :
    (Connector.mk (o.plan s registry [extension] .standard).resolver r.definitions).Returns role row.topic r.tree
      fun e => Connector.subscribeArgument? e = some (.plain row.name) := by
  obtain ⟨ref, message, hside, hmessage, hname⟩ := h
  refine (returns_of_built hbuilt (by simp) role hmem (role.carries_of_received hside)).mono fun e he => ?_
  rw [hside] at he
  rw [he.subscribes hmessage, hname]
  rfl

theorem mem_of_listed {rows : List Row} {topics : List Topic} {p : Topic → Bool}
    (h : rows.map Row.topic = topics.filter p) {row : Row} (hrow : row ∈ rows) : row.topic ∈ topics := by
  have hlisted := h ▸ List.mem_map_of_mem (f := Row.topic) hrow
  exact (List.mem_filter.1 hlisted).1

theorem nodup_names_listed (hbuilt : Built s o [extension] r registry) {rows : List Row} {p : Topic → Bool}
    (hp : ∀ t, p t = true → t.carriesMessage = true) (h : rows.map Row.topic = s.topics.filter p) :
    (rows.map fun row => row.topic.name).Nodup := by
  have hnames : (rows.map fun row => row.topic.name) = (s.topics.filter p).map Topic.name := by
    rw [← h, List.map_map]
    rfl
  rw [hnames]
  exact (nodup_names_carrying hbuilt (by simp)).sublist (List.Sublist.map _ (List.monotone_filter_right _ hp))

theorem tables_agree (hrun : (run s o [extension]).outcome = .ok r) :
    ∃ registry content published subscribed, Registry.ofSchema s = .ok registry ∧
      Agrees ⟨(o.plan s registry [extension] .standard).resolver, r.definitions⟩ s.topics r.tree content
        published subscribed := by
  obtain ⟨registry, hbuilt⟩ := built_of_run hrun
  obtain ⟨content, published, subscribed, hunit, htabulates⟩ := tabulated_of_built hbuilt
  have hnode := Tree.mem_nodes_iff.2 ⟨_, hunit, Declaration.mem_nodes_self rfl⟩
  have hpublished : ∀ row ∈ published, row.topic ∈ s.topics := fun _ => mem_of_listed htabulates.publishedTopics
  have hsubscribed : ∀ row ∈ subscribed, row.topic ∈ s.topics := fun _ => mem_of_listed htabulates.subscribedTopics
  refine ⟨registry, content, published, subscribed, hbuilt.registered, { htabulates with
    declared := (hbuilt.complete (by simp)).1.filter_nodes hnode rfl
    publishedOnce := nodup_names_listed hbuilt (fun t ht => by simp [Topic.carriesMessage, ht]) htabulates.publishedTopics
    subscribedOnce := nodup_names_listed hbuilt (fun t ht => by simp [Topic.carriesMessage, ht]) htabulates.subscribedTopics
    publishedAs := fun row hrow => ?_
    subscribedAs := fun row hrow => ?_
    imported := fun row hrow => ?_ }⟩
  · have hcarries := htabulates.publishes row hrow
    exact ⟨hcarries.returns_sent hbuilt .client (hpublished row hrow),
      hcarries.returns_received hbuilt .server (hpublished row hrow)⟩
  · have hcarries := htabulates.subscribes row hrow
    exact ⟨hcarries.returns_received hbuilt .client (hsubscribed row hrow),
      hcarries.returns_sent hbuilt .server (hsubscribed row hrow)⟩
  · rcases List.mem_append.1 hrow with hside | hside
    · exact (htabulates.publishes row hside).imported ((htabulates.references _).2 (.inr ⟨row, hrow, rfl⟩))
    · exact (htabulates.subscribes row hside).imported ((htabulates.references _).2 (.inr ⟨row, hrow, rfl⟩))

theorem tables_agree_sample : ∃ r registry content published subscribed,
    (run .sample sampleOptions [extension]).outcome = .ok r ∧ Registry.ofSchema .sample = .ok registry ∧
      Agrees ⟨(sampleOptions.plan .sample registry [extension] .standard).resolver, r.definitions⟩
        Schema.sample.topics r.tree content published subscribed := by
  obtain ⟨r, hr⟩ := exists_sample_run
  obtain ⟨registry, content, published, subscribed, hregistry, hagrees⟩ := tables_agree hr
  exact ⟨r, registry, content, published, subscribed, hr, hregistry, hagrees⟩

end Run

end TopicLookup

end Generation

end TopicBindings
