import TopicBindings.Proofs.Binding.Expressions
import TopicBindings.Proofs.Declaration.Mentions
import TopicBindings.Proofs.Generation.Mirror
import TopicBindings.Proofs.Service.Filing

/-!
Where the generated names in the declarations of a run come from: from objects and enumerations that are
spelled out, from messages that topics carry, from services at their versions and from the versions.
-/

namespace TopicBindings.Generation

open Binding (QualifiedName Resolver TypeExpression)
open Build (Stage)
open Declaration (Confined Method Scope Shape)
open Schema (Message MessageRef Property SchemaType)
open Schema.SchemaType (structured structuredAll)
open Service (Definitions Latest Role)

variable {K : QualifiedName → Prop}

theorem confined_field {f : Declaration.Field} (h : f.type.Within K) : Confined K (.field f) :=
  h

theorem isGenerated_dataClass : ∀ n ∈ Shape.dataClass.mentions, n.isGenerated = false := by
  decide

theorem isGenerated_protocol : ∀ n ∈ Shape.protocol.mentions, n.isGenerated = false := by
  decide

theorem isGenerated_plain : ∀ n ∈ Shape.plain.mentions, n.isGenerated = false := by
  decide

theorem confined_method {m : Method} (hparameters : m.parameters = []) (hdecorators : m.decorators = [])
    (h : ∀ e, m.returns = some e → e.Within K) : Confined K (.method m) := by
  intro n hn hgenerated
  have hn : n ∈ m.mentions := hn
  rw [Method.mentions, Method.annotations, hparameters, hdecorators] at hn
  cases hreturns : m.returns with
  | none =>
      rw [hreturns] at hn
      simp at hn
  | some e =>
      rw [hreturns] at hn
      refine h e hreturns n ?_ hgenerated
      simpa using hn

namespace Plan

variable {p : Plan}

theorem confined_of_field (hp : p.resolver.Finds K) {property : Property SchemaType} {f : Declaration.Field}
    (hnames : p.resolver.Names K property.type.structured) (h : p.field property = .ok f) :
    Confined K (.field f) :=
  confined_field (hp.propertyType hnames (fieldOf_field h).type)

mutual

theorem confined_inline (hp : p.resolver.Finds K) : ∀ {scope : Scope} (type : SchemaType) {out : List Declaration},
    p.resolver.Names K type.structured → p.Inline scope type out → ∀ d ∈ out, Confined K d
  | scope, .object place properties doc, _, hnames, h, d, hd => by
      obtain ⟨inner, hinner, rfl⟩ := h
      obtain rfl := List.mem_singleton.1 hd
      exact .type isGenerated_dataClass
        (confined_members hp properties (fun t ht => hnames t (.tail _ ht)) hinner)
  | scope, .enumeration place literals doc, _, _, h, d, hd => by
      obtain ⟨entries, -, rfl⟩ := h
      obtain rfl := List.mem_singleton.1 hd
      exact .enumeration _ _ _
  | _, .array _ item _ _, _, hnames, h, d, hd => confined_inline hp item hnames h d hd
  | _, .primitive .., _, _, h, d, hd => by
      rw [Inline] at h
      rw [h] at hd
      cases hd
  | _, .reference _, _, _, h, d, hd => by
      rw [Inline] at h
      rw [h] at hd
      cases hd

theorem confined_members (hp : p.resolver.Finds K) : ∀ {scope : Scope} (properties : List (Property SchemaType))
    {out : List Declaration}, p.resolver.Names K (structuredAll properties) →
    p.Members scope properties out → ∀ d ∈ out, Confined K d
  | _, [], _, _, h, d, hd => by
      rw [Members] at h
      rw [h] at hd
      cases hd
  | _, ⟨name, type, required, description⟩ :: rest, _, hnames, h, d, hd => by
      rw [Members] at h
      obtain ⟨first, field, others, hfirst, hfield, hothers, rfl⟩ := h
      have htype : p.resolver.Names K type.structured := fun t ht => hnames t (List.mem_append_left _ ht)
      rcases List.mem_append.1 hd with hd | hd
      · exact confined_inline hp type htype hfirst d hd
      · rcases List.mem_cons.1 hd with rfl | hd
        · exact confined_of_field hp htype hfield
        · exact confined_members hp rest (fun t ht => hnames t (List.mem_append_right _ ht)) hothers d hd

end

theorem confined_payload (hp : p.resolver.Finds K) {message : Message} {out : List Declaration}
    (hstands : message.payload.Stands Schema.messagesSpace [message.name])
    (hnames : p.resolver.Names K message.payload.structured)
    (h : p.Payload (scopeOf p.resolver Schema.messagesSpace [message.name]) message out) :
    ∀ d ∈ out, Confined K d := by
  obtain ⟨first, type, hfirst, htype, rfl⟩ := resolved_of_payload hstands h
  intro d hd
  rcases List.mem_append.1 hd with hd | hd
  · exact confined_inline hp _ hnames hfirst d hd
  · obtain rfl := List.mem_singleton.1 hd
    exact confined_field (hp.propertyType hnames htype)

theorem confined_message (hp : p.resolver.Finds K) {message : Message} {out : List Declaration}
    (hstands : message.payload.Stands Schema.messagesSpace [message.name])
    (hnames : p.resolver.Names K message.payload.structured)
    (h : p.MessageClass (.ofPackage p.messagesPackage) message out) : ∀ d ∈ out, Confined K d := by
  obtain ⟨inner, hinner, rfl⟩ := h
  intro d hd
  obtain rfl := List.mem_singleton.1 hd
  exact .type isGenerated_dataClass (confined_payload hp hstands hnames hinner)

end Plan

namespace Connector

variable {c : Connector} {role : Role} {t : Topic}

/-- What the interfaces of a role mention has a property. -/
structure Supplied (c : Connector) (role : Role) (K : QualifiedName → Prop) : Prop where
  messages : ∀ t, Service.Filed c.definitions.versions t → ∀ ref, some ref ∈ [t.publish, t.subscribe] →
    ∀ e, c.resolver.messageType ref = .ok e → e.Within K
  services : ∀ label service, Service.Offered c.definitions.versions label service →
    K (c.serviceName role label service)
  versions : ∀ version ∈ c.definitions.versions, K ((c.entryScope role).nameOf (versionTypeName version.1))
  latest : ∀ entry ∈ c.definitions.latest,
    Service.Offered c.definitions.versions entry.2.label entry.2.service

theorem mem_of_side {ref : MessageRef} (h : ref ∈ [role.sent t, role.received t].reduceOption) :
    some ref ∈ [t.publish, t.subscribe] := by
  have hside := List.reduceOption_mem_iff.1 h
  cases role with
  | client => exact hside
  | server => simpa [Role.sent, Role.received, or_comm] using hside

theorem within_offer {e : TypeExpression} (h : c.offer role t = .ok (some e))
    (hmessages : ∀ ref, some ref ∈ [t.publish, t.subscribe] →
      ∀ e, c.resolver.messageType ref = .ok e → e.Within K) : e.Within K := by
  obtain ⟨arguments, harguments, happly⟩ := (offering_of_offer h).arguments
  obtain ⟨name, rfl⟩ := happly e rfl
  refine TypeExpression.within_apply (fun hgenerated => ?_) fun argument ha => ?_
  -- What is applied to the classes of the messages is a type of the runtime and not a generated one.
  · simp [QualifiedName.isGenerated, QualifiedName.external] at hgenerated
  · obtain ⟨ref, href, hclass⟩ := Outcome.exists_of_forall₂ harguments ha
    exact hmessages ref (mem_of_side href) argument hclass

theorem confined_accessor {name : String} {type : QualifiedName} {summary : Option String}
    {delegateTo : List String} (h : K type) :
    Confined K (.method (accessor name type summary delegateTo)) := by
  refine confined_method rfl rfl fun e he => ?_
  obtain rfl := Option.some.inj he
  exact TypeExpression.within_plain fun _ => h

namespace Supplied

variable (h : c.Supplied role K)
include h

theorem topicMethods {t : Topic} (ht : Service.Filed c.definitions.versions t)
    {out : List Declaration} (hout : c.TopicMethods role t out) : ∀ d ∈ out, Confined K d := by
  obtain ⟨method?, hmethod, rfl⟩ := hout
  obtain ⟨e?, he, hmap⟩ := Outcome.bind_ok.1 hmethod
  obtain rfl := Outcome.pure_ok.1 hmap
  intro d hd
  cases e? with
  | none => cases hd
  | some e =>
      obtain rfl := List.mem_singleton.1 hd
      refine confined_method rfl rfl fun e' he' => ?_
      obtain rfl := Option.some.inj he'
      exact within_offer he (h.messages t ht)

theorem versionPackage {version : String × Entries String (List Topic)}
    (hversion : version ∈ c.definitions.versions) {stages : List Stage}
    (hstages : c.VersionPackage role version stages) :
    ∀ stage ∈ stages, ∀ d ∈ stage.2, Confined K d := by
  obtain ⟨interfaces, hinterfaces, rfl⟩ := hstages
  intro stage hs d hd
  obtain rfl := List.mem_singleton.1 hs
  obtain ⟨service, hservice, part, ⟨inner, hinner, rfl⟩, hd⟩ := hinterfaces.exists_of_mem hd
  obtain rfl := List.mem_singleton.1 hd
  refine .type isGenerated_protocol fun d hd => ?_
  obtain ⟨t, ht, part, hpart, hd⟩ := hinner.exists_of_mem hd
  exact h.topicMethods ⟨version, hversion, service, hservice, ht⟩ hpart d hd

theorem versionMembers {version : String × Entries String (List Topic)}
    (hversion : version ∈ c.definitions.versions) :
    ∀ d ∈ c.versionMembers role (c.entryScope role) version.1 version.2.keys, Confined K d := by
  intro d hd
  rcases List.mem_cons.1 hd with rfl | hd
  · refine .type isGenerated_protocol fun d hd => ?_
    obtain ⟨service, hservice, rfl⟩ := List.mem_map.1 hd
    exact confined_accessor (h.services version.1 service ⟨version, hversion, rfl, hservice⟩)
  · obtain rfl := List.mem_singleton.1 hd
    exact confined_accessor (h.versions version hversion)

theorem entryPoint : Confined K (c.entryPoint role) := by
  refine .type isGenerated_protocol fun d hd => ?_
  rcases List.mem_append.1 hd with hd | hd
  · obtain ⟨version, hversion, hd⟩ := List.mem_flatMap.1 hd
    exact h.versionMembers hversion d hd
  · obtain ⟨entry, hentry, rfl⟩ := List.mem_map.1 hd
    exact confined_accessor (h.services _ _ (h.latest entry hentry))

theorem rolePackages {stages : List Stage} (hstages : c.RolePackages role stages) :
    ∀ stage ∈ stages, ∀ d ∈ stage.2, Confined K d := by
  obtain ⟨versions, hversions, rfl⟩ := hstages
  intro stage hs d hd
  rcases List.mem_append.1 hs with hs | hs
  · obtain ⟨version, hversion, part, hpart, hs⟩ := hversions.exists_of_mem hs
    exact h.versionPackage hversion hpart stage hs d hd
  · obtain rfl := List.mem_singleton.1 hs
    obtain rfl := List.mem_singleton.1 hd
    exact h.entryPoint

end Supplied

end Connector

namespace TopicLookup

variable {c : Context}

theorem name_of_rows {topics : List Topic}
    {rows : List (List (String × QualifiedName) × List (String × QualifiedName))}
    (h : topics.mapM (entries c) = .ok rows) {row : List (String × QualifiedName) × List (String × QualifiedName)}
    (hrow : row ∈ rows) {line : String × QualifiedName} (hline : line ∈ row.1 ++ row.2) :
    ∃ t ∈ topics, ∃ ref, some ref ∈ [t.publish, t.subscribe] ∧ messageName c ref = .ok line.2 := by
  obtain ⟨t, ht, hentries⟩ := Outcome.exists_of_forall₂ (Outcome.mapM_ok.1 h) hrow
  obtain ⟨published, hpublished, hentries⟩ := Outcome.bind_ok.1 hentries
  obtain ⟨subscribed, hsubscribed, hentries⟩ := Outcome.bind_ok.1 hentries
  obtain rfl := Outcome.pure_ok.1 hentries
  have hside : ∀ {side : Option MessageRef} {lines : List (String × QualifiedName)},
      side.toList.mapM (entry c t.name) = .ok lines → line ∈ lines →
      ∃ ref, side = some ref ∧ messageName c ref = .ok line.2 := by
    intro side lines hlines hm
    obtain ⟨ref, href, hentry⟩ := Outcome.exists_of_forall₂ (Outcome.mapM_ok.1 hlines) hm
    obtain ⟨name, hname, hentry⟩ := Outcome.bind_ok.1 hentry
    obtain ⟨target, -, hentry⟩ := Outcome.bind_ok.1 hentry
    obtain rfl := Outcome.pure_ok.1 hentry
    exact ⟨ref, Option.mem_toList.1 href, hname⟩
  rcases List.mem_append.1 hline with hline | hline
  · obtain ⟨ref, href, hname⟩ := hside hpublished hline
    exact ⟨t, ht, ref, by simp [href], hname⟩
  · obtain ⟨ref, href, hname⟩ := hside hsubscribed hline
    exact ⟨t, ht, ref, by simp [href], hname⟩

theorem confined_table {stages : List Stage} (hstages : Table c stages)
    (hmessages : ∀ t ∈ c.definitions.topics.keys, ∀ ref, some ref ∈ [t.publish, t.subscribe] →
      ∀ name, messageName c ref = .ok name → K name) :
    ∀ stage ∈ stages, ∀ d ∈ stage.2, Confined K d := by
  obtain ⟨rows, hrows, rfl⟩ := hstages
  intro stage hs d hd
  obtain rfl := List.mem_singleton.1 hs
  obtain rfl := List.mem_singleton.1 hd
  refine .type isGenerated_plain fun d hd => ?_
  obtain rfl := List.mem_singleton.1 hd
  intro n hn hgenerated
  rcases List.mem_cons.1 hn with rfl | hn
  · cases hgenerated
  · obtain ⟨row, hrow, hn⟩ := List.mem_flatMap.1 hn
    obtain ⟨line, hline, rfl⟩ := List.mem_map.1 hn
    obtain ⟨t, ht, ref, href, hname⟩ := name_of_rows hrows hrow hline
    exact hmessages t ht ref href _ hname

end TopicLookup

end TopicBindings.Generation
