import TopicBindings.Proofs.Schema.Places

/-!
The messages of a document. Each of them is read under some name: that of its component, or that of its topic behind that
of its direction. A payload that is spelled out bears the name that all payloads bear.
-/

namespace TopicBindings.Schema

def SchemaType.place? : SchemaType → Option Place
  | .object place _ _ | .enumeration place _ _ => some place
  | _ => none

theorem SchemaType.Stands.at_place {space : String} {parents : List String} {type : SchemaType}
    (h : type.Stands space parents) {place : Place} (hplace : place ∈ type.place?) :
    place.space = space ∧ place.parents = parents := by
  cases type with
  | object own properties doc =>
      obtain rfl := Option.some.inj hplace
      exact ⟨h.1, h.2.1⟩
  | enumeration own literals doc =>
      obtain rfl := Option.some.inj hplace
      exact h
  | _ => cases hplace

namespace Document

variable {d : Markup.Data}

theorem Described.place_eq {depth : Nat} {place : Place} {type : SchemaType} (h : Described d depth place type) :
    ∀ place' ∈ type.place?, place' = place := by
  cases h with
  | primitive kind doc => rintro place' ⟨⟩
  | enumeration literals doc => exact fun place' hp => (Option.some.inj hp).symm
  | array unique doc hitem => rintro place' ⟨⟩
  | object required doc hproperties => exact fun place' hp => (Option.some.inj hp).symm

structure MessageUnder (name : String) (message : Message) : Prop where
  named : message.name = name
  payload : ∀ place ∈ message.payload.place?, place = ⟨messagesSpace, [name], "payload"⟩

theorem messageUnder_of_read {name : String} {m : Mapping} {message : Message}
    (h : Document.message d name m = .ok message) : MessageUnder name message := by
  obtain ⟨hname, entries, hpayload⟩ := message_ok h
  refine ⟨hname, ?_⟩
  rcases typeBy_ok hpayload with ⟨key, hkey⟩ | ⟨spelled, hspelled, hpayload⟩
  · rw [hkey]
    rintro place ⟨⟩
  · rw [hpayload]
    exact (described_of_typeWithin hspelled).place_eq

end Document

open Document (MessageUnder)

structure NamesOwn (t : Topic) : Prop where
  publish : ∀ m, t.publish = some (.inline m) → MessageUnder ("Publish." ++ t.name) m
  subscribe : ∀ m, t.subscribe = some (.inline m) → MessageUnder ("Subscribe." ++ t.name) m

/-- A description with messages under the names that are meant for them. -/
structure MessagesNamed (s : Schema) : Prop where
  components : ∀ m ∈ s.messages, MessageUnder m.name m
  topics : ∀ t ∈ s.topics, NamesOwn t

namespace Document

variable {d : Markup.Data}

theorem namesOwn_topic {key : Markup.Scalar} {v : Markup.Value} {t : Topic} (h : topic d key v = .ok t) :
    NamesOwn t := by
  obtain ⟨hpublish, hsubscribe⟩ := messages_of_topic h
  refine ⟨fun m hm => ?_, fun m hm => ?_⟩
  · obtain ⟨entries, hread⟩ := hpublish m hm
    exact messageUnder_of_read hread
  · obtain ⟨entries, hread⟩ := hsubscribe m hm
    exact messageUnder_of_read hread

theorem messagesNamed_schema {m : Mapping} {s : Schema} (h : schema d m = .ok s) : s.MessagesNamed := by
  obtain ⟨htopics, hmessages, -⟩ := parts_of_schema h
  refine ⟨fun m hm => ?_, fun t ht => ?_⟩
  · obtain ⟨name, inner, hread⟩ := hmessages m hm
    have hunder := messageUnder_of_read hread
    exact hunder.named ▸ hunder
  · obtain ⟨key, value, hread⟩ := htopics t ht
    exact namesOwn_topic hread

end Document

theorem messagesNamed_of_text {text : String} {s : Schema} (h : ofText text = .ok s) : s.MessagesNamed := by
  obtain ⟨d, m, hread⟩ := exists_schema_of_text h
  exact Document.messagesNamed_schema hread

theorem NamesOwn.same_side {t t' : Topic} (h : NamesOwn t) (h' : NamesOwn t') {m m' : Message}
    (hm : some (.inline m) ∈ [t.publish, t.subscribe]) (hm' : some (.inline m') ∈ [t'.publish, t'.subscribe])
    (hname : m.name = m'.name) : t.name = t'.name ∧ (t = t' → m = m') := by
  have hcross : ∀ {a b : String}, "Publish." ++ a ≠ "Subscribe." ++ b := fun heq => by
    simpa using congrArg String.toList heq
  have hsame : ∀ {direction a b : String}, direction ++ a = direction ++ b → a = b := fun heq => by
    simpa using heq
  simp only [List.mem_cons, List.not_mem_nil, or_false] at hm hm'
  rcases hm with hm | hm <;> rcases hm' with hm' | hm'
  · rw [(h.publish m hm.symm).named, (h'.publish m' hm'.symm).named] at hname
    refine ⟨hsame hname, ?_⟩
    rintro rfl
    simpa using hm.trans hm'.symm
  · rw [(h.publish m hm.symm).named, (h'.subscribe m' hm'.symm).named] at hname
    exact absurd hname hcross
  · rw [(h.subscribe m hm.symm).named, (h'.publish m' hm'.symm).named] at hname
    exact absurd hname.symm hcross
  · rw [(h.subscribe m hm.symm).named, (h'.subscribe m' hm'.symm).named] at hname
    refine ⟨hsame hname, ?_⟩
    rintro rfl
    simpa using hm.trans hm'.symm

theorem MessagesNamed.payload {s : Schema} (h : s.MessagesNamed) {m : Message}
    (hm : m ∈ s.messages ∨ ∃ t ∈ s.topics, some (.inline m) ∈ [t.publish, t.subscribe]) :
    ∀ place ∈ m.payload.place?, place.name = "payload" := by
  intro place hplace
  rcases hm with hm | ⟨t, ht, hm⟩
  · rw [(h.components m hm).payload place hplace]
  · rcases List.mem_cons.1 hm with hm | hm
    · rw [((h.topics t ht).publish m hm.symm).payload place hplace]
    · rw [((h.topics t ht).subscribe m (List.mem_singleton.1 hm).symm).payload place hplace]

end TopicBindings.Schema
