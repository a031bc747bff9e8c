import TopicBindings.Generation.Run
import TopicBindings.Proofs.Entries

/-!
The messages that a run declares: all component messages, and for every message spelled out in a topic one
of the same name.
-/

namespace TopicBindings.Generation

open Schema (Message)

theorem mem_inlineMessages {t : Topic} {m : Message} :
    m ∈ inlineMessages t ↔ some (.inline m) ∈ [t.publish, t.subscribe] := by
  rw [inlineMessages, List.mem_filterMap]
  constructor
  · rintro ⟨side, hside, hm⟩
    rcases side with _ | inner | name
    · cases hm
    · obtain rfl := Option.some.inj hm
      exact hside
    · cases hm
  · intro hm
    exact ⟨some (.inline m), hm, rfl⟩

theorem mem_addMessage {known : Entries String Message} {m : Message} {entry : String × Message}
    (h : entry ∈ known) : entry ∈ addMessage known m := by
  rw [addMessage]
  split
  · exact h
  · exact List.mem_append_left _ h

theorem mem_foldl_addMessage {messages : List Message} {known : Entries String Message}
    {entry : String × Message} (h : entry ∈ known) : entry ∈ messages.foldl addMessage known := by
  induction messages generalizing known with
  | nil => exact h
  | cons m rest ih => exact ih (mem_addMessage h)

theorem mem_allMessages {s : Schema} {m : Message} (h : m ∈ s.messages) :
    (m.name, m) ∈ allMessages s :=
  mem_foldl_addMessage (List.mem_map_of_mem h)

theorem exists_of_mem_addMessage (known : Entries String Message) (m : Message) :
    ∃ other, (m.name, other) ∈ addMessage known m := by
  rw [addMessage]
  split
  next h =>
    obtain ⟨other, hother⟩ := Option.isSome_iff_exists.1 h
    exact ⟨other, Entries.mem_of_lookup hother⟩
  · exact ⟨m, List.mem_append_right _ (.head _)⟩

theorem exists_of_mem_foldl {messages : List Message} {known : Entries String Message} {m : Message}
    (h : m ∈ messages) : ∃ other, (m.name, other) ∈ messages.foldl addMessage known := by
  induction messages generalizing known with
  | nil => cases h
  | cons first rest ih =>
      rw [List.foldl_cons]
      rcases List.mem_cons.1 h with rfl | h
      · obtain ⟨other, hother⟩ := exists_of_mem_addMessage known m
        exact ⟨other, mem_foldl_addMessage hother⟩
      · exact ih h

/-- A message spelled out in a topic has an entry of its name, which may hold another message. -/
theorem exists_of_mem_topics {s : Schema} {t : Topic} (ht : t ∈ s.topics) {m : Message}
    (hm : some (.inline m) ∈ [t.publish, t.subscribe]) : ∃ other, (m.name, other) ∈ allMessages s :=
  exists_of_mem_foldl (List.mem_flatMap.2 ⟨t, ht, mem_inlineMessages.2 hm⟩)

theorem of_mem_foldl {messages : List Message} {known : Entries String Message}
    {entry : String × Message} (h : entry ∈ messages.foldl addMessage known) :
    entry ∈ known ∨ (entry.1 = entry.2.name ∧ entry.2 ∈ messages) := by
  induction messages generalizing known with
  | nil => exact .inl h
  | cons m rest ih =>
      rcases ih h with h | ⟨hname, hm⟩
      · rw [addMessage] at h
        split at h
        · exact .inl h
        · rcases List.mem_append.1 h with h | h
          · exact .inl h
          · obtain rfl := List.mem_singleton.1 h
            exact .inr ⟨rfl, .head _⟩
      · exact .inr ⟨hname, .tail _ hm⟩

theorem of_mem_allMessages {s : Schema} {entry : String × Message} (h : entry ∈ allMessages s) :
    entry.1 = entry.2.name ∧ (entry.2 ∈ s.messages ∨
      ∃ t ∈ s.topics, some (.inline entry.2) ∈ [t.publish, t.subscribe]) := by
  rcases of_mem_foldl h with h | ⟨hname, hm⟩
  · obtain ⟨m, hm, rfl⟩ := List.mem_map.1 h
    exact ⟨rfl, .inl hm⟩
  · obtain ⟨t, ht, hm⟩ := List.mem_flatMap.1 hm
    exact ⟨hname, .inr ⟨t, ht, mem_inlineMessages.1 hm⟩⟩

theorem nodup_keys_addMessage {known : Entries String Message} (h : known.keys.Nodup) (m : Message) :
    (addMessage known m).keys.Nodup := by
  rw [addMessage]
  split
  · exact h
  next hfree =>
    have hfree : m.name ∉ known.keys := fun hmem => hfree (Entries.isSome_lookup_iff.2 hmem)
    rw [Entries.keys, List.map_append, List.map_singleton, List.nodup_append]
    refine ⟨h, List.nodup_singleton _, fun name hname other hother => ?_⟩
    obtain rfl := List.mem_singleton.1 hother
    rintro rfl
    exact hfree hname

theorem nodup_keys_allMessages {s : Schema} (h : (s.messages.map Message.name).Nodup) : (allMessages s).keys.Nodup := by
  have hfoldl : ∀ (messages : List Message) (known : Entries String Message), known.keys.Nodup →
      (messages.foldl addMessage known).keys.Nodup := by
    intro messages
    induction messages with
    | nil => exact fun _ hknown => hknown
    | cons m rest ih => exact fun known hknown => ih _ (nodup_keys_addMessage hknown m)
  refine hfoldl _ _ ?_
  rwa [Entries.keys, List.map_map]

end TopicBindings.Generation
