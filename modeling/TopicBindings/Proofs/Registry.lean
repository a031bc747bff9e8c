import TopicBindings.Proofs.Entries
import TopicBindings.Registry

/-!
A registry holds exactly the components of its description.
-/

namespace TopicBindings.Registry

open Schema (DeclaredType Message TypeKey)

def Registered (r : Registry) (key : TypeKey) : Prop :=
  ∃ type, r.lookupType key = .ok type

theorem lookupType_ok {r : Registry} {key : TypeKey} {type : DeclaredType} :
    r.lookupType key = .ok type ↔ r.types.lookup key = some type := by
  rw [lookupType]
  cases r.types.lookup key <;> simp

theorem registered_iff {r : Registry} {key : TypeKey} :
    r.Registered key ↔ (r.types.lookup key).isSome = true := by
  simp only [Registered, lookupType_ok, Option.isSome_iff_exists]

instance (r : Registry) (key : TypeKey) : Decidable (r.Registered key) :=
  decidable_of_iff _ registered_iff.symm

theorem lookupMessage_named_ok {r : Registry} {name : String} {message : Message} :
    r.lookupMessage (.named name) = .ok message ↔ r.messages.lookup name = some message := by
  rw [lookupMessage]
  cases r.messages.lookup name <;> simp

variable {s : Schema} {r : Registry}

theorem components_of_schema (h : ofSchema s = .ok r) :
    r.types = s.types.map (fun t => (keyOf t.val, t)) ∧ r.messages = s.messages.map fun m => (m.name, m) := by
  rw [ofSchema] at h
  cases htypes : firstRepeated [] (s.types.map fun t => keyOf t.val) with
  | some key =>
      rw [htypes] at h
      cases h
  | none =>
      rw [htypes] at h
      cases hmessages : firstRepeated [] (s.messages.map Message.name) with
      | some name =>
          simp only [hmessages] at h
          cases h
      | none =>
          simp only [hmessages] at h
          obtain rfl := Except.ok.inj h
          exact ⟨rfl, rfl⟩

theorem nodup_of_firstRepeated {κ : Type} [DecidableEq κ] {seen keys : List κ} (h : firstRepeated seen keys = none) :
    keys.Nodup ∧ ∀ key ∈ keys, key ∉ seen := by
  induction keys generalizing seen with
  | nil => exact ⟨.nil, by simp⟩
  | cons key rest ih =>
      rw [firstRepeated] at h
      split at h
      · cases h
      next hseen =>
        obtain ⟨hrest, hfresh⟩ := ih h
        refine ⟨List.nodup_cons.2 ⟨fun hmem => hfresh key hmem (.head _), hrest⟩, ?_⟩
        exact List.forall_mem_cons.2 ⟨hseen, fun other ho hm => hfresh other ho (.tail _ hm)⟩

theorem nodup_messages (h : ofSchema s = .ok r) : (s.messages.map Message.name).Nodup := by
  rw [ofSchema] at h
  split at h
  · cases h
  · split at h
    · cases h
    next hnone => exact (nodup_of_firstRepeated hnone).1

theorem mem_of_lookupType (h : ofSchema s = .ok r) {key : TypeKey} {type : DeclaredType}
    (hl : r.lookupType key = .ok type) : type ∈ s.types := by
  have hm := Entries.mem_of_lookup (lookupType_ok.1 hl)
  rw [(components_of_schema h).1] at hm
  obtain ⟨t, ht, heq⟩ := List.mem_map.1 hm
  obtain ⟨-, rfl⟩ := Prod.mk.inj heq
  exact ht

theorem mem_of_lookupMessage (h : ofSchema s = .ok r) {name : String} {message : Message}
    (hl : r.lookupMessage (.named name) = .ok message) : message ∈ s.messages ∧ message.name = name := by
  have hm := Entries.mem_of_lookup (lookupMessage_named_ok.1 hl)
  rw [(components_of_schema h).2] at hm
  obtain ⟨m, hms, heq⟩ := List.mem_map.1 hm
  obtain ⟨hname, rfl⟩ := Prod.mk.inj heq
  exact ⟨hms, hname⟩

end TopicBindings.Registry
