import TopicBindings.Text.Fields

/-!
Joining texts is what the library calls intercalation.
-/

namespace TopicBindings.Text

@[simp]
theorem join_eq_intercalate (sep : String) (parts : List String) :
    join sep parts = sep.intercalate parts := by
  apply String.toList_injective
  rw [String.toList_intercalate, join, String.toList_ofList]

theorem toList_join_empty (parts : List String) : (join "" parts).toList = parts.flatMap String.toList := by
  rw [join, String.toList_ofList]
  induction parts with
  | nil => rfl
  | cons part rest ih =>
      cases rest with
      | nil => simp [List.intercalate]
      | cons next rest => simp_all [List.intercalate]

theorem mem_of_mem_intercalate {α : Type} {sep : List α} {parts : List (List α)} {x : α}
    (h : x ∈ List.intercalate sep parts) : x ∈ sep ∨ ∃ part ∈ parts, x ∈ part := by
  induction parts with
  | nil => simp [List.intercalate] at h
  | cons part rest ih =>
      cases rest with
      | nil => exact .inr ⟨part, .head _, by simpa [List.intercalate] using h⟩
      | cons next rest =>
          have hsplit : x ∈ part ++ (sep ++ List.intercalate sep (next :: rest)) := by
            simpa [List.intercalate] using h
          rcases List.mem_append.1 hsplit with hpart | hmore
          · exact .inr ⟨part, .head _, hpart⟩
          · rcases List.mem_append.1 hmore with hsep | hmore
            · exact .inl hsep
            · exact (ih hmore).imp_right fun ⟨other, hother, hx⟩ => ⟨other, .tail _ hother, hx⟩

theorem mem_of_mem_join {sep : String} {parts : List String} {c : Char} (h : c ∈ (join sep parts).toList) :
    c ∈ sep.toList ∨ ∃ part ∈ parts, c ∈ part.toList := by
  rw [join, String.toList_ofList] at h
  refine (mem_of_mem_intercalate h).imp_right fun ⟨part, hpart, hc⟩ => ?_
  obtain ⟨text, htext, rfl⟩ := List.mem_map.1 hpart
  exact ⟨text, htext, hc⟩

end TopicBindings.Text
