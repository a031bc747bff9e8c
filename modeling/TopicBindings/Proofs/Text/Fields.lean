import TopicBindings.Proofs.Text.Join

/-!
Cutting undoes joining on parts that hold no separator, and a text cut at a separator falls into the fields
before it and the fields behind it.
-/

namespace TopicBindings.Text

variable {sep : Char}

theorem fields_append_sep (sep : Char) (s t : List Char) :
    fields sep (s ++ sep :: t) = fields sep s ++ fields sep t := by
  induction s with
  | nil => simp [fields]
  | cons c rest ih =>
      rw [List.cons_append, fields, fields]
      by_cases hc : c = sep
      · rw [if_pos hc, if_pos hc, ih, List.cons_append]
      · rw [if_neg hc, if_neg hc, ih]
        obtain ⟨first, more, hfields⟩ := List.exists_cons_of_ne_nil (fields_ne_nil sep rest)
        rw [hfields]
        rfl

theorem fields_of_not_mem {s : List Char} (h : sep ∉ s) : fields sep s = [s] := by
  induction s with
  | nil => rfl
  | cons c rest ih =>
      rw [List.mem_cons, not_or] at h
      rw [fields, if_neg (Ne.symm h.1), ih h.2]

theorem not_mem_of_mem_fields {s field : List Char} (h : field ∈ fields sep s) : sep ∉ field := by
  induction s generalizing field with
  | nil =>
      obtain rfl := List.mem_singleton.1 h
      exact List.not_mem_nil
  | cons c rest ih =>
      rw [fields] at h
      split at h
      · rcases List.mem_cons.1 h with rfl | h
        · exact List.not_mem_nil
        · exact ih h
      next hc =>
        obtain ⟨first, more, hfields⟩ := List.exists_cons_of_ne_nil (fields_ne_nil sep rest)
        rw [hfields] at h ih
        rcases List.mem_cons.1 h with rfl | h
        · rw [List.mem_cons, not_or]
          exact ⟨Ne.symm hc, ih (.head _)⟩
        · exact ih (.tail _ h)

theorem exists_field_of_mem {s : List Char} {c : Char} (h : c ∈ s) (hc : c ≠ sep) :
    ∃ field ∈ fields sep s, c ∈ field := by
  induction s with
  | nil => cases h
  | cons first rest ih =>
      rw [fields]
      split
      next hfirst =>
        rcases List.mem_cons.1 h with rfl | h
        · exact absurd hfirst hc
        · obtain ⟨field, hfield, hmem⟩ := ih h
          exact ⟨field, .tail _ hfield, hmem⟩
      next hfirst =>
        obtain ⟨field, more, hfields⟩ := List.exists_cons_of_ne_nil (fields_ne_nil sep rest)
        rw [hfields] at ih ⊢
        rcases List.mem_cons.1 h with rfl | h
        · exact ⟨_, .head _, .head _⟩
        · obtain ⟨other, hother, hmem⟩ := ih h
          rcases List.mem_cons.1 hother with rfl | hother
          · exact ⟨_, .head _, .tail _ hmem⟩
          · exact ⟨other, .tail _ hother, hmem⟩

theorem fields_joinFields {parts : List (List Char)} (hne : parts ≠ []) (h : ∀ p ∈ parts, sep ∉ p) :
    fields sep (joinFields sep parts) = parts := by
  induction parts with
  | nil => exact absurd rfl hne
  | cons p rest ih =>
      cases rest with
      | nil =>
          rw [joinFields, List.intercalate_singleton]
          exact fields_of_not_mem (h p (.head _))
      | cons q more =>
          rw [joinFields_cons_cons, fields_append_sep, fields_of_not_mem (h p (.head _)),
            ih (List.cons_ne_nil _ _) fun r hr => h r (.tail _ hr)]
          rfl

theorem splitAt_ne_nil (sep : Char) (s : String) : splitAt sep s ≠ [] := by
  simpa [splitAt] using fields_ne_nil sep s.toList

theorem not_mem_of_mem_splitAt {s field : String} (h : field ∈ splitAt sep s) : sep ∉ field.toList := by
  obtain ⟨chars, hchars, rfl⟩ := List.mem_map.1 h
  rw [String.toList_ofList]
  exact not_mem_of_mem_fields hchars

theorem exists_mem_splitAt {s : String} {c : Char} (h : c ∈ s.toList) (hc : c ≠ sep) :
    ∃ field ∈ splitAt sep s, c ∈ field.toList := by
  obtain ⟨field, hfield, hmem⟩ := exists_field_of_mem h hc
  exact ⟨String.ofList field, List.mem_map_of_mem hfield, by rwa [String.toList_ofList]⟩

theorem splitAt_join {parts : List String} (hne : parts ≠ []) (h : ∀ p ∈ parts, sep ∉ p.toList) :
    splitAt sep (join (String.singleton sep) parts) = parts := by
  have hfields : fields sep (joinFields sep (parts.map String.toList)) = parts.map String.toList := by
    refine fields_joinFields (by simpa using hne) fun p hp => ?_
    obtain ⟨part, hpart, rfl⟩ := List.mem_map.1 hp
    exact h part hpart
  have hsep : (String.singleton sep).toList = [sep] := by simp
  rw [splitAt, join, String.toList_ofList, hsep, ← joinFields, hfields, List.map_map]
  simp

theorem join_splitAt (sep : Char) (s : String) : join (String.singleton sep) (splitAt sep s) = s := by
  apply String.toList_injective
  have hsep : (String.singleton sep).toList = [sep] := by simp
  have hmap : (splitAt sep s).map String.toList = fields sep s.toList := by simp [splitAt]
  rw [join, String.toList_ofList, hsep, hmap, ← joinFields, joinFields_fields]

theorem splitAt_append_sep (sep : Char) (s t : String) :
    splitAt sep (s ++ String.singleton sep ++ t) = splitAt sep s ++ splitAt sep t := by
  have hlist : (s ++ String.singleton sep ++ t).toList = s.toList ++ sep :: t.toList := by simp
  rw [splitAt, hlist, fields_append_sep, List.map_append]
  rfl

theorem splitAt_of_not_mem {s : String} (h : sep ∉ s.toList) : splitAt sep s = [s] := by
  rw [splitAt, fields_of_not_mem h, List.map_singleton, String.ofList_toList]

end TopicBindings.Text
