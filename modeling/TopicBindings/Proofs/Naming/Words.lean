import TopicBindings.Proofs.Character.Capital
import TopicBindings.Proofs.Naming.Segmentation

/-!
A type name that is not empty has words, so that the module called after it has a name.
-/

namespace TopicBindings.Naming

open Character (lower upper)

theorem words_of_mem {s : List Char} {c : Char} (hm : c ∈ s) (hc : Class.of c ≠ .other) : words s ≠ [] := by
  intro hnil
  have hkept : c ∈ (words s).flatten := flatten_words s ▸ List.mem_filter.2 ⟨hm, isKept_iff.2 hc⟩
  simp [hnil] at hkept

theorem class_of_mem_words {s w : List Char} (hw : w ∈ words s) {c : Char} (hc : c ∈ w) :
    Class.of c ≠ .other :=
  isKept_iff.1 (isKept_of_mem_words hw c hc)

theorem exists_of_upper {c : Char} (hc : Class.of c ≠ .other) : ∃ d ∈ upper c, Class.of d ≠ .other := by
  rcases Character.upper_eq_or_capital c with h | ⟨d, hd, hcapital⟩
  · rw [h]
    exact ⟨c, .head _, hc⟩
  · exact ⟨d, hd, by simp [Class.of, hcapital]⟩

theorem lowerText_ne_nil {s : List Char} (h : s ≠ []) : lowerText s ≠ [] := by
  cases s with
  | nil => exact absurd rfl h
  | cons c rest =>
      rw [lowerText, lowerFrom]
      refine List.append_ne_nil_of_left_ne_nil ?_ _
      split
      · exact List.cons_ne_nil _ _
      · exact Character.lower_ne_nil c

theorem words_camelWith {s : List Char} (h : camelWith capitalize s ≠ []) :
    words (camelWith capitalize s) ≠ [] := by
  rw [camelWith] at h ⊢
  cases hwords : words s with
  | nil =>
      rw [hwords] at h
      exact absurd rfl h
  | cons word more =>
      have hmem : word ∈ words s := hwords ▸ .head _
      cases hword : word with
      | nil => exact absurd hword (words_ne_nil s word hmem)
      | cons c rest =>
          have hc : Class.of c ≠ .other := class_of_mem_words hmem (hword ▸ .head _)
          obtain ⟨d, hd, hclass⟩ := exists_of_upper hc
          exact words_of_mem (List.mem_append_left _ (List.mem_append_left _ hd)) hclass

theorem intercalate_ne_nil {α : Type} {sep first : List α} {rest : List (List α)} (h : first ≠ []) :
    List.intercalate sep (first :: rest) ≠ [] := by
  cases rest with
  | nil => simpa [List.intercalate] using h
  | cons next more =>
      rw [List.intercalate_cons_cons]
      simp [h]

theorem lowerUnderscore_typeName {s : String} (h : typeName s ≠ "") : lowerUnderscore (typeName s) ≠ "" := by
  have hcamel : camelWith capitalize s.toList ≠ [] := by
    intro he
    rw [typeName, he] at h
    exact h rfl
  have hne := words_camelWith hcamel
  intro he
  have hlist := congrArg String.toList he
  rw [lowerUnderscore, typeName, String.toList_ofList, String.toList_ofList, joinWords] at hlist
  cases hwords : words (camelWith capitalize s.toList) with
  | nil => exact hne hwords
  | cons word more =>
      have hword := lowerText_ne_nil (words_ne_nil _ word (hwords ▸ List.mem_cons_self))
      rw [hwords, List.map_cons] at hlist
      exact intercalate_ne_nil hword hlist

end TopicBindings.Naming
