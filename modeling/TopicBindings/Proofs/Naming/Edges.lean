import Mathlib.Data.List.Basic
import TopicBindings.Proofs.Naming.Words
import TopicBindings.Proofs.Text.Join

/-!
How names of each style begin and end. The words of a text have no low line in them, and no change of case gives one, so
that low lines stand only between the words of a name.
-/

namespace TopicBindings.Naming

open Character (lower upper)

/-- The name neither begins nor ends with a low line. -/
def Trimmed (name : String) : Prop :=
  name.toList.head? ≠ some '_' ∧ name.toList.getLast? ≠ some '_'

theorem trimmed_of_not_mem {name : String} (h : '_' ∉ name.toList) : Trimmed name :=
  ⟨fun hhead => h (List.mem_of_head? hhead), fun hlast => h (List.mem_of_getLast? hlast)⟩

theorem lowLine_not_mem_word {s w : List Char} (hw : w ∈ words s) : '_' ∉ w :=
  fun hc => class_of_mem_words hw hc (by decide)

section CaseChanges

variable {s : List Char} (h : '_' ∉ s)

include h

theorem lowLine_not_mem_upperText : '_' ∉ upperText s := by
  intro hmem
  obtain ⟨c, hc, hmem⟩ := List.mem_flatMap.1 hmem
  exact Character.lowLine_not_mem_upper (fun heq => h (heq ▸ hc)) hmem

theorem lowLine_not_mem_lowerFrom : ∀ afterCased, '_' ∉ lowerFrom afterCased s := by
  induction s with
  | nil => simp [lowerFrom]
  | cons c rest ih =>
      intro afterCased hmem
      rw [lowerFrom] at hmem
      rcases List.mem_append.1 hmem with hmem | hmem
      · split at hmem
        · have hsigma := List.mem_singleton.1 hmem
          split at hsigma <;> simp at hsigma
        · exact Character.lowLine_not_mem_lower (fun heq => h (heq ▸ .head _)) hmem
      · exact ih (fun hrest => h (.tail _ hrest)) _ hmem

theorem lowLine_not_mem_capitalize : '_' ∉ capitalize s := by
  cases s with
  | nil => exact List.not_mem_nil
  | cons c rest =>
      intro hmem
      rcases List.mem_append.1 hmem with hmem | hmem
      · exact Character.lowLine_not_mem_upper (fun heq => h (heq ▸ .head _)) hmem
      · exact lowLine_not_mem_lowerFrom (fun hrest => h (.tail _ hrest)) false hmem

theorem lowLine_not_mem_uncapitalize : '_' ∉ uncapitalize s := by
  cases s with
  | nil => exact List.not_mem_nil
  | cons c rest =>
      intro hmem
      rcases List.mem_append.1 hmem with hmem | hmem
      · exact Character.lowLine_not_mem_lower (fun heq => h (heq ▸ .head _)) hmem
      · exact lowLine_not_mem_lowerFrom (fun hrest => h (.tail _ hrest)) false hmem

end CaseChanges

theorem lowLine_not_mem_camelWith {head : List Char → List Char} (hhead : ∀ w, '_' ∉ w → '_' ∉ head w)
    (s : List Char) : '_' ∉ camelWith head s := by
  have hwords : ∀ w ∈ words s, '_' ∉ w := fun w hw => lowLine_not_mem_word hw
  rw [camelWith]
  cases hlist : words s with
  | nil => exact List.not_mem_nil
  | cons word more =>
      rw [hlist] at hwords
      intro hmem
      rcases List.mem_append.1 hmem with hmem | hmem
      · exact hhead word (hwords word (.head _)) hmem
      · obtain ⟨w, hw, hmem⟩ := List.mem_flatMap.1 hmem
        exact lowLine_not_mem_capitalize (hwords w (.tail _ hw)) hmem

section Joined

variable {sep c : Char} {parts : List (List Char)} (h : ∀ part ∈ parts, part ≠ [] ∧ c ∉ part)

include h

theorem head?_intercalate : (List.intercalate [sep] parts).head? ≠ some c := by
  cases parts with
  | nil => simp
  | cons part rest =>
      obtain ⟨hne, hfree⟩ := h part (.head _)
      obtain ⟨first, more, rfl⟩ := List.exists_cons_of_ne_nil hne
      have hfirst : first ≠ c := fun heq => hfree (heq ▸ .head _)
      cases rest with
      | nil => simpa using hfirst
      | cons next others => simpa [List.intercalate_cons_cons] using hfirst

theorem getLast?_intercalate : (List.intercalate [sep] parts).getLast? ≠ some c := by
  induction parts with
  | nil => simp
  | cons part rest ih =>
      cases rest with
      | nil =>
          rw [List.intercalate_singleton]
          exact fun hlast => (h part (.head _)).2 (List.mem_of_getLast? hlast)
      | cons next others =>
          have hrest := ih fun p hp => h p (.tail _ hp)
          have hne : List.intercalate [sep] (next :: others) ≠ [] :=
            intercalate_ne_nil (h next (.tail _ (.head _))).1
          rw [List.intercalate_cons_cons, List.getLast?_append_of_ne_nil _ hne]
          exact hrest

end Joined

theorem trimmed_joinWords {change : List Char → List Char} (hne : ∀ w, w ≠ [] → change w ≠ [])
    (hfree : ∀ w, '_' ∉ w → '_' ∉ change w) (sep : Char) (s : List Char) :
    Trimmed (String.ofList (joinWords sep change s)) := by
  have hparts : ∀ part ∈ (words s).map change, part ≠ [] ∧ '_' ∉ part := by
    intro part hpart
    obtain ⟨w, hw, rfl⟩ := List.mem_map.1 hpart
    exact ⟨hne w (words_ne_nil s w hw), hfree w (lowLine_not_mem_word hw)⟩
  rw [Trimmed, String.toList_ofList, joinWords]
  exact ⟨head?_intercalate hparts, getLast?_intercalate hparts⟩

theorem upperText_ne_nil {s : List Char} (h : s ≠ []) : upperText s ≠ [] := by
  cases s with
  | nil => exact absurd rfl h
  | cons c rest =>
      rw [upperText, List.flatMap_cons]
      exact List.append_ne_nil_of_left_ne_nil (Character.upper_ne_nil c) _

theorem trimmed_lowerCamel (s : String) : Trimmed (lowerCamel s) := by
  refine trimmed_of_not_mem ?_
  rw [lowerCamel, String.toList_ofList]
  exact lowLine_not_mem_camelWith (fun _ h => lowLine_not_mem_uncapitalize h) s.toList

theorem trimmed_typeName (s : String) : Trimmed (typeName s) := by
  refine trimmed_of_not_mem ?_
  rw [typeName, String.toList_ofList]
  exact lowLine_not_mem_camelWith (fun _ h => lowLine_not_mem_capitalize h) s.toList

theorem trimmed_upperUnderscore (s : String) : Trimmed (upperUnderscore s) :=
  trimmed_joinWords (fun _ => upperText_ne_nil) (fun _ h => lowLine_not_mem_upperText h) '_' s.toList

theorem trimmed_lowerUnderscore (s : String) : Trimmed (lowerUnderscore s) :=
  trimmed_joinWords (fun _ => lowerText_ne_nil) (fun _ h => lowLine_not_mem_lowerFrom h false) '_' s.toList

theorem trimmed_lowerDash (s : String) : Trimmed (lowerDash s) :=
  trimmed_joinWords (fun _ => lowerText_ne_nil) (fun _ h => lowLine_not_mem_lowerFrom h false) '-' s.toList

theorem trimmed_constantName (literal : String) : Trimmed (constantName literal) := by
  have hname := trimmed_upperUnderscore literal
  rw [constantName]
  split
  · exact trimmed_of_not_mem (by decide)
  next first rest hlist =>
    split
    · refine ⟨by simp, ?_⟩
      rw [String.toList_append, List.getLast?_append_of_ne_nil _ (hlist ▸ List.cons_ne_nil _ _)]
      exact hname.2
    · exact hname

/-- A name that a change of style gives. -/
inductive Converted : String → Prop where
  | lowerCamel (s : String) : Converted (lowerCamel s)
  | typeName (s : String) : Converted (typeName s)
  | upperUnderscore (s : String) : Converted (upperUnderscore s)
  | lowerDash (s : String) : Converted (lowerDash s)
  | lowerUnderscore (s : String) : Converted (lowerUnderscore s)
  | constantName (s : String) : Converted (constantName s)

theorem Converted.trimmed {name : String} (h : Converted name) : Trimmed name := by
  cases h with
  | lowerCamel s => exact trimmed_lowerCamel s
  | typeName s => exact trimmed_typeName s
  | upperUnderscore s => exact trimmed_upperUnderscore s
  | lowerDash s => exact trimmed_lowerDash s
  | lowerUnderscore s => exact trimmed_lowerUnderscore s
  | constantName s => exact trimmed_constantName s

end TopicBindings.Naming
