import TopicBindings.Proofs.Naming.Words
import TopicBindings.Proofs.Text.Join

/-!
How identifiers of each style begin. A type name begins with a character in upper case, so that it is none of the words
in small letters that the generated language has for its own types. A method in camel case begins in lower case, so that
none of them is called like the interface of a version. A constant begins with no digit and has no small letters of ASCII
in it, so that it is no word that the generated language reserves.
-/

namespace TopicBindings.Naming

open Character (isUpper lower upper)

theorem camelWith_capitalize (s : List Char) :
    camelWith capitalize s = [] ∨ ∃ c rest, camelWith capitalize s = upper c ++ rest := by
  rw [camelWith]
  cases hwords : words s with
  | nil => exact .inl rfl
  | cons word more =>
      cases hword : word with
      | nil => exact absurd hword (words_ne_nil s word (hwords ▸ .head _))
      | cons c rest => exact .inr ⟨c, lowerText rest ++ more.flatMap capitalize, by simp [capitalize]⟩

theorem typeName_ne_of_small {first : Char} {rest : List Char}
    (hsmall : ((first :: rest).all fun c => !isUpper c) = true) (hfirst : upper first ≠ [first]) (s : String) :
    typeName s ≠ String.ofList (first :: rest) := by
  intro heq
  have hlist : camelWith capitalize s.toList = first :: rest := String.ofList_injective heq
  rcases camelWith_capitalize s.toList with hnil | ⟨c, more, hcamel⟩
  · rw [hlist] at hnil
    cases hnil
  · rw [hcamel] at hlist
    rcases Character.upper_eq_or_capital c with hself | ⟨d, hd, hcapital⟩
    · rw [hself] at hlist
      obtain rfl := (List.cons.inj hlist).1
      exact hfirst hself
    · have hmem : d ∈ first :: rest := hlist ▸ List.mem_append_left _ hd
      simpa [hcapital] using List.all_eq_true.1 hsmall d hmem

theorem head?_camelWith_uncapitalize (s : List Char) : (camelWith uncapitalize s).head? ≠ some 'V' := by
  rw [camelWith]
  cases hwords : words s with
  | nil => simp
  | cons word more =>
      cases hword : word with
      | nil => exact absurd hword (words_ne_nil s word (hwords ▸ .head _))
      | cons c rest =>
          intro hhead
          have hmem : 'V' ∈ lower c := by
            obtain ⟨first, after, hfirst⟩ := List.exists_cons_of_ne_nil (Character.lower_ne_nil c)
            have hhead : (lower c ++ lowerText rest ++ more.flatMap capitalize).head? = some 'V' := hhead
            rw [hfirst] at hhead
            rw [hfirst, ← Option.some.inj hhead]
            exact .head _
          exact Character.capital_not_mem_lower c hmem

theorem isLower_of_mem_upperUnderscore {s : String} {c : Char} (h : c ∈ (upperUnderscore s).toList) :
    c.isLower = false := by
  rw [upperUnderscore, String.toList_ofList, joinWords] at h
  rcases Text.mem_of_mem_intercalate h with hc | ⟨part, hpart, hc⟩
  · obtain rfl := List.mem_singleton.1 hc
    rfl
  · obtain ⟨word, -, rfl⟩ := List.mem_map.1 hpart
    obtain ⟨d, -, hc⟩ := List.mem_flatMap.1 hc
    exact Character.isLower_of_mem_upper hc

theorem isLower_of_mem_constantName {literal : String} {c : Char} (h : c ∈ (constantName literal).toList) :
    c.isLower = false := by
  rw [constantName] at h
  split at h
  · have hfixed : ("VALUE".toList.all fun c => !c.isLower) = true := rfl
    simpa using List.all_eq_true.1 hfixed c h
  · split at h
    · have hfixed : ("VALUE_".toList.all fun c => !c.isLower) = true := rfl
      rw [String.toList_append] at h
      rcases List.mem_append.1 h with h | h
      · simpa using List.all_eq_true.1 hfixed c h
      · exact isLower_of_mem_upperUnderscore h
    · exact isLower_of_mem_upperUnderscore h

theorem exists_head_constantName (literal : String) : ∃ first rest,
    (constantName literal).toList = first :: rest ∧ Character.isDigit first = false := by
  rw [constantName]
  split
  · exact ⟨'V', "ALUE".toList, rfl, by decide⟩
  next first rest hname =>
    split
    · exact ⟨'V', "ALUE_".toList ++ (upperUnderscore literal).toList, by simp, by decide⟩
    next hdigit => exact ⟨first, rest, hname, Bool.eq_false_iff.2 hdigit⟩

end TopicBindings.Naming
