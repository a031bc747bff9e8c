import Mathlib.Data.List.Induction
import Mathlib.Data.List.Nodup
import TopicBindings.Entries

/-!
Looking up and listing agree on entries with distinct keys, and what putting, changing and looking up do
to each other. Keys that are put in one after the other stand in the order of their first occurrences.
-/

namespace TopicBindings.Entries

variable {κ ν : Type} [BEq κ] [LawfulBEq κ]

theorem mem_of_lookup {entries : Entries κ ν} {key : κ} {value : ν}
    (h : entries.lookup key = some value) : (key, value) ∈ entries := by
  obtain ⟨before, after, rfl, -⟩ := List.lookup_eq_some_iff.1 h
  simp

theorem lookup_of_mem {entries : Entries κ ν} (hn : entries.keys.Nodup) {key : κ} {value : ν}
    (h : (key, value) ∈ entries) : entries.lookup key = some value := by
  obtain ⟨before, after, rfl⟩ := List.append_of_mem h
  refine List.lookup_eq_some_iff.2 ⟨before, after, rfl, fun entry hm => ?_⟩
  simp only [keys, List.map_append, List.map_cons, List.nodup_append, List.mem_cons] at hn
  exact bne_iff_ne.2 (hn.2.2 entry.1 (List.mem_map_of_mem hm) key (.inl rfl)).symm

theorem isSome_lookup_iff {entries : Entries κ ν} {key : κ} :
    (entries.lookup key).isSome ↔ key ∈ entries.keys := by
  simp only [List.lookup_isSome_iff, keys, List.mem_map]
  constructor
  · rintro ⟨entry, hm, he⟩
    exact ⟨entry, hm, (beq_iff_eq.1 he).symm⟩
  · rintro ⟨entry, hm, he⟩
    exact ⟨entry, hm, beq_iff_eq.2 he.symm⟩

theorem mem_of_mem_set {entries : Entries κ ν} {key : κ} {value : ν} {entry : κ × ν}
    (h : entry ∈ set key value entries) : entry = (key, value) ∨ entry ∈ entries := by
  induction entries with
  | nil => exact .inl (List.mem_singleton.1 h)
  | cons first rest ih =>
      rw [set] at h
      split at h
      next hk =>
        rcases List.mem_cons.1 h with rfl | h
        · exact .inl (by rw [beq_iff_eq.1 hk])
        · exact .inr (.tail _ h)
      · rcases List.mem_cons.1 h with rfl | h
        · exact .inr (.head _)
        · rcases ih h with h | h
          · exact .inl h
          · exact .inr (.tail _ h)

theorem lookup_map {κ' ν' : Type} [BEq κ'] [LawfulBEq κ'] {f : κ → κ'} {g : ν → ν'}
    {entries : Entries κ ν} {key : κ} (hf : ∀ k ∈ entries.keys, f key = f k → key = k) :
    (entries.map fun e => (f e.1, g e.2)).lookup (f key) = (entries.lookup key).map g := by
  induction entries with
  | nil => rfl
  | cons entry rest ih =>
      obtain ⟨k, v⟩ := entry
      have hrest := ih fun k hk => hf k (.tail _ hk)
      by_cases hk : key = k
      · subst hk
        simp
      · have hne : f key ≠ f k := fun he => hk (hf k (.head _) he)
        simp only [List.map_cons, List.lookup_cons, beq_eq_false_iff_ne.2 hne, beq_eq_false_iff_ne.2 hk]
        exact hrest

theorem map_set {κ' ν' : Type} [BEq κ'] [LawfulBEq κ'] {f : κ → κ'} (hf : Function.Injective f) (g : ν → ν')
    (key : κ) (value : ν) (entries : Entries κ ν) :
    (set key value entries).map (fun e => (f e.1, g e.2)) =
      set (f key) (g value) (entries.map fun e => (f e.1, g e.2)) := by
  induction entries with
  | nil => rfl
  | cons entry rest ih =>
      obtain ⟨k, v⟩ := entry
      by_cases h : k = key
      · subst h
        simp [set]
      · have hne : f k ≠ f key := fun he => h (hf he)
        simp [set, h, hne, ih]

theorem map_alter {ν' : Type} {g : ν → ν'} {change : ν → ν} {change' : ν' → ν'}
    (hg : ∀ v, g (change v) = change' (g v)) (key : κ) (first : ν) (entries : Entries κ ν) :
    (alter key first change entries).map (fun e => (e.1, g e.2)) =
      alter key (g first) change' (entries.map fun e => (e.1, g e.2)) := by
  induction entries with
  | nil => rfl
  | cons entry rest ih =>
      obtain ⟨k, v⟩ := entry
      by_cases h : k = key
      · subst h
        simp [alter, hg]
      · simp [alter, h, ih]

theorem keys_alter (key : κ) (first : ν) (change : ν → ν) (entries : Entries κ ν) :
    keys (alter key first change entries) =
      if key ∈ keys entries then keys entries else keys entries ++ [key] := by
  induction entries with
  | nil => simp [alter, keys]
  | cons entry rest ih =>
      obtain ⟨k, v⟩ := entry
      by_cases h : k = key
      · subst h
        simp [alter, keys]
      · simp only [alter, beq_eq_false_iff_ne.2 h]
        simp only [keys, List.map_cons, Bool.false_eq_true, if_false, List.mem_cons] at ih ⊢
        rw [ih]
        by_cases hm : key ∈ List.map Prod.fst rest
        · simp [hm]
        · simp [hm, Ne.symm h]

theorem lookup_alter_self (key : κ) (first : ν) (change : ν → ν) (entries : Entries κ ν) :
    (alter key first change entries).lookup key =
      some (((entries.lookup key).map change).getD first) := by
  induction entries with
  | nil => simp [alter]
  | cons entry rest ih =>
      obtain ⟨k, v⟩ := entry
      by_cases h : k = key
      · subst h
        simp [alter]
      · have h' : (key == k) = false := beq_eq_false_iff_ne.2 (Ne.symm h)
        simp [alter, beq_eq_false_iff_ne.2 h, List.lookup_cons, h', ih]

theorem lookup_alter_other {key other : κ} (hne : other ≠ key) (first : ν) (change : ν → ν)
    (entries : Entries κ ν) : (alter key first change entries).lookup other = entries.lookup other := by
  have hno : (other == key) = false := beq_eq_false_iff_ne.2 hne
  induction entries with
  | nil => simp [alter, List.lookup_cons, hno]
  | cons entry rest ih =>
      obtain ⟨k, v⟩ := entry
      by_cases h : k = key
      · subst h
        simp [alter, List.lookup_cons, hno]
      · simp only [alter, beq_eq_false_iff_ne.2 h, Bool.false_eq_true, if_false, List.lookup_cons]
        split
        · rfl
        · exact ih

theorem nodup_of_noted {keys : List κ} (h : keys.Nodup) (key : κ) :
    (if key ∈ keys then keys else keys ++ [key]).Nodup := by
  split
  · exact h
  next hfree => exact List.nodup_append.2 ⟨h, List.nodup_singleton key, by
      rintro k hk _ hkey rfl
      exact hfree (List.mem_singleton.1 hkey ▸ hk)⟩

theorem nodup_keys_alter {entries : Entries κ ν} (h : entries.keys.Nodup) (key : κ) (first : ν)
    (change : ν → ν) : (alter key first change entries).keys.Nodup := by
  rw [keys_alter]
  exact nodup_of_noted h key

theorem nodup_keys_set {entries : Entries κ ν} (h : entries.keys.Nodup) (key : κ) (value : ν) :
    (set key value entries).keys.Nodup := by
  rw [keys_set]
  exact nodup_of_noted h key

/-- A value that gains a property when it is changed, and has no more of it than that. -/
theorem exists_mem_alter {κ ν : Type} [BEq κ] (Q : ν → Prop) {C : Prop} {key : κ} {first : ν} {change : ν → ν}
    (hfirst : Q first ↔ C) (hchange : ∀ v, Q (change v) ↔ Q v ∨ C) (entries : Entries κ ν) :
    (∃ e ∈ alter key first change entries, Q e.2) ↔ (∃ e ∈ entries, Q e.2) ∨ C := by
  induction entries with
  | nil => simp [alter, hfirst]
  | cons entry rest ih =>
      obtain ⟨k, v⟩ := entry
      by_cases hk : k == key
      · simp only [alter, hk, if_true, List.mem_cons, exists_eq_or_imp, hchange]
        rw [or_right_comm]
      · simp only [alter, hk, Bool.false_eq_true, if_false, List.mem_cons, exists_eq_or_imp, ih]
        rw [or_assoc]

theorem forall_mem_alter {P : κ → ν → Prop} {entries : Entries κ ν} (h : ∀ e ∈ entries, P e.1 e.2)
    {key : κ} {first : ν} {change : ν → ν} (hfirst : P key first)
    (hchange : ∀ v, P key v → P key (change v)) :
    ∀ e ∈ alter key first change entries, P e.1 e.2 := by
  induction entries with
  | nil => simpa [alter] using hfirst
  | cons entry rest ih =>
      obtain ⟨k, v⟩ := entry
      have hrest : ∀ e ∈ rest, P e.1 e.2 := fun e he => h e (.tail _ he)
      rw [alter]
      split
      next hk =>
        obtain rfl := beq_iff_eq.1 hk
        exact List.forall_mem_cons.2 ⟨hchange v (h _ (.head _)), hrest⟩
      · exact List.forall_mem_cons.2 ⟨h _ (.head _), ih hrest⟩

section Occurrences

theorem eraseDups_concat (keys : List κ) (key : κ) :
    (keys ++ [key]).eraseDups = if key ∈ keys then keys.eraseDups else keys.eraseDups ++ [key] := by
  rw [List.eraseDups_append]
  by_cases h : key ∈ keys <;> simp [List.removeAll, h, List.eraseDups_cons]

theorem find?_eraseDups (p : κ → Bool) (keys : List κ) : keys.eraseDups.find? p = keys.find? p := by
  induction keys using List.reverseRecOn with
  | nil => rfl
  | append_singleton rest key ih =>
      rw [eraseDups_concat, List.find?_append]
      split
      next hkey =>
        rw [ih]
        cases hfound : rest.find? p with
        | some found => rfl
        | none =>
            have hp := List.find?_eq_none.1 hfound key hkey
            simp [hp]
      · rw [List.find?_append, ih]

theorem filter_eraseDups (p : κ → Bool) (keys : List κ) : keys.eraseDups.filter p = (keys.filter p).eraseDups := by
  induction keys using List.reverseRecOn with
  | nil => rfl
  | append_singleton rest key ih =>
      rw [eraseDups_concat, List.filter_append, List.filter_singleton]
      by_cases hp : p key = true
      · by_cases hkey : key ∈ rest <;> simp [hp, hkey, ih, eraseDups_concat]
      · by_cases hkey : key ∈ rest <;> simp [hp, hkey, ih]

theorem eraseDups_of_nodup {keys : List κ} (h : keys.Nodup) : keys.eraseDups = keys := by
  induction keys using List.reverseRecOn with
  | nil => rfl
  | append_singleton rest key ih =>
      rw [List.nodup_append_comm, List.singleton_append, List.nodup_cons] at h
      rw [eraseDups_concat, if_neg h.1, ih h.2]

/-- Keys that stand in the order in which they occurred do so with one more occurrence. -/
theorem keys_alter_of_eq {entries : Entries κ ν} {occurred : List κ} (h : entries.keys = occurred.eraseDups)
    (key : κ) (first : ν) (change : ν → ν) :
    (alter key first change entries).keys = (occurred ++ [key]).eraseDups := by
  rw [keys_alter, eraseDups_concat, h]
  simp only [List.mem_eraseDups]

theorem set_map_eraseDups (f : κ → ν) (occurred : List κ) (key : κ) :
    set key (f key) (occurred.eraseDups.map fun k => (k, f k)) =
      (occurred ++ [key]).eraseDups.map fun k => (k, f k) := by
  have hset : ∀ keys : List κ, set key (f key) (keys.map fun k => (k, f k)) =
      (if key ∈ keys then keys else keys ++ [key]).map fun k => (k, f k) := by
    intro keys
    induction keys with
    | nil => rfl
    | cons k rest ih =>
        by_cases hk : k = key
        · subst hk
          simp [set]
        · simp only [List.map_cons, set, beq_eq_false_iff_ne.2 hk, Bool.false_eq_true, if_false, ih, List.mem_cons,
            Ne.symm hk, false_or]
          split <;> rfl
  rw [hset, eraseDups_concat]
  simp only [List.mem_eraseDups]

end Occurrences

theorem flatMap_alter_perm {κ ν β : Type} [BEq κ] {g : ν → List β} {more : List β} {key : κ} {first : ν}
    {change : ν → ν} (hfirst : (g first).Perm more) (hchange : ∀ v, (g (change v)).Perm (g v ++ more))
    (entries : Entries κ ν) : ((alter key first change entries).flatMap fun e => g e.2).Perm
      (entries.flatMap (fun e => g e.2) ++ more) := by
  induction entries with
  | nil => simpa [alter] using hfirst
  | cons entry rest ih =>
      obtain ⟨k, v⟩ := entry
      rw [alter]
      split
      · rw [List.flatMap_cons, List.flatMap_cons, List.append_assoc]
        refine ((hchange v).append_right _).trans ?_
        rw [List.append_assoc]
        exact List.perm_append_comm.append_left _
      · rw [List.flatMap_cons, List.flatMap_cons, List.append_assoc]
        exact ih.append_left _

end TopicBindings.Entries
