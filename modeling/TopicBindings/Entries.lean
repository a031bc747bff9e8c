/-!
Values under keys, in order of the first insertion of each key. Putting a value under a key that is
there already replaces the value in its place. `lookup_set_self` and `lookup_set_other` say what a look-up
finds after that, `keys_set` that no key moves.
-/

namespace TopicBindings

abbrev Entries (κ ν : Type) := List (κ × ν)

namespace Entries

variable {κ ν : Type} [BEq κ]

def keys (entries : Entries κ ν) : List κ :=
  entries.map Prod.fst

def set (key : κ) (value : ν) : Entries κ ν → Entries κ ν
  | [] => [(key, value)]
  | (k, v) :: rest => if k == key then (k, value) :: rest else (k, v) :: set key value rest

def update (entries changes : Entries κ ν) : Entries κ ν :=
  changes.foldl (fun acc change => set change.1 change.2 acc) entries

/-- Changes the value of a key, or gives it a first one. -/
def alter (key : κ) (first : ν) (change : ν → ν) : Entries κ ν → Entries κ ν
  | [] => [(key, first)]
  | (k, v) :: rest => if k == key then (k, change v) :: rest else (k, v) :: alter key first change rest

theorem keys_set [LawfulBEq κ] (key : κ) (value : ν) (entries : Entries κ ν) :
    keys (set key value entries) = if key ∈ keys entries then keys entries else keys entries ++ [key] := by
  induction entries with
  | nil => simp [set, keys]
  | cons entry rest ih =>
      obtain ⟨k, v⟩ := entry
      by_cases h : k = key
      · subst h
        simp [set, keys]
      · simp only [set, beq_eq_false_iff_ne.2 h]
        simp only [keys, List.map_cons, Bool.false_eq_true, if_false, List.mem_cons] at ih ⊢
        rw [ih]
        by_cases hm : key ∈ List.map Prod.fst rest
        · simp [hm]
        · simp [hm, Ne.symm h]

theorem lookup_set_self [LawfulBEq κ] (key : κ) (value : ν) (entries : Entries κ ν) :
    (set key value entries).lookup key = some value := by
  induction entries with
  | nil => simp [set]
  | cons entry rest ih =>
      obtain ⟨k, v⟩ := entry
      by_cases h : k = key
      · subst h
        simp [set]
      · have h' : (key == k) = false := beq_eq_false_iff_ne.2 (Ne.symm h)
        simp [set, beq_eq_false_iff_ne.2 h, List.lookup_cons, h', ih]

theorem lookup_set_other [LawfulBEq κ] {key other : κ} (hne : other ≠ key) (value : ν)
    (entries : Entries κ ν) : (set key value entries).lookup other = entries.lookup other := by
  have hno : (other == key) = false := beq_eq_false_iff_ne.2 hne
  induction entries with
  | nil => simp [set, List.lookup_cons, hno]
  | cons entry rest ih =>
      obtain ⟨k, v⟩ := entry
      by_cases h : k = key
      · subst h
        simp [set, List.lookup_cons, hno]
      · simp only [set, beq_eq_false_iff_ne.2 h, Bool.false_eq_true, if_false, List.lookup_cons]
        split
        · rfl
        · exact ih

end Entries

end TopicBindings
