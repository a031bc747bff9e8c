import TopicBindings.Proofs.Naming.Spellings

/-!
Type names of type names. A text of ASCII without separators is its own type name exactly if it begins with no small
letter, has no capital behind a capital and no small letter behind a digit. A type name has a capital behind a capital
where a word of one letter was followed by a word that begins with a letter; the two run together when the name is taken
as a text again, and then nothing is left that could run together.
-/

namespace TopicBindings.Naming

open Character (isLetter)

/-- Camel case changes a capital behind a capital and a small letter behind a digit, and no other neighbours. -/
def Class.Stable (a b : Class) : Prop :=
  ¬ (a = .upper ∧ b = .upper) ∧ ¬ (a = .digit ∧ b = .lower)

namespace Class

variable {a b : Class}

theorem stable_iff_of_parted (h : a.Parted b) : a.Stable b ↔ b ≠ .lower := by
  revert h
  cases a <;> cases b <;> simp [Parted, Stable]

theorem stable_iff_of_not_parted (ha : a ≠ .other) (h : ¬ a.Parted b) : a.Stable b ↔ b ≠ .upper := by
  revert ha h
  cases a <;> cases b <;> simp [Parted, Stable]

theorem stable_raised_lowered (h : ¬ a.Parted b) : a.raised.Stable b.lowered := by
  revert h
  cases a <;> cases b <;> simp [Parted, Stable, raised, lowered]

theorem stable_lowered_lowered (h : ¬ a.Parted b) : a.lowered.Stable b.lowered := by
  revert h
  cases a <;> cases b <;> simp [Parted, Stable, lowered]

end Class

/-- Two words between which nothing is left in camel case: a single letter, and a word that begins with one. -/
def Fuse (v w : List Char) : Prop :=
  (∃ c, v = [c] ∧ isLetter c = true) ∧ ∃ c ∈ w.head?, isLetter c = true

theorem camelWith_capitalize_eq (s : List Char) : camelWith capitalize s = (words s).flatMap capitalize := by
  rw [camelWith_eq, camel_capitalize]

section FixedPoints

variable {s : List Char} {c d : Char}

theorem camelWith_of_parted (hs : Ascii (c :: d :: s)) (hc : isKept c = true)
    (h : (Class.of c).Parted (Class.of d)) :
    camelWith capitalize (c :: d :: s) = c.toUpper :: camelWith capitalize (d :: s) := by
  have hends : Ends c (d :: s) := by
    intro x hx _
    obtain rfl := Option.some.inj hx
    exact h
  have hsingle : Ascii [c] := fun x hx => hs x (List.mem_singleton.1 hx ▸ .head _)
  rw [camelWith_capitalize_eq, words_cons_of_ends hc hends, List.flatMap_cons, capitalize_cons hsingle,
    camelWith_capitalize_eq]
  rfl

theorem exists_camelWith_cons (hs : Ascii (c :: s)) (hc : isKept c = true) :
    ∃ rest, camelWith capitalize (c :: s) = c.toUpper :: rest := by
  obtain ⟨w, more, hwords⟩ := exists_words_cons hc s
  have hw : Ascii (c :: w) := hs.of_mem_words (hwords ▸ .head _)
  exact ⟨_, by rw [camelWith_capitalize_eq, hwords, List.flatMap_cons, capitalize_cons hw, List.cons_append]⟩

theorem camelWith_of_not_parted (hs : Ascii (c :: d :: s)) (hc : isKept c = true) (hd : isKept d = true)
    (h : ¬ (Class.of c).Parted (Class.of d)) {rest : List Char}
    (hrest : camelWith capitalize (d :: s) = d.toUpper :: rest) :
    camelWith capitalize (c :: d :: s) = c.toUpper :: d.toLower :: rest := by
  obtain ⟨w, more, hwords⟩ := exists_words_cons hd s
  have hlonger := words_cons_cons hc hd h hwords
  have hw : Ascii (d :: w) := hs.tail.of_mem_words (hwords ▸ .head _)
  have hcw : Ascii (c :: d :: w) := hs.of_mem_words (hlonger ▸ .head _)
  rw [camelWith_capitalize_eq, hwords, List.flatMap_cons, capitalize_cons hw, List.cons_append] at hrest
  rw [camelWith_capitalize_eq, hlonger, List.flatMap_cons, capitalize_cons hcw, List.map_cons, List.cons_append,
    List.cons_append, (List.cons.inj hrest).2]

theorem tail_camelWith_iff (hs : Ascii (c :: s)) (hkept : ∀ d ∈ c :: s, isKept d = true) :
    camelWith capitalize (c :: s) = c.toUpper :: s ↔
      (c :: s).IsChain fun c d => (Class.of c).Stable (Class.of d) := by
  induction s generalizing c with
  | nil => simp [camelWith_capitalize_eq, words_cons (hkept c (.head _)), segment, capitalize_cons hs]
  | cons d rest ih =>
      have hc := hkept c (.head _)
      have hd := hkept d (.tail _ (.head _))
      have hdascii := hs d (.tail _ (.head _))
      obtain ⟨after, hafter⟩ := exists_camelWith_cons hs.tail hd
      rw [List.isChain_cons_cons, ← ih hs.tail fun x hx => hkept x (.tail _ hx), hafter]
      by_cases hparted : (Class.of c).Parted (Class.of d)
      · rw [camelWith_of_parted hs hc hparted, hafter, Class.stable_iff_of_parted hparted,
          ← toUpper_eq_self_iff hdascii]
        simp
      · rw [camelWith_of_not_parted hs hc hd hparted hafter,
          Class.stable_iff_of_not_parted (isKept_iff.1 hc) hparted, ← toLower_eq_self_iff hdascii]
        simp

theorem camelWith_eq_self_iff (hs : Ascii s) (hkept : ∀ d ∈ s, isKept d = true) :
    camelWith capitalize s = s ↔
      (∀ c ∈ s.head?, Class.of c ≠ .lower) ∧ s.IsChain fun c d => (Class.of c).Stable (Class.of d) := by
  cases s with
  | nil => simp [camelWith_capitalize_eq, words, segment, consWord]
  | cons c rest =>
      obtain ⟨after, hafter⟩ := exists_camelWith_cons hs (hkept c (.head _))
      rw [← tail_camelWith_iff hs hkept, hafter, List.head?_cons]
      simp only [List.cons.injEq, true_and, Option.mem_some_iff, forall_eq', toUpper_eq_self_iff (hs c (.head _))]

end FixedPoints

section Pieces

variable {s v w : List Char} {c d : Char}

theorem ascii_capitalize (hw : Ascii w) : Ascii (capitalize w) := by
  cases w with
  | nil => exact hw
  | cons c rest =>
      rw [capitalize_cons hw]
      exact List.forall_mem_cons.2 ⟨toUpper_ascii (hw c (.head _)), hw.tail.map_toLower⟩

theorem isKept_of_mem_capitalize (hw : Ascii w) (hkept : ∀ c ∈ w, isKept c = true) :
    ∀ c ∈ capitalize w, isKept c = true := by
  cases w with
  | nil => exact hkept
  | cons c rest =>
      rw [capitalize_cons hw]
      refine List.forall_mem_cons.2 ⟨?_, List.forall_mem_map.2 fun d hd => ?_⟩
      · exact isKept_toUpper (hw c (.head _)) (hkept c (.head _))
      · exact isKept_toLower (hw d (.tail _ hd)) (hkept d (.tail _ hd))

theorem isChain_capitalize (hw : Ascii w) (hchain : w.IsChain fun c d => ¬ (Class.of c).Parted (Class.of d)) :
    (capitalize w).IsChain fun c d => (Class.of c).Stable (Class.of d) := by
  cases w with
  | nil => exact .nil
  | cons c rest =>
      obtain ⟨hfirst, hrest⟩ := List.isChain_cons.1 hchain
      rw [capitalize_cons hw]
      refine List.isChain_cons.2 ⟨fun d hd => ?_, ?_⟩
      · rw [List.head?_map] at hd
        obtain ⟨x, hx, rfl⟩ := Option.map_eq_some_iff.1 hd
        rw [class_toUpper (hw c (.head _)), class_toLower (hw x (.tail _ (List.mem_of_head? hx)))]
        exact Class.stable_raised_lowered (hfirst x hx)
      · rw [List.isChain_map]
        refine hrest.imp_of_mem_imp fun x y hx hy hnot => ?_
        rw [class_toLower (hw x (.tail _ hx)), class_toLower (hw y (.tail _ hy))]
        exact Class.stable_lowered_lowered hnot

theorem head?_capitalize (hw : Ascii (c :: w)) : (capitalize (c :: w)).head? = some c.toUpper := by
  rw [capitalize_cons hw, List.head?_cons]

theorem class_head?_capitalize (hw : Ascii w) : ∀ c ∈ (capitalize w).head?, Class.of c ≠ .lower := by
  cases w with
  | nil => simp [capitalize]
  | cons d rest =>
      intro c hc
      rw [head?_capitalize hw] at hc
      obtain rfl := Option.some.inj hc
      rw [class_toUpper (hw d (.head _))]
      cases Class.of d <;> simp [Class.raised]

/-- A word ends in a capital in camel case only if it is a single letter. -/
theorem class_getLast?_capitalize_iff (hw : Ascii w) (hne : w ≠ []) :
    (∃ c ∈ (capitalize w).getLast?, Class.of c = .upper) ↔ ∃ c, w = [c] ∧ isLetter c = true := by
  obtain ⟨c, rest, rfl⟩ := List.exists_cons_of_ne_nil hne
  rw [capitalize_cons hw]
  rcases List.eq_nil_or_concat' rest with rfl | ⟨others, d, rfl⟩
  · have hc := hw c (.head _)
    simp only [List.map_nil, List.getLast?_singleton, Option.mem_some_iff, exists_eq_left', class_toUpper hc,
      List.cons.injEq, and_true, isLetter_iff hc]
    cases Class.of c <;> simp [Class.raised]
  · have hd : d.toNat < 128 := hw d (by simp)
    have hlast : (c.toUpper :: (others ++ [d]).map Char.toLower).getLast? = some d.toLower := by
      rw [List.map_append, ← List.cons_append]
      exact List.getLast?_concat
    simp only [hlast, Option.mem_some_iff, exists_eq_left', class_toLower hd]
    cases Class.of d <;> simp [Class.lowered]

/-- Between two words in camel case the second capital keeps its case unless the words run together. -/
theorem stable_between_iff (hv : Ascii v) (hw : Ascii w) (hvne : v ≠ []) (hwne : w ≠ []) :
    (∀ x ∈ (capitalize v).getLast?, ∀ y ∈ (capitalize w).head?, (Class.of x).Stable (Class.of y)) ↔
      ¬ Fuse v w := by
  obtain ⟨d, w, rfl⟩ := List.exists_cons_of_ne_nil hwne
  have hd : d.toNat < 128 := hw d (.head _)
  have hcapital : ∀ x, (Class.of x).Stable (Class.of d.toUpper) ↔
      ¬ (Class.of x = .upper ∧ isLetter d = true) := by
    intro x
    rw [class_toUpper hd, isLetter_iff hd]
    cases Class.of x <;> cases Class.of d <;> simp [Class.Stable, Class.raised]
  rw [Fuse, ← class_getLast?_capitalize_iff hv hvne, head?_capitalize hw, List.head?_cons]
  simp only [Option.mem_some_iff, forall_eq', exists_eq_left', hcapital]
  constructor
  · rintro hall ⟨⟨x, hx, hupper⟩, hletter⟩
    exact hall x hx ⟨hupper, hletter⟩
  · rintro hnot x hx ⟨hupper, hletter⟩
    exact hnot ⟨⟨x, hx, hupper⟩, hletter⟩

end Pieces

section TypeNames

variable {s : List Char} (hs : Ascii s)

theorem camelWith_eq_flatten (s : List Char) : camelWith capitalize s = ((words s).map capitalize).flatten := by
  rw [camelWith_capitalize_eq, List.flatMap_def]

include hs

theorem capitalize_ne_nil_of_mem {l : List Char} (hl : l ∈ (words s).map capitalize) : l ≠ [] := by
  obtain ⟨w, hw, rfl⟩ := List.mem_map.1 hl
  obtain ⟨c, rest, rfl⟩ := List.exists_cons_of_ne_nil (words_ne_nil s w hw)
  rw [capitalize_cons (hs.of_mem_words hw)]
  exact List.cons_ne_nil _ _

theorem ascii_camelWith : Ascii (camelWith capitalize s) := by
  intro c hc
  rw [camelWith_capitalize_eq] at hc
  obtain ⟨w, hw, hc⟩ := List.mem_flatMap.1 hc
  exact ascii_capitalize (hs.of_mem_words hw) c hc

theorem isKept_of_mem_camelWith : ∀ c ∈ camelWith capitalize s, isKept c = true := by
  intro c hc
  rw [camelWith_capitalize_eq] at hc
  obtain ⟨w, hw, hc⟩ := List.mem_flatMap.1 hc
  exact isKept_of_mem_capitalize (hs.of_mem_words hw) (isKept_of_mem_words hw) c hc

theorem class_head?_camelWith : ∀ c ∈ (camelWith capitalize s).head?, Class.of c ≠ .lower := by
  rw [camelWith_eq_flatten]
  cases hwords : words s with
  | nil => simp
  | cons w more =>
      have hw : w ∈ words s := hwords ▸ .head _
      have hne := capitalize_ne_nil_of_mem hs (List.mem_map_of_mem hw)
      rw [List.map_cons, List.flatten_cons, List.head?_append_of_ne_nil _ hne]
      exact class_head?_capitalize (hs.of_mem_words hw)

theorem isChain_camelWith_iff :
    ((camelWith capitalize s).IsChain fun c d => (Class.of c).Stable (Class.of d)) ↔
      (words s).IsChain fun v w => ¬ Fuse v w := by
  have hnil : [] ∉ (words s).map capitalize := fun h => capitalize_ne_nil_of_mem hs h rfl
  have hpieces : ∀ l ∈ (words s).map capitalize, l.IsChain fun c d => (Class.of c).Stable (Class.of d) :=
    List.forall_mem_map.2 fun w hw => isChain_capitalize (hs.of_mem_words hw) (not_parted_of_mem_words hw)
  rw [camelWith_eq_flatten, List.isChain_flatten hnil, and_iff_right hpieces, List.isChain_map]
  refine List.IsChain.iff_of_mem_imp fun v w hv hw => ?_
  exact stable_between_iff (hs.of_mem_words hv) (hs.of_mem_words hw) (words_ne_nil s v hv) (words_ne_nil s w hw)

theorem camelWith_camelWith_iff :
    camelWith capitalize (camelWith capitalize s) = camelWith capitalize s ↔
      (words s).IsChain fun v w => ¬ Fuse v w := by
  rw [camelWith_eq_self_iff (ascii_camelWith hs) (isKept_of_mem_camelWith hs), and_iff_right (class_head?_camelWith hs),
    isChain_camelWith_iff hs]

theorem isChain_not_bare :
    (camelWith capitalize s).IsChain fun c d => ¬ (Class.of c = .digit ∧ Class.of d = .lower) := by
  have hnil : [] ∉ (words s).map capitalize := fun h => capitalize_ne_nil_of_mem hs h rfl
  rw [camelWith_eq_flatten, List.isChain_flatten hnil]
  constructor
  · refine List.forall_mem_map.2 fun w hw => ?_
    exact (isChain_capitalize (hs.of_mem_words hw) (not_parted_of_mem_words hw)).imp fun c d h => h.2
  · rw [List.isChain_map]
    refine List.Pairwise.isChain (List.pairwise_of_forall_mem_list fun v _ w hw x _ y hy hbare => ?_)
    exact class_head?_capitalize (hs.of_mem_words hw) y hy hbare.2

end TypeNames

/-- Words run together only behind a single small letter, and one that no word begins with is never left alone. -/
theorem isChain_words {s : List Char} (hs : Ascii s) (hkept : ∀ c ∈ s, isKept c = true)
    (hhead : ∀ c ∈ s.head?, Class.of c ≠ .lower)
    (hbare : s.IsChain fun c d => ¬ (Class.of c = .digit ∧ Class.of d = .lower)) :
    (words s).IsChain fun v w => ¬ Fuse v w := by
  refine List.isChain_iff_forall_rel_of_append_cons_cons.2 ?_
  rintro v w earlier later hwords ⟨⟨c, rfl, hc⟩, d, hd, hdletter⟩
  obtain ⟨rest, rfl⟩ := List.head?_eq_some_iff.1 hd
  have hsingle : words s = earlier ++ ([] ++ [c]) :: (d :: rest) :: later := hwords
  obtain ⟨htext, hparted⟩ := parted_of_words_eq hkept hsingle
  have hcascii : c.toNat < 128 := hs c (htext ▸ by simp)
  have hdascii : d.toNat < 128 := hs d (htext ▸ by simp)
  have hlower : Class.of c = .lower := by
    rw [isLetter_iff hcascii] at hc
    rw [isLetter_iff hdascii] at hdletter
    rcases hparted with ⟨hlower, -⟩ | ⟨hdigit, -⟩
    · exact hlower
    · simp [hdigit] at hc
  -- The single letter is a small one, so the word in front of it, if there is one, ends in a digit.
  rcases List.eq_nil_or_concat' earlier with rfl | ⟨others, before, rfl⟩
  · exact hhead c (htext ▸ rfl) hlower
  · have hne : before ≠ [] := words_ne_nil s before (hwords ▸ by simp)
    obtain ⟨p, b, rfl⟩ := (List.eq_nil_or_concat' before).resolve_left hne
    have hearlier : words s = others ++ (p ++ [b]) :: (c :: []) :: (d :: rest) :: later := by rw [hwords]; simp
    obtain ⟨hbefore, hpart⟩ := parted_of_words_eq hkept hearlier
    have hdigit : Class.of b = .digit := by
      rw [hlower] at hpart
      rcases hpart with ⟨-, h | h⟩ | ⟨hdigit, -⟩
      · cases h
      · cases h
      · exact hdigit
    exact List.isChain_iff_forall_rel_of_append_cons_cons.1 hbare hbefore ⟨hdigit, hlower⟩

theorem camelWith_settled {s : List Char} (hs : Ascii s) :
    camelWith capitalize (camelWith capitalize (camelWith capitalize s)) =
      camelWith capitalize (camelWith capitalize s) :=
  (camelWith_camelWith_iff (ascii_camelWith hs)).2 (isChain_words (ascii_camelWith hs) (isKept_of_mem_camelWith hs)
    (class_head?_camelWith hs) (isChain_not_bare hs))

def SingleLetter (w : String) : Prop :=
  ∃ c, w.toList = [c] ∧ isLetter c = true

def BeginsWithLetter (w : String) : Prop :=
  ∃ c ∈ w.toList.head?, isLetter c = true

theorem isChain_splitWords_iff (s : String) :
    ((splitWords s).IsChain fun v w => ¬ (SingleLetter v ∧ BeginsWithLetter w)) ↔
      (words s.toList).IsChain fun v w => ¬ Fuse v w := by
  rw [splitWords, List.isChain_map]
  refine List.IsChain.iff fun v w => ?_
  rw [SingleLetter, BeginsWithLetter, String.toList_ofList, String.toList_ofList, Fuse]

theorem toList_typeName (s : String) : (typeName s).toList = camelWith capitalize s.toList := by
  rw [typeName, String.toList_ofList]

theorem typeName_typeName_iff {s : String} (hs : Ascii s.toList) :
    (typeName (typeName s) = typeName s ↔
      (splitWords s).IsChain fun v w => ¬ (SingleLetter v ∧ BeginsWithLetter w)) ∧
    typeName (typeName (typeName s)) = typeName (typeName s) := by
  constructor
  · rw [isChain_splitWords_iff, ← camelWith_camelWith_iff hs, ← String.toList_inj, toList_typeName, toList_typeName]
  · rw [← String.toList_inj]
    simp only [toList_typeName]
    exact camelWith_settled hs

theorem typeName_typeName_sample :
    Ascii "x-ray12b".toList ∧ typeName "x-ray12b" = "XRay12B" ∧ typeName "XRay12B" = "Xray12B" ∧
      (¬ (splitWords "x-ray12b").IsChain fun v w => ¬ (SingleLetter v ∧ BeginsWithLetter w)) ∧
      typeName (typeName "Xray12B") = typeName "Xray12B" := by
  have hs : Ascii "x-ray12b".toList := by decide
  have honce : typeName "x-ray12b" = "XRay12B" := by decide +kernel
  have htwice : typeName "XRay12B" = "Xray12B" := by decide +kernel
  refine ⟨hs, honce, htwice, mt (typeName_typeName_iff hs).1.2 ?_, ?_⟩
  · rw [honce, htwice]
    decide
  · have hsettled := (typeName_typeName_iff hs).2
    rw [honce, htwice] at hsettled
    rw [hsettled, hsettled]

end TopicBindings.Naming
