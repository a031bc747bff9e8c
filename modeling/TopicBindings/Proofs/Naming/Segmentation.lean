import Mathlib.Data.List.Chain
import TopicBindings.Naming.Style

/-!
The division into words as a relation between a text and a list of words. A character in front of a text is dropped, or
is a word of its own, or joins the first word; `words_append` has what any text in front of another one comes to. The
words are the only list that has all characters of words in it, no empty word, and a new word exactly where two
characters are apart in the text or their classes part (`splitWords_segmented`).
-/

namespace TopicBindings.Naming

def isKept (c : Char) : Bool :=
  Class.of c ≠ .other

def Class.Parted (a b : Class) : Prop :=
  a = .lower ∧ (b = .upper ∨ b = .digit) ∨ a = .digit ∧ (b = .upper ∨ b = .lower)

theorem Class.divides_iff {a b : Class} : a.divides b = true ↔ a.Parted b := by
  cases a <;> cases b <;> simp [Class.divides, Class.Parted]

theorem Class.eq_lower_of_not_parted {b : Class} (hb : b ≠ .other) (h : ¬ Class.lower.Parted b) : b = .lower := by
  cases b <;> simp_all [Class.Parted]

theorem Class.eq_digit_of_not_parted {b : Class} (hb : b ≠ .other) (h : ¬ Class.digit.Parted b) : b = .digit := by
  cases b <;> simp_all [Class.Parted]

/-- Two characters stand next to each other in one word, the characters of words in front of them being `front`. -/
def SameWord (ws : List (List Char)) (front : List Char) (c d : Char) : Prop :=
  ∃ earlier u v later, ws = earlier ++ (u ++ c :: d :: v) :: later ∧ earlier.flatten ++ u = front

structure Segmented (s : List Char) (ws : List (List Char)) : Prop where
  flatten : ws.flatten = s.filter isKept
  ne_nil : ∀ w ∈ ws, w ≠ []
  sameWord_iff : ∀ before c gap d after, s = before ++ c :: (gap ++ d :: after) →
    isKept c = true → isKept d = true → (∀ x ∈ gap, isKept x = false) →
    (SameWord ws (before.filter isKept) c d ↔ gap = [] ∧ ¬ (Class.of c).Parted (Class.of d))

def Shaped (w : List Char) : Prop :=
  ∃ capitals rest, w = capitals ++ rest ∧ (∀ c ∈ capitals, Class.of c = .upper) ∧
    ((∀ c ∈ rest, Class.of c = .lower) ∨ ∀ c ∈ rest, Class.of c = .digit)

section Cons

variable {s : List Char} {c d : Char}

theorem isKept_iff : isKept c = true ↔ Class.of c ≠ .other := by
  simp [isKept]

theorem isKept_eq_false_iff : isKept c = false ↔ Class.of c = .other := by
  simp [isKept]

theorem words_eq (last : Class) (s : List Char) : words s = consWord (segment last s).1 (segment last s).2 := by
  rw [words]
  cases s with
  | nil => rfl
  | cons c rest =>
      rw [segment, segment]
      split
      · rfl
      · split <;> split <;> rfl

theorem words_cons_other (hc : isKept c = false) : words (c :: s) = words s := by
  rw [words_eq (.of c) s, words, segment, if_pos (isKept_eq_false_iff.1 hc)]
  rfl

theorem words_cons (hc : isKept c = true) :
    words (c :: s) = (c :: (segment (.of c) s).1) :: (segment (.of c) s).2 := by
  rw [words, segment, if_neg (isKept_iff.1 hc)]
  split <;> rfl

/-- Nothing follows a character in its word at the end of the text, in front of a character of no word, and between
classes that part. -/
def Ends (c : Char) (s : List Char) : Prop :=
  ∀ d ∈ s.head?, isKept d = true → (Class.of c).Parted (Class.of d)

theorem words_cons_of_ends (hc : isKept c = true) (h : Ends c s) : words (c :: s) = [c] :: words s := by
  have hnone : (segment (.of c) s).1 = [] := by
    cases s with
    | nil => rfl
    | cons d rest =>
        rw [segment]
        split
        · rfl
        next hd => rw [if_pos (Class.divides_iff.2 (h d rfl (isKept_iff.2 hd)))]
  rw [words_cons hc, words_eq (.of c) s, hnone]
  rfl

theorem words_cons_cons (hc : isKept c = true) (hd : isKept d = true) (h : ¬ (Class.of c).Parted (Class.of d))
    {w : List Char} {more : List (List Char)} (hwords : words (d :: s) = w :: more) :
    words (c :: d :: s) = (c :: w) :: more := by
  rw [words_cons hd] at hwords
  rw [words_cons hc, segment, if_neg (isKept_iff.1 hd), if_neg (mt Class.divides_iff.1 h)]
  cases hwords
  rfl

end Cons

/-- Behind the characters `front` the words go on with `tail`, up to the end of a word, and with `more`. -/
def GoesOn (ws : List (List Char)) (front tail : List Char) (more : List (List Char)) : Prop :=
  ∃ earlier u, ws = earlier ++ (u ++ tail) :: more ∧ earlier.flatten ++ u = front

section GoesOn

variable {ws more more' : List (List Char)} {front tail tail' w : List Char}

theorem GoesOn.cons (w : List Char) (h : GoesOn ws front tail more) : GoesOn (w :: ws) (w ++ front) tail more := by
  obtain ⟨earlier, u, rfl, rfl⟩ := h
  exact ⟨w :: earlier, u, rfl, by simp⟩

theorem GoesOn.unique (h : GoesOn ws front tail more) (h' : GoesOn ws front tail' more') (hne : tail ≠ [])
    (hne' : tail' ≠ []) : tail = tail' ∧ more = more' := by
  obtain ⟨earlier, u, rfl, rfl⟩ := h
  obtain ⟨earlier', u', hws, hfront⟩ := h'
  induction earlier generalizing earlier' with
  | nil =>
      cases earlier' with
      | nil =>
          obtain ⟨hword, hmore⟩ := List.cons.inj hws
          obtain rfl : u' = u := by simpa using hfront
          exact ⟨List.append_cancel_left hword, hmore⟩
      | cons w rest =>
          obtain ⟨rfl, -⟩ := List.cons.inj hws
          simp [hne] at hfront
  | cons w rest ih =>
      cases earlier' with
      | nil =>
          obtain ⟨rfl, -⟩ := List.cons.inj hws
          simp [hne'] at hfront
      | cons w' rest' =>
          obtain ⟨rfl, hrest⟩ := List.cons.inj hws
          exact ih rest' hrest (by simpa using hfront)

theorem GoesOn.words_cons {s : List Char} (h : GoesOn (words s) front tail more) (c : Char) :
    GoesOn (words (c :: s)) ([c].filter isKept ++ front) tail more := by
  cases hc : isKept c with
  | false =>
      rw [words_cons_other hc]
      simpa [hc] using h
  | true =>
      rw [show [c].filter isKept = [c] by simp [hc]]
      by_cases hends : Ends c s
      · rw [words_cons_of_ends hc hends]
        exact h.cons [c]
      · simp only [Ends, not_forall] at hends
        obtain ⟨d, hhead, hd, hparted⟩ := hends
        obtain ⟨rest, rfl⟩ := List.head?_eq_some_iff.1 hhead
        obtain ⟨earlier, u, hwords, rfl⟩ := h
        cases earlier with
        | nil => exact ⟨[], c :: u, words_cons_cons hc hd hparted hwords, rfl⟩
        | cons w others => exact ⟨(c :: w) :: others, u, words_cons_cons hc hd hparted hwords, rfl⟩

/-- A text in front of a word adds to its first word or does not, and leaves the others as they are. -/
theorem words_append {s : List Char} (hwords : words s = tail :: more) (before : List Char) :
    GoesOn (words (before ++ s)) (before.filter isKept) tail more := by
  induction before with
  | nil => exact ⟨[], [], hwords, rfl⟩
  | cons c rest ih =>
      rw [← List.singleton_append, List.filter_append]
      exact ih.words_cons c

end GoesOn

section Neighbours

variable {s gap : List Char} {c d : Char}

theorem words_append_of_dropped (hgap : ∀ x ∈ gap, isKept x = false) (s : List Char) :
    words (gap ++ s) = words s := by
  induction gap with
  | nil => rfl
  | cons x rest ih =>
      rw [List.cons_append, words_cons_other (hgap x (.head _)), ih fun y hy => hgap y (.tail _ hy)]

theorem exists_words_cons (hc : isKept c = true) (s : List Char) : ∃ w more, words (c :: s) = (c :: w) :: more :=
  ⟨_, _, words_cons hc⟩

theorem goesOn_of_joined (before after : List Char) (hc : isKept c = true) (hd : isKept d = true)
    (h : ¬ (Class.of c).Parted (Class.of d)) :
    ∃ v more, GoesOn (words (before ++ c :: d :: after)) (before.filter isKept) (c :: d :: v) more := by
  obtain ⟨v, more, hwords⟩ := exists_words_cons hd after
  exact ⟨v, more, words_append (words_cons_cons hc hd h hwords) before⟩

theorem goesOn_of_apart (before after : List Char) (hc : isKept c = true) (hd : isKept d = true)
    (hgap : ∀ x ∈ gap, isKept x = false) (h : gap = [] → (Class.of c).Parted (Class.of d)) :
    ∃ v more, GoesOn (words (before ++ c :: (gap ++ d :: after))) (before.filter isKept) [c] ((d :: v) :: more) := by
  obtain ⟨v, more, hwords⟩ := exists_words_cons hd after
  have hends : Ends c (gap ++ d :: after) := by
    intro x hx hkept
    cases gap with
    | nil =>
        obtain rfl := Option.some.inj hx
        exact h rfl
    | cons y rest =>
        obtain rfl := Option.some.inj hx
        rw [hgap y (.head _)] at hkept
        cases hkept
  refine ⟨v, more, words_append ?_ before⟩
  rw [words_cons_of_ends hc hends, words_append_of_dropped hgap, hwords]

theorem sameWord_iff_goesOn {ws : List (List Char)} {front : List Char} :
    SameWord ws front c d ↔ ∃ v more, GoesOn ws front (c :: d :: v) more :=
  ⟨fun ⟨earlier, u, v, later, h⟩ => ⟨v, later, earlier, u, h⟩,
    fun ⟨v, later, earlier, u, h⟩ => ⟨earlier, u, v, later, h⟩⟩

theorem sameWord_words_iff (before after : List Char) (hc : isKept c = true) (hd : isKept d = true)
    (hgap : ∀ x ∈ gap, isKept x = false) :
    SameWord (words (before ++ c :: (gap ++ d :: after))) (before.filter isKept) c d ↔
      gap = [] ∧ ¬ (Class.of c).Parted (Class.of d) := by
  rw [sameWord_iff_goesOn]
  constructor
  · rintro ⟨v, more, hsame⟩
    by_contra hnot
    have hparted : gap = [] → (Class.of c).Parted (Class.of d) := fun hnil =>
      by_contra fun hjoined => hnot ⟨hnil, hjoined⟩
    obtain ⟨v', more', hapart⟩ := goesOn_of_apart before after hc hd hgap hparted
    cases (hsame.unique hapart (List.cons_ne_nil _ _) (List.cons_ne_nil _ _)).1
  · rintro ⟨rfl, hparted⟩
    exact goesOn_of_joined before after hc hd hparted

end Neighbours

theorem flatten_words (s : List Char) : (words s).flatten = s.filter isKept := by
  induction s with
  | nil => rfl
  | cons c rest ih =>
      cases hc : isKept c with
      | false => rw [words_cons_other hc, ih, List.filter_cons_of_neg (by simp [hc])]
      | true =>
          rw [List.filter_cons_of_pos hc, ← ih, words_cons hc, words_eq (.of c) rest, consWord]
          split
          next hnone => simp [List.isEmpty_iff.1 hnone]
          next => simp

theorem segmented_words (s : List Char) : Segmented s (words s) where
  flatten := flatten_words s
  ne_nil := words_ne_nil s
  sameWord_iff := by
    rintro before c gap d after rfl hc hd hgap
    exact sameWord_words_iff before after hc hd hgap

theorem filter_isKept_eq_self {s : List Char} (hkept : ∀ c ∈ s, isKept c = true) : s.filter isKept = s :=
  List.filter_eq_self.2 hkept

/-- In a text without separators a word ends only where classes part. -/
theorem parted_of_words_eq {s p q : List Char} {c d : Char} {earlier later : List (List Char)}
    (hkept : ∀ x ∈ s, isKept x = true) (hwords : words s = earlier ++ (p ++ [c]) :: (d :: q) :: later) :
    s = (earlier.flatten ++ p) ++ c :: d :: (q ++ later.flatten) ∧ (Class.of c).Parted (Class.of d) := by
  have hs : s = (earlier.flatten ++ p) ++ c :: d :: (q ++ later.flatten) := by
    rw [← filter_isKept_eq_self hkept, ← flatten_words, hwords]
    simp
  have hfront : (earlier.flatten ++ p).filter isKept = earlier.flatten ++ p :=
    filter_isKept_eq_self fun x hx => hkept x (hs ▸ List.mem_append_left _ hx)
  refine ⟨hs, by_contra fun hjoined => ?_⟩
  obtain ⟨v, more, htogether⟩ := goesOn_of_joined (earlier.flatten ++ p) (q ++ later.flatten)
    (hkept c (hs ▸ by simp)) (hkept d (hs ▸ by simp)) hjoined
  rw [← hs, hfront] at htogether
  have hends : GoesOn (words s) (earlier.flatten ++ p) [c] ((d :: q) :: later) := ⟨earlier, p, hwords, rfl⟩
  cases (htogether.unique hends (List.cons_ne_nil _ _) (List.cons_ne_nil _ _)).1

section Unique

variable {ws ws' : List (List Char)} {w : List Char} {c d : Char}

theorem sameWord_cons_iff {front : List Char} : SameWord (w :: ws) (w ++ front) c d ↔ SameWord ws front c d := by
  constructor
  · rintro ⟨earlier, u, v, later, hws, hfront⟩
    cases earlier with
    | nil =>
        obtain ⟨rfl, -⟩ := List.cons.inj hws
        simp at hfront
    | cons first rest =>
        obtain ⟨rfl, rfl⟩ := List.cons.inj hws
        exact ⟨rest, u, v, later, rfl, by simpa using hfront⟩
  · rintro ⟨earlier, u, v, later, rfl, rfl⟩
    exact ⟨w :: earlier, u, v, later, rfl, by simp⟩

/-- Where a first word ends and a longer one does not, two characters are in different words and in the same one. -/
theorem exists_not_sameWord (hw : w ≠ []) (d : Char) (v : List Char) (ws ws' : List (List Char)) :
    ∃ u c, w = u ++ [c] ∧ ¬ SameWord (w :: ws) u c d ∧ SameWord ((w ++ d :: v) :: ws') u c d := by
  obtain ⟨u, c, rfl⟩ := (List.eq_nil_or_concat' w).resolve_left hw
  refine ⟨u, c, rfl, fun hsame => ?_, [], u, v, ws', by simp, rfl⟩
  obtain ⟨v', more, hgoes⟩ := sameWord_iff_goesOn.1 hsame
  have hends : GoesOn ((u ++ [c]) :: ws) u [c] ws := ⟨[], u, rfl, rfl⟩
  cases (hgoes.unique hends (List.cons_ne_nil _ _) (List.cons_ne_nil _ _)).1

theorem first_eq_of_sameWord {w' : List Char} (hw : w ≠ []) (hw' : w' ≠ [])
    (hflatten : (w :: ws).flatten = (w' :: ws').flatten)
    (hsame : ∀ front c d rest, (w :: ws).flatten = front ++ c :: d :: rest →
      (SameWord (w :: ws) front c d ↔ SameWord (w' :: ws') front c d)) : w = w' := by
  rw [List.flatten_cons, List.flatten_cons] at hflatten
  rcases List.append_eq_append_iff.1 hflatten with ⟨longer, rfl, hws⟩ | ⟨longer, rfl, hws⟩
  · cases longer with
    | nil => rw [List.append_nil]
    | cons d v =>
        obtain ⟨u, c, rfl, hnot, htogether⟩ := exists_not_sameWord hw d v ws ws'
        have hfront : ((u ++ [c]) :: ws).flatten = u ++ c :: d :: (v ++ ws'.flatten) := by
          rw [List.flatten_cons, hws]
          simp
        exact absurd ((hsame u c d _ hfront).2 htogether) hnot
  · cases longer with
    | nil => rw [List.append_nil]
    | cons d v =>
        obtain ⟨u, c, rfl, hnot, htogether⟩ := exists_not_sameWord hw' d v ws' ws
        have hfront : ((u ++ [c] ++ d :: v) :: ws).flatten = u ++ c :: d :: (v ++ ws.flatten) := by simp
        exact absurd ((hsame u c d _ hfront).1 htogether) hnot

/-- Words without an empty one are determined by their characters and by the neighbours that are in the same word. -/
theorem eq_of_sameWord (hne : ∀ w ∈ ws, w ≠ []) (hne' : ∀ w ∈ ws', w ≠ [])
    (hflatten : ws.flatten = ws'.flatten)
    (hsame : ∀ front c d rest, ws.flatten = front ++ c :: d :: rest →
      (SameWord ws front c d ↔ SameWord ws' front c d)) : ws = ws' := by
  induction ws generalizing ws' with
  | nil =>
      cases ws' with
      | nil => rfl
      | cons w' rest' => simp [hne' w' (.head _)] at hflatten
  | cons w rest ih =>
      cases ws' with
      | nil => simp [hne w (.head _)] at hflatten
      | cons w' rest' =>
          obtain rfl := first_eq_of_sameWord (hne w (.head _)) (hne' w' (.head _)) hflatten hsame
          have hrest : rest.flatten = rest'.flatten := by simpa using hflatten
          rw [ih (fun x hx => hne x (.tail _ hx)) (fun x hx => hne' x (.tail _ hx)) hrest
            fun front c d after hafter => ?_]
          have hlonger : (w :: rest).flatten = (w ++ front) ++ c :: d :: after := by
            rw [List.flatten_cons, hafter, List.append_assoc]
          exact sameWord_cons_iff.symm.trans ((hsame _ c d after hlonger).trans sameWord_cons_iff)

/-- Two characters next to each other among those of words stand in the text with others between them at most. -/
theorem exists_of_filter_eq {s front rest : List Char} (h : s.filter isKept = front ++ c :: d :: rest) :
    ∃ before gap after, s = before ++ c :: (gap ++ d :: after) ∧ before.filter isKept = front ∧
      isKept c = true ∧ isKept d = true ∧ ∀ x ∈ gap, isKept x = false := by
  obtain ⟨before, behind, rfl, rfl, hbehind⟩ := List.filter_eq_append_iff.1 h
  obtain ⟨dropped, behind', rfl, hdropped, hc, hbehind'⟩ := List.filter_eq_cons_iff.1 hbehind
  obtain ⟨gap, after, rfl, hgap, hd, -⟩ := List.filter_eq_cons_iff.1 hbehind'
  refine ⟨before ++ dropped, gap, after, by simp, ?_, hc, hd, fun x hx => by simpa using hgap x hx⟩
  rw [List.filter_append, List.filter_eq_nil_iff.2 hdropped, List.append_nil]

theorem segmented_iff {s : List Char} : Segmented s ws ↔ ws = words s := by
  constructor
  · intro h
    have hflatten : ws.flatten = (words s).flatten := h.flatten.trans (flatten_words s).symm
    refine eq_of_sameWord h.ne_nil (words_ne_nil s) hflatten fun front c d rest hfront => ?_
    obtain ⟨before, gap, after, rfl, rfl, hc, hd, hgap⟩ := exists_of_filter_eq (h.flatten.symm.trans hfront)
    rw [h.sameWord_iff before c gap d after rfl hc hd hgap, sameWord_words_iff before after hc hd hgap]
  · rintro rfl
    exact segmented_words s

end Unique

section Shape

variable {s w : List Char} {c d : Char}

theorem not_parted_of_mem_words (hw : w ∈ words s) :
    w.IsChain fun c d => ¬ (Class.of c).Parted (Class.of d) := by
  refine List.isChain_iff_forall_rel_of_append_cons_cons.2 fun c d u v hword => ?_
  obtain ⟨earlier, later, hwords⟩ := List.append_of_mem hw
  have hflatten : s.filter isKept = (earlier.flatten ++ u) ++ c :: d :: (v ++ later.flatten) := by
    rw [← flatten_words, hwords, hword]
    simp
  obtain ⟨before, gap, after, rfl, hfront, hc, hd, hgap⟩ := exists_of_filter_eq hflatten
  have hsame : SameWord (words (before ++ c :: (gap ++ d :: after))) (before.filter isKept) c d :=
    ⟨earlier, u, v, later, by rw [hwords, hword], hfront.symm⟩
  exact ((sameWord_words_iff before after hc hd hgap).1 hsame).2

theorem isKept_of_mem_words (hw : w ∈ words s) : ∀ c ∈ w, isKept c = true := by
  intro c hc
  have hmem : c ∈ s.filter isKept := flatten_words s ▸ List.mem_flatten.2 ⟨w, hw, hc⟩
  exact (List.mem_filter.1 hmem).2

theorem class_eq_of_isChain {k : Class} (hk : ∀ b, b ≠ .other → ¬ k.Parted b → b = k) (hc : Class.of c = k)
    (hkept : ∀ d ∈ w, isKept d = true) (hchain : (c :: w).IsChain fun c d => ¬ (Class.of c).Parted (Class.of d)) :
    ∀ d ∈ c :: w, Class.of d = k := by
  induction w generalizing c with
  | nil => simpa using hc
  | cons d rest ih =>
      obtain ⟨hfirst, hrest⟩ := List.isChain_cons_cons.1 hchain
      rw [hc] at hfirst
      have hd : Class.of d = k := hk _ (isKept_iff.1 (hkept d (.head _))) hfirst
      exact List.forall_mem_cons.2 ⟨hc, ih hd (fun x hx => hkept x (.tail _ hx)) hrest⟩

theorem shaped_of_isChain (hkept : ∀ c ∈ w, isKept c = true)
    (hchain : w.IsChain fun c d => ¬ (Class.of c).Parted (Class.of d)) : Shaped w := by
  induction w with
  | nil => exact ⟨[], [], rfl, by simp, .inl (by simp)⟩
  | cons c rest ih =>
      have hrest : ∀ d ∈ rest, isKept d = true := fun d hd => hkept d (.tail _ hd)
      cases hc : Class.of c with
      | upper =>
          obtain ⟨capitals, others, rfl, hcapitals, hothers⟩ := ih hrest hchain.tail
          exact ⟨c :: capitals, others, rfl, List.forall_mem_cons.2 ⟨hc, hcapitals⟩, hothers⟩
      | lower =>
          have hlower := class_eq_of_isChain (fun _ => Class.eq_lower_of_not_parted) hc hrest hchain
          exact ⟨[], c :: rest, rfl, by simp, .inl hlower⟩
      | digit =>
          have hdigit := class_eq_of_isChain (fun _ => Class.eq_digit_of_not_parted) hc hrest hchain
          exact ⟨[], c :: rest, rfl, by simp, .inr hdigit⟩
      | other => exact absurd hc (isKept_iff.1 (hkept c (.head _)))

theorem shaped_of_mem_words (hw : w ∈ words s) : Shaped w :=
  shaped_of_isChain (isKept_of_mem_words hw) (not_parted_of_mem_words hw)

end Shape

theorem map_toList_eq_words_iff {s : String} {ws : List String} :
    ws.map String.toList = words s.toList ↔ ws = splitWords s := by
  constructor
  · intro h
    rw [splitWords, ← h, List.map_map]
    simp
  · rintro rfl
    simp [splitWords]

theorem splitWords_segmented (s : String) :
    (∀ ws : List String, Segmented s.toList (ws.map String.toList) ↔ ws = splitWords s) ∧
      ∀ w ∈ splitWords s, Shaped w.toList := by
  refine ⟨fun ws => segmented_iff.trans map_toList_eq_words_iff, fun w hw => ?_⟩
  obtain ⟨word, hword, rfl⟩ := List.mem_map.1 hw
  rw [String.toList_ofList]
  exact shaped_of_mem_words hword

theorem splitWords_segmented_sample :
    "BAR12" ∈ splitWords "_fooBAR12--9x" ∧ Shaped "BAR12".toList ∧
      Segmented "_fooBAR12--9x".toList (["foo", "BAR12", "9", "x"].map String.toList) := by
  have hmem : "BAR12" ∈ splitWords "_fooBAR12--9x" := by decide +kernel
  have hwords : ["foo", "BAR12", "9", "x"] = splitWords "_fooBAR12--9x" := by decide +kernel
  exact ⟨hmem, (splitWords_segmented _).2 _ hmem, ((splitWords_segmented _).1 _).2 hwords⟩

end TopicBindings.Naming
