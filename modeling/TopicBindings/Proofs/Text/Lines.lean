import Mathlib.Data.List.Basic
import TopicBindings.Text.Lines
import TopicBindings.Text.Strip

/-!
Texts and their lines, for any choice of the characters that end a line. Whole lines put in front of a text come
out in front of its lines, and a text moved to the right is cut where any character ends a line: the ends of its
lines are line feeds from then on.
-/

namespace TopicBindings.Text

def push (c : Char) : List (List Char) → List (List Char)
  | [] => [[c]]
  | line :: more => (c :: line) :: more

/-- The lines of a text; a carriage return before a line feed does not count. -/
def linesBy (ends : Char → Bool) : List Char → List (List Char)
  | [] => []
  | c :: rest =>
      if c = '\r' ∧ rest.head? = some '\n' then linesBy ends rest
      else if ends c then [] :: linesBy ends rest
      else push c (linesBy ends rest)

/-- The characters that end a line of a file. -/
def isPhysicalEnd (c : Char) : Bool :=
  c == '\n' || c == '\r'

def physicalLines (s : List Char) : List (List Char) :=
  linesBy isPhysicalEnd s

theorem lines_eq_linesBy (s : List Char) : lines s = linesBy isLineEnd s := by
  fun_induction lines s with
  | case1 => rfl
  | case2 rest ih => simp [linesBy, ih, show isLineEnd '\n' = true from rfl]
  | case3 c rest hcrlf hend ih =>
      have hplain : ¬(c = '\r' ∧ rest.head? = some '\n') := fun ⟨hc, hhead⟩ =>
        hcrlf _ hc (List.eq_cons_of_mem_head? hhead)
      rw [linesBy, if_neg hplain, if_pos hend, ih]
  | case4 c rest hcrlf hend hnil ih =>
      have hplain : ¬(c = '\r' ∧ rest.head? = some '\n') := fun ⟨hc, hhead⟩ =>
        hcrlf _ hc (List.eq_cons_of_mem_head? hhead)
      rw [linesBy, if_neg hplain, if_neg hend, ← ih, hnil, push]
  | case5 c rest hcrlf hend line more hlines ih =>
      have hplain : ¬(c = '\r' ∧ rest.head? = some '\n') := fun ⟨hc, hhead⟩ =>
        hcrlf _ hc (List.eq_cons_of_mem_head? hhead)
      rw [linesBy, if_neg hplain, if_neg hend, ← ih, hlines, push]

def unlines (ls : List (List Char)) : List Char :=
  ls.flatMap fun l => l ++ ['\n']

@[simp]
theorem unlines_nil : unlines [] = [] :=
  rfl

@[simp]
theorem unlines_cons (l : List Char) (ls : List (List Char)) : unlines (l :: ls) = l ++ '\n' :: unlines ls := by
  simp [unlines]

@[simp]
theorem unlines_append (ls ls' : List (List Char)) : unlines (ls ++ ls') = unlines ls ++ unlines ls' := by
  simp [unlines]

theorem intercalate_feed (l : List Char) (ls : List (List Char)) :
    List.intercalate ['\n'] (l :: ls) ++ ['\n'] = unlines (l :: ls) := by
  induction ls generalizing l with
  | nil => simp
  | cons next rest ih =>
      have htail : List.intercalate ['\n'] (l :: next :: rest) = l ++ '\n' :: List.intercalate ['\n'] (next :: rest) := by
        simp [List.intercalate]
      rw [htail, List.append_assoc, List.cons_append, ih, unlines_cons l]

/-- Nothing, or a text whose last line is complete. -/
def Complete (s : List Char) : Prop :=
  s = [] ∨ ∃ t, s = t ++ ['\n']

theorem complete_unlines (ls : List (List Char)) : Complete (unlines ls) := by
  rcases List.eq_nil_or_concat ls with rfl | ⟨front, l, rfl⟩
  · exact .inl rfl
  · exact .inr ⟨unlines front ++ l, by simp⟩

theorem Complete.append {s t : List Char} (hs : Complete s) (ht : Complete t) : Complete (s ++ t) := by
  rcases ht with rfl | ⟨t, rfl⟩
  · simpa using hs
  · exact .inr ⟨s ++ t, by simp⟩

section Ends

variable {ends : Char → Bool}

theorem linesBy_feed (h : ends '\n' = true) (t : List Char) : linesBy ends ('\n' :: t) = [] :: linesBy ends t := by
  simp [linesBy, h]

theorem push_append {c : Char} {ls : List (List Char)} (h : ls ≠ []) (ls' : List (List Char)) :
    push c (ls ++ ls') = push c ls ++ ls' := by
  obtain ⟨line, more, rfl⟩ := List.exists_cons_of_ne_nil h
  rfl

theorem linesBy_ne_nil (h : ends '\n' = true) (s : List Char) : linesBy ends (s ++ ['\n']) ≠ [] := by
  induction s with
  | nil => simp [linesBy, h]
  | cons c rest ih =>
      rw [List.cons_append, linesBy]
      split
      · exact ih
      · split
        · simp
        · cases linesBy ends (rest ++ ['\n']) <;> simp [push]

theorem linesBy_append_feed (h : ends '\n' = true) (s t : List Char) :
    linesBy ends (s ++ '\n' :: t) = linesBy ends (s ++ ['\n']) ++ linesBy ends t := by
  induction s with
  | nil =>
      rw [List.nil_append, List.nil_append, linesBy_feed h, linesBy_feed h]
      rfl
  | cons c rest ih =>
      have hhead : (rest ++ '\n' :: t).head? = (rest ++ ['\n']).head? := by
        cases rest <;> rfl
      rw [List.cons_append, List.cons_append, linesBy, linesBy, hhead, ih]
      split
      · rfl
      · split
        · rfl
        · exact push_append (linesBy_ne_nil h rest) _

theorem linesBy_append (h : ends '\n' = true) {s : List Char} (hs : Complete s) (t : List Char) :
    linesBy ends (s ++ t) = linesBy ends s ++ linesBy ends t := by
  rcases hs with rfl | ⟨s, rfl⟩
  · rfl
  · rw [List.append_assoc, List.singleton_append, linesBy_append_feed h]

theorem linesBy_unlines (h : ends '\n' = true) (ls : List (List Char)) :
    linesBy ends (unlines ls) = ls.flatMap fun l => linesBy ends (l ++ ['\n']) := by
  induction ls with
  | nil => rfl
  | cons l rest ih => rw [unlines_cons, linesBy_append_feed h, ih, List.flatMap_cons]

def Unbroken (ends : Char → Bool) (l : List Char) : Prop :=
  ∀ c ∈ l, ends c = false

instance (ends : Char → Bool) (l : List Char) : Decidable (Unbroken ends l) :=
  List.decidableBAll (fun c => ends c = false) l

@[simp]
theorem unbroken_nil : Unbroken ends [] :=
  fun _ hc => absurd hc List.not_mem_nil

@[simp]
theorem unbroken_cons {c : Char} {l : List Char} : Unbroken ends (c :: l) ↔ ends c = false ∧ Unbroken ends l :=
  List.forall_mem_cons

@[simp]
theorem unbroken_append {l l' : List Char} : Unbroken ends (l ++ l') ↔ Unbroken ends l ∧ Unbroken ends l' :=
  List.forall_mem_append

theorem Unbroken.physical {l : List Char} (h : Unbroken isLineEnd l) : Unbroken isPhysicalEnd l := by
  intro c hc
  have hfree := h c hc
  by_contra hend
  simp only [isPhysicalEnd, Bool.not_eq_false, Bool.or_eq_true, beq_iff_eq] at hend
  rcases hend with rfl | rfl <;> cases hfree

theorem unbroken_spaces (hspace : ends ' ' = false) (n : Nat) : Unbroken ends (List.replicate n ' ') := by
  intro c hc
  obtain rfl := List.eq_of_mem_replicate hc
  exact hspace

theorem linesBy_of_unbroken (h : ends '\n' = true) (hreturn : ends '\r' = true) {l : List Char}
    (hl : Unbroken ends l) : linesBy ends (l ++ ['\n']) = [l] := by
  induction l with
  | nil => exact linesBy_feed h []
  | cons c rest ih =>
      obtain ⟨hc, hrest⟩ := unbroken_cons.1 hl
      have hplain : c ≠ '\r' := by
        rintro rfl
        rw [hreturn] at hc
        cases hc
      rw [List.cons_append, linesBy, if_neg (fun hcrlf => hplain hcrlf.1), if_neg (by simp [hc]), ih hrest]
      rfl

theorem linesBy_unlines_of_unbroken (h : ends '\n' = true) (hreturn : ends '\r' = true) {ls : List (List Char)}
    (hls : ∀ l ∈ ls, Unbroken ends l) : linesBy ends (unlines ls) = ls := by
  rw [linesBy_unlines h, List.flatMap_congr fun l hl => linesBy_of_unbroken h hreturn (hls l hl)]
  simp

theorem mem_linesBy_cons {c : Char} {rest l : List Char} (h : l ∈ linesBy ends (c :: rest)) :
    l ∈ linesBy ends rest ∨ l = [] ∨
      ends c = false ∧ ∃ line, l = c :: line ∧ (line = [] ∨ line ∈ linesBy ends rest) := by
  rw [linesBy] at h
  split at h
  · exact .inl h
  · split at h
    · exact (List.mem_cons.1 h).symm.imp_right .inl
    next hc =>
      rw [Bool.not_eq_true] at hc
      cases hrest : linesBy ends rest with
      | nil =>
          rw [hrest] at h
          exact .inr (.inr ⟨hc, [], List.mem_singleton.1 h, .inl rfl⟩)
      | cons line more =>
          rw [hrest] at h
          rcases List.mem_cons.1 h with rfl | h
          · exact .inr (.inr ⟨hc, line, rfl, .inr (.head _)⟩)
          · exact .inl (.tail _ h)

theorem unbroken_of_mem_linesBy {s l : List Char} (hl : l ∈ linesBy ends s) : Unbroken ends l := by
  induction s generalizing l with
  | nil => cases hl
  | cons c rest ih =>
      rcases mem_linesBy_cons hl with hl | rfl | ⟨hc, line, rfl, rfl | hline⟩
      · exact ih hl
      · exact unbroken_nil
      · exact unbroken_cons.2 ⟨hc, unbroken_nil⟩
      · exact unbroken_cons.2 ⟨hc, ih hline⟩

theorem mem_of_mem_linesBy {s l : List Char} {c : Char} (hl : l ∈ linesBy ends s) (hc : c ∈ l) : c ∈ s := by
  induction s generalizing l with
  | nil => cases hl
  | cons d rest ih =>
      rcases mem_linesBy_cons hl with hl | rfl | ⟨-, line, rfl, hline⟩
      · exact .tail _ (ih hl hc)
      · cases hc
      · rcases List.mem_cons.1 hc with rfl | hc
        · exact .head _
        · rcases hline with rfl | hline
          · cases hc
          · exact .tail _ (ih hline hc)

theorem exists_first_end {l : List Char} (hl : ¬Unbroken ends l) :
    ∃ u c v, l = u ++ c :: v ∧ Unbroken ends u ∧ ends c = true := by
  induction l with
  | nil => exact absurd unbroken_nil hl
  | cons c rest ih =>
      cases hc : ends c with
      | true => exact ⟨[], c, rest, rfl, unbroken_nil, hc⟩
      | false =>
          obtain ⟨u, d, v, rfl, hu, hd⟩ := ih fun hrest => hl (unbroken_cons.2 ⟨hc, hrest⟩)
          exact ⟨c :: u, d, v, rfl, unbroken_cons.2 ⟨hc, hu⟩, hd⟩

theorem linesBy_broken (h : ends '\n' = true) (hreturn : ends '\r' = true) {u : List Char} {c : Char}
    (hu : Unbroken ends u) (hc : ends c = true) (v : List Char) : ∃ more, linesBy ends (u ++ c :: v) = u :: more := by
  induction u with
  | nil =>
      rw [List.nil_append, linesBy]
      split
      next hcrlf =>
        obtain ⟨rest, rfl⟩ := List.head?_eq_some_iff.1 hcrlf.2
        exact ⟨_, linesBy_feed h rest⟩
      · exact ⟨_, rfl⟩
  | cons d rest ih =>
      obtain ⟨hd, hrest⟩ := unbroken_cons.1 hu
      obtain ⟨more, hmore⟩ := ih hrest
      have hplain : d ≠ '\r' := by
        rintro rfl
        rw [hreturn] at hd
        cases hd
      exact ⟨more, by rw [List.cons_append, linesBy, if_neg (fun hcrlf => hplain hcrlf.1), if_neg (by simp [hd]),
        hmore, push]⟩

theorem exists_last_line (hfeed : ends '\n' = true) (hreturn : ends '\r' = true) (s : List Char) {c : Char}
    (hc : ends c = false) : ∃ front l, linesBy ends (s ++ [c] ++ ['\n']) = front ++ [l ++ [c]] := by
  induction s with
  | nil => exact ⟨[], [], linesBy_of_unbroken hfeed hreturn (by simpa [Unbroken] using hc)⟩
  | cons d rest ih =>
      obtain ⟨front, l, hlines⟩ := ih
      rw [List.cons_append, List.cons_append, linesBy, hlines]
      split
      · exact ⟨front, l, rfl⟩
      · split
        · exact ⟨[] :: front, l, rfl⟩
        · cases front with
          | nil => exact ⟨[], d :: l, rfl⟩
          | cons first front => exact ⟨(d :: first) :: front, l, rfl⟩

end Ends

def shift (width : Nat) (line : List Char) : List Char :=
  if line.isEmpty then line else List.replicate width ' ' ++ line

/-- The lines of a text that is moved to the right; the place of the first one is taken in any case. -/
def shifted (width : Nat) : List (List Char) → List (List Char)
  | [] => []
  | first :: rest => (List.replicate width ' ' ++ first) :: rest.map (shift width)

theorem unlines_shifted (width : Nat) (s : List Char) :
    List.replicate width ' ' ++ indentTail width s ++ ['\n'] = unlines (shifted width (lines (s ++ ['\n']))) := by
  have hne : lines (s ++ ['\n']) ≠ [] := by
    rw [lines_eq_linesBy]
    exact linesBy_ne_nil rfl s
  obtain ⟨first, rest, hlines⟩ := List.exists_cons_of_ne_nil hne
  have hjoined := intercalate_feed first (rest.map (shift width))
  rw [indentTail, hlines, shifted, List.append_assoc, unlines_cons, List.append_assoc, ← unlines_cons first]
  exact congrArg _ hjoined

theorem shifted_append {width : Nat} {front back : List (List Char)} {l : List Char} {ls : List (List Char)} (hl : l ≠ []) :
    ∃ before after, shifted width (front ++ (l :: ls) ++ back) = before ++ (l :: ls).map (shift width) ++ after := by
  cases front with
  | nil => exact ⟨[], back.map (shift width), by simp [shifted, shift, hl]⟩
  | cons first front =>
      exact ⟨shifted width (first :: front), back.map (shift width), by simp [shifted]⟩

theorem exists_shifted_last (width : Nat) (front : List (List Char)) (l : List Char) (c : Char) :
    ∃ front' l', shifted width (front ++ [l ++ [c]]) = front' ++ [l' ++ [c]] := by
  cases front with
  | nil => exact ⟨[], List.replicate width ' ' ++ l, by simp [shifted]⟩
  | cons first front =>
      exact ⟨(List.replicate width ' ' ++ first) :: front.map (shift width), List.replicate width ' ' ++ l,
        by simp [shifted, shift]⟩

theorem shifted_of_ne_nil {width : Nat} {l : List Char} (hl : l ≠ []) (ls : List (List Char)) :
    shifted width (l :: ls) = (l :: ls).map (shift width) := by
  simp [shifted, shift, hl]

theorem shift_zero (line : List Char) : shift 0 line = line := by
  simp [shift]

theorem shift_ne_nil {width : Nat} {line : List Char} (h : line ≠ []) : shift width line ≠ [] := by
  simp [shift, h]

theorem getLast?_shift (width : Nat) (line : List Char) : (shift width line).getLast? = line.getLast? := by
  rw [shift]
  split
  · rfl
  next hline =>
    rw [List.getLast?_append_of_ne_nil _ (by simpa using hline)]

theorem Unbroken.shift {ends : Char → Bool} (hspace : ends ' ' = false) {line : List Char} (h : Unbroken ends line)
    (width : Nat) : Unbroken ends (shift width line) := by
  rw [Text.shift]
  split
  · exact h
  · exact unbroken_append.2 ⟨unbroken_spaces hspace width, h⟩

theorem Unbroken.getLast?_ne_feed {ends : Char → Bool} (hfeed : ends '\n' = true) {line : List Char}
    (h : Unbroken ends line) : line.getLast? ≠ some '\n' := by
  intro hlast
  have hheld := h '\n' (List.mem_of_getLast? hlast)
  rw [hfeed] at hheld
  cases hheld

theorem shift_shift {m n : Nat} (line : List Char) : shift m (shift n line) = shift (m + n) line := by
  cases line with
  | nil => rfl
  | cons c rest => simp [shift, List.replicate_append_replicate, ← List.append_assoc]

theorem dropTrailing_append {c : Char} {s : List Char} (hs : s.getLast? ≠ some c) (r : List Char) :
    dropTrailing c (s ++ r) = s ++ dropTrailing c r := by
  have hkept : s.reverse.dropWhile (· == c) = s.reverse := by
    cases hrev : s.reverse with
    | nil => rfl
    | cons d front =>
        have hd : s.getLast? = some d := by
          rw [← List.head?_reverse, hrev, List.head?_cons]
        rw [List.dropWhile_cons_of_neg]
        rintro heq
        exact hs (hd.trans (congrArg some (by simpa using heq)))
  rw [dropTrailing, dropTrailing, List.reverse_append, List.dropWhile_append]
  split
  next hall => simp [hkept, List.isEmpty_iff.1 hall]
  · simp

/-- Nothing is taken off a text as long as its last line has something in it. -/
theorem exists_dropTrailing_feed {s : List Char} (hs : s.getLast? ≠ some '\n') (r : List Char) :
    ∃ after, dropTrailing '\n' (s ++ '\n' :: r) ++ ['\n'] = s ++ '\n' :: after ∧ (r = [] → after = []) := by
  rw [dropTrailing_append hs, dropTrailing, List.reverse_cons, List.dropWhile_append]
  split
  · exact ⟨[], by simp, fun _ => rfl⟩
  next hfeeds =>
    refine ⟨dropTrailing '\n' r ++ ['\n'], by simp [dropTrailing], ?_⟩
    rintro rfl
    exact absurd rfl hfeeds

def Holds (text : List Char) (ls : List (List Char)) : Prop :=
  ∃ before after, Complete before ∧ text = before ++ unlines ls ++ after

theorem Holds.exists_linesBy {ends : Char → Bool} (hfeed : ends '\n' = true) (hreturn : ends '\r' = true)
    {text : List Char} {ls : List (List Char)} (h : Holds text ls) (hls : ∀ l ∈ ls, Unbroken ends l) :
    ∃ before after, linesBy ends text = before ++ ls ++ after := by
  obtain ⟨before, after, hbefore, rfl⟩ := h
  refine ⟨linesBy ends before, linesBy ends after, ?_⟩
  rw [linesBy_append hfeed (hbefore.append (complete_unlines ls)), linesBy_append hfeed hbefore,
    linesBy_unlines_of_unbroken hfeed hreturn hls]

structure Solid (ls : List (List Char)) : Prop where
  first : ∃ l more, ls = l :: more ∧ l ≠ []
  last : ∃ front l, ls = front ++ [l] ∧ l ≠ []

theorem Solid.shift {ls : List (List Char)} (h : Solid ls) (width : Nat) : Solid (ls.map (shift width)) := by
  obtain ⟨l, more, hfirst, hl⟩ := h.first
  obtain ⟨front, l', hlast, hl'⟩ := h.last
  exact ⟨⟨Text.shift width l, more.map (Text.shift width), by simp [hfirst], shift_ne_nil hl⟩,
    ⟨front.map (Text.shift width), Text.shift width l', by simp [hlast], shift_ne_nil hl'⟩⟩

end TopicBindings.Text
