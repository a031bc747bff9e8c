import TopicBindings.Proofs.Text.Lines
import TopicBindings.Text.Quoted

/-!
Literals in double quotes, read back from a line of source text. A line is read as literals and single signs, and a
literal comes back as the text that it was written for, whatever stands around it; a literal that the line does not
close is refused.
-/

namespace TopicBindings.Text

namespace Quoted

def IsPlain (c : Char) : Prop :=
  c ≠ '"' ∧ c ≠ '\\'

def IsVisible (c : Char) : Prop :=
  0x20 ≤ c.toNat ∧ c.toNat < 0x7F

instance : DecidablePred IsPlain := fun c => inferInstanceAs (Decidable (c ≠ '"' ∧ c ≠ '\\'))

instance : DecidablePred IsVisible := fun c => inferInstanceAs (Decidable (0x20 ≤ c.toNat ∧ c.toNat < 0x7F))

theorem isLineEnd_of_visible {c : Char} (h : IsVisible c) : isLineEnd c = false := by
  obtain ⟨hlow, hhigh⟩ := h
  simp only [isLineEnd, Bool.or_eq_false_iff, Bool.and_eq_false_imp, decide_eq_true_eq, decide_eq_false_iff_not,
    beq_eq_false_iff_ne]
  omega

theorem isPhysicalEnd_of_visible {c : Char} (h : IsVisible c) : isPhysicalEnd c = false := by
  rw [isPhysicalEnd, Bool.or_eq_false_iff, beq_eq_false_iff_ne, beq_eq_false_iff_ne]
  constructor <;> rintro rfl <;> exact absurd h (by decide)

/-- A way to write characters between quotes: as they are, or behind a backslash. -/
structure Escaping (esc : Char → List Char) : Prop where
  form : ∀ c, esc c = [c] ∧ IsPlain c ∨ ∃ mark tail, esc c = '\\' :: mark :: tail ∧
    (∀ d ∈ mark :: tail, IsVisible d) ∧ ∀ d ∈ tail, IsPlain d
  reads : ∀ c rest, decodeBody? (esc c ++ rest) = (decodeBody? rest).map (c :: ·)

theorem decodeBody?_plain {c : Char} (h : IsPlain c) (rest : List Char) :
    decodeBody? (c :: rest) = (decodeBody? rest).map (c :: ·) := by
  rw [decodeBody?.eq_10] <;> simp_all [IsPlain]

theorem hexValue?_hexDigit {n : Nat} (h : n < 16) : hexValue? (hexDigit n) = some n := by
  have hall : ∀ n : Fin 16, hexValue? (hexDigit n) = some n.1 := by decide
  exact hall ⟨n, h⟩

theorem hexDigit_form {n : Nat} (h : n < 16) : IsVisible (hexDigit n) ∧ IsPlain (hexDigit n) := by
  have hall : ∀ n : Fin 16, IsVisible (hexDigit n) ∧ IsPlain (hexDigit n) := by decide
  exact hall ⟨n, h⟩

theorem decodeBody?_control {c : Char} (h : c.toNat < 0x20) (rest : List Char) :
    decodeBody? ('\\' :: 'u' :: '0' :: '0' :: hexDigit (c.toNat / 16) :: hexDigit (c.toNat % 16) :: rest) =
      (decodeBody? rest).map (c :: ·) := by
  have hhigh := hexValue?_hexDigit (n := c.toNat / 16) (by omega)
  have hlow := hexValue?_hexDigit (n := c.toNat % 16) (by omega)
  have hzero : hexValue? '0' = some 0 := rfl
  have hcode : (c.toNat / 16) * 16 + c.toNat % 16 = c.toNat := by omega
  simp [decodeBody?, hhigh, hlow, hzero, hcode]

theorem escape_form (c : Char) : escape c = [c] ∧ IsPlain c ∨ ∃ mark tail, escape c = '\\' :: mark :: tail ∧
    (∀ d ∈ mark :: tail, IsVisible d) ∧ ∀ d ∈ tail, IsPlain d := by
  unfold escape
  split
  case h_8 _ hquote hslash _ _ _ _ _ =>
    split
    next hsmall =>
      have hhigh := hexDigit_form (n := c.toNat / 16) (by omega)
      have hlow := hexDigit_form (n := c.toNat % 16) (by omega)
      refine .inr ⟨'u', _, rfl, ?_, ?_⟩
      · simp [IsVisible, hhigh.1.1, hhigh.1.2, hlow.1.1, hlow.1.2]
      · simp [IsPlain, hhigh.2.1, hhigh.2.2, hlow.2.1, hlow.2.2]
    · exact .inl ⟨rfl, hquote, hslash⟩
  all_goals exact .inr ⟨_, [], rfl, by simp [IsVisible], by simp⟩

theorem decodeBody?_escape (c : Char) (rest : List Char) :
    decodeBody? (escape c ++ rest) = (decodeBody? rest).map (c :: ·) := by
  unfold escape
  split
  case h_8 _ hquote hslash _ _ _ _ _ =>
    split
    next hsmall => exact decodeBody?_control hsmall rest
    · exact decodeBody?_plain ⟨hquote, hslash⟩ rest
  all_goals rfl

theorem escaping_escape : Escaping escape :=
  ⟨escape_form, decodeBody?_escape⟩

section Decode

variable {esc : Char → List Char}

theorem Escaping.decode (h : Escaping esc) (s : List Char) : decode? ('"' :: (s.flatMap esc ++ ['"'])) = some s := by
  rw [decode?]
  induction s with
  | nil => rfl
  | cons c rest ih => rw [List.flatMap_cons, List.append_assoc, h.reads, ih, Option.map_some]

end Decode

end Quoted

/-- A part of a line: the text of a literal, or a single sign. -/
inductive Token where
  | text (value : List Char)
  | sign (c : Char)
  deriving DecidableEq, Repr

/-- The tokens of a line, behind the opening quote and some characters of a literal or outside of any. -/
def scan? : Option (List Char) → List Char → Option (List Token)
  | none, [] => some []
  | some _, [] => none
  | none, c :: rest =>
      if c = '"' then scan? (some []) rest else (scan? none rest).map (.sign c :: ·)
  | some inner, '\\' :: c :: rest => scan? (some (inner ++ ['\\', c])) rest
  | some inner, c :: rest =>
      if c = '"' then do
        let value ← Quoted.decode? ('"' :: (inner ++ ['"']))
        (scan? none rest).map (.text value :: ·)
      else scan? (some (inner ++ [c])) rest

section Scan

open Quoted

variable {esc : Char → List Char}

theorem scan?_signs {signs : List Char} (h : '"' ∉ signs) (rest : List Char) :
    scan? none (signs ++ rest) = (scan? none rest).map (signs.map .sign ++ ·) := by
  induction signs with
  | nil => simp
  | cons c more ih =>
      rw [List.mem_cons, not_or] at h
      rw [List.cons_append, scan?, if_neg (Ne.symm h.1), ih h.2, Option.map_map]
      rfl

theorem scan?_plain {plain : List Char} (h : ∀ d ∈ plain, IsPlain d) (inner rest : List Char) :
    scan? (some inner) (plain ++ rest) = scan? (some (inner ++ plain)) rest := by
  induction plain generalizing inner with
  | nil => simp
  | cons d more ih =>
      obtain ⟨hquote, hslash⟩ := h d (.head _)
      rw [List.cons_append, scan?.eq_5 _ _ _ (fun _ _ hd => absurd hd hslash), if_neg hquote,
        ih fun e he => h e (.tail _ he), List.append_assoc, List.singleton_append]

theorem scan?_escaped (h : Escaping esc) (s inner rest : List Char) :
    scan? (some inner) (s.flatMap esc ++ rest) = scan? (some (inner ++ s.flatMap esc)) rest := by
  induction s generalizing inner with
  | nil => simp
  | cons c more ih =>
      have hstep : ∀ r, scan? (some inner) (esc c ++ r) = scan? (some (inner ++ esc c)) r := by
        intro r
        rcases h.form c with ⟨hesc, hplain⟩ | ⟨mark, tail, hesc, -, hplain⟩
        · rw [hesc]
          exact scan?_plain (by simpa using hplain) inner r
        · rw [hesc, List.cons_append, List.cons_append, scan?, scan?_plain hplain, List.append_assoc]
          rfl
      rw [List.flatMap_cons, List.append_assoc, hstep, ih, List.append_assoc]

theorem scan?_literal (h : Escaping esc) (s rest : List Char) :
    scan? none ('"' :: (s.flatMap esc ++ '"' :: rest)) = (scan? none rest).map (.text s :: ·) := by
  rw [scan?, if_pos rfl, scan?_escaped h, List.nil_append,
    scan?.eq_5 _ _ _ (fun _ _ hd => absurd hd (by decide)), if_pos rfl, h.decode]
  rfl

theorem scan?_open (h : Escaping esc) (s : List Char) : scan? none ('"' :: s.flatMap esc) = none := by
  have hopen := scan?_escaped h s [] []
  rw [List.append_nil] at hopen
  rw [scan?, if_pos rfl, hopen, scan?]

def tokens? (line : List Char) : Option (List Token) :=
  scan? none (line.dropWhile (· == ' '))

theorem dropWhile_spaces (n : Nat) (line : List Char) :
    (List.replicate n ' ' ++ line).dropWhile (· == ' ') = line.dropWhile (· == ' ') := by
  induction n with
  | zero => rfl
  | succ n ih => rw [List.replicate_succ, List.cons_append, List.dropWhile_cons_of_pos rfl, ih]

theorem tokens?_spaces (n : Nat) (line : List Char) : tokens? (List.replicate n ' ' ++ line) = tokens? line := by
  rw [tokens?, dropWhile_spaces, tokens?]

theorem tokens?_shift (n : Nat) (line : List Char) : tokens? (shift n line) = tokens? line := by
  rw [shift]
  split
  · rfl
  · exact tokens?_spaces n line

theorem tokens?_eq_none {line : List Char} (h : scan? none line = none) : tokens? line = none := by
  have hspaces : ∀ c ∈ line.takeWhile (· == ' '), c = ' ' := fun c hc => by
    simpa using List.all_eq_true.1 List.all_takeWhile c hc
  have hscan := scan?_signs
    (show '"' ∉ line.takeWhile (· == ' ') from fun hquote => absurd (hspaces _ hquote) (by decide)) (line.dropWhile (· == ' '))
  rw [List.takeWhile_append_dropWhile, h] at hscan
  exact Option.map_eq_none_iff.1 hscan.symm

/-- A line ends in a text within a literal, and for the first time. -/
def BreaksOpen (ends : Char → Bool) (l : List Char) : Prop :=
  ∃ u c v, l = u ++ c :: v ∧ Unbroken ends u ∧ ends c = true ∧ scan? none u = none

variable {ends : Char → Bool}

theorem BreaksOpen.exists_line (hfeed : ends '\n' = true) (hreturn : ends '\r' = true) {l : List Char}
    (h : BreaksOpen ends l) : ∃ u more, linesBy ends (l ++ ['\n']) = u :: more ∧ scan? none u = none := by
  obtain ⟨u, c, v, rfl, hu, hc, hopen⟩ := h
  obtain ⟨more, hmore⟩ := linesBy_broken hfeed hreturn hu hc (v ++ ['\n'])
  exact ⟨u, more, by simpa using hmore, hopen⟩

theorem BreaksOpen.behind_signs {signs l : List Char} (hquote : '"' ∉ signs) (hsigns : Unbroken ends signs)
    (h : BreaksOpen ends l) : BreaksOpen ends (signs ++ l) := by
  obtain ⟨u, c, v, rfl, hu, hc, hopen⟩ := h
  exact ⟨signs ++ u, c, v, by simp, unbroken_append.2 ⟨hsigns, hu⟩, hc, by
    rw [scan?_signs hquote, hopen, Option.map_none]⟩

theorem BreaksOpen.behind_literal (h : Escaping esc) (hquote : ends '"' = false) {s l : List Char}
    (hs : Unbroken ends (s.flatMap esc)) (hl : BreaksOpen ends l) :
    BreaksOpen ends ('"' :: (s.flatMap esc ++ '"' :: l)) := by
  obtain ⟨u, c, v, rfl, hu, hc, hopen⟩ := hl
  refine ⟨'"' :: (s.flatMap esc ++ '"' :: u), c, v, by simp, by simp [hquote, hs, hu], hc, ?_⟩
  rw [scan?_literal h, hopen, Option.map_none]

/-- Only a character that is written as itself can end a line within a literal. -/
theorem Quoted.Escaping.raw_of_broken (h : Escaping esc) (hvisible : ∀ d, IsVisible d → ends d = false) {c : Char}
    (hc : ¬Unbroken ends (esc c)) : esc c = [c] ∧ ends c = true := by
  rcases h.form c with ⟨hesc, -⟩ | ⟨mark, tail, hesc, hseen, -⟩
  · refine ⟨hesc, ?_⟩
    rw [hesc] at hc
    simpa [Unbroken] using hc
  · rw [hesc, unbroken_cons] at hc
    exact absurd ⟨hvisible _ (by decide), fun d hd => hvisible d (hseen d hd)⟩ hc

theorem Quoted.Escaping.breaksOpen (h : Escaping esc) (hvisible : ∀ d, IsVisible d → ends d = false) {s : List Char}
    (hs : ¬Unbroken ends (s.flatMap esc)) (rest : List Char) :
    BreaksOpen ends ('"' :: (s.flatMap esc ++ rest)) := by
  have hbroken : ¬Unbroken (fun c => (esc c).any ends) s := fun hall => hs fun d hd => by
    obtain ⟨c, hc, hd⟩ := List.mem_flatMap.1 hd
    simpa using List.any_eq_false.1 (hall c hc) d hd
  obtain ⟨front, c, back, rfl, hfront, hc⟩ := exists_first_end hbroken
  obtain ⟨hraw, hend⟩ := h.raw_of_broken hvisible (c := c) fun hunbroken => by
    obtain ⟨d, hd, hends⟩ := List.any_eq_true.1 hc
    rw [hunbroken d hd] at hends
    cases hends
  refine ⟨'"' :: front.flatMap esc, c, back.flatMap esc ++ rest, by simp [hraw], unbroken_cons.2
    ⟨hvisible _ (by decide), fun d hd => ?_⟩, hend, scan?_open h front⟩
  obtain ⟨e, he, hd⟩ := List.mem_flatMap.1 hd
  simpa using List.any_eq_false.1 (hfront e he) d hd

end Scan

end TopicBindings.Text
