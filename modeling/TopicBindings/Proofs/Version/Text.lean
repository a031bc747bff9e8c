import TopicBindings.Proofs.Character.Capital
import TopicBindings.Proofs.Text.Fields
import TopicBindings.Proofs.Version

/-!
Versions as texts. A text is a version if it consists of runs of digits with single dots between them, and the version
is written with the digits that count. Reading a written version gives it back, so that writing what was read only
removes zeros in front of the segments.
-/

namespace TopicBindings.Version

section Numerals

variable {a b digits : List Char}

/-- The digits of a numeral from the first one on that is not zero. -/
def significant (digits : List Char) : List Char :=
  digits.dropWhile (· == '0')

def plain (digits : List Char) : List Char :=
  if significant digits = [] then ['0'] else significant digits

theorem numberOf_eq (digits : List Char) : numberOf digits = Nat.ofDigitChars 10 digits 0 := by
  simp [numberOf, Nat.ofDigitChars, Nat.mul_comm]

theorem digitChar_of_isDigit {c : Char} (hc : c.isDigit = true) : Nat.digitChar (c.toNat - 48) = c :=
  Character.forall_digit (P := fun c => Nat.digitChar (c.toNat - 48) = c) (by decide) hc

theorem toNat_sub_pos {c : Char} (hc : c.isDigit = true) (hzero : c ≠ '0') : 0 < c.toNat - 48 :=
  Character.forall_digit (P := fun c => c ≠ '0' → 0 < c.toNat - 48) (by decide) hc hzero

theorem toNat_sub_lt_ten {c : Char} (hc : c.isDigit = true) : c.toNat - 48 < 10 :=
  Character.forall_digit (P := fun c => c.toNat - 48 < 10) (by decide) hc

/-- Digits behind a number that is not zero are those of the number read so far and then themselves. -/
theorem toDigits_ofDigitChars (h : ∀ c ∈ digits, c.isDigit = true) {n : Nat} (hn : 0 < n) :
    Nat.toDigits 10 (Nat.ofDigitChars 10 digits n) = Nat.toDigits 10 n ++ digits := by
  induction digits generalizing n with
  | nil => simp
  | cons c rest ih =>
      obtain ⟨hc, hrest⟩ := List.forall_mem_cons.1 h
      have hnext : Nat.toDigits 10 (10 * n + (c.toNat - 48)) = Nat.toDigits 10 n ++ [c] := by
        rw [← Nat.toDigits_append_toDigits (by decide) hn (toNat_sub_lt_ten hc),
          Nat.toDigits_of_lt_base (toNat_sub_lt_ten hc), digitChar_of_isDigit hc]
      rw [Nat.ofDigitChars_cons, ih hrest (by omega)]
      exact (congrArg (· ++ rest) hnext).trans (List.append_assoc _ _ _)

theorem toDigits_numberOf (h : ∀ c ∈ digits, c.isDigit = true) :
    Nat.toDigits 10 (numberOf digits) = plain digits := by
  rw [numberOf_eq]
  induction digits with
  | nil => rfl
  | cons c rest ih =>
      obtain ⟨hc, hrest⟩ := List.forall_mem_cons.1 h
      rw [Nat.ofDigitChars_cons, Nat.mul_zero, Nat.zero_add]
      by_cases hzero : c = '0'
      · subst hzero
        exact ih hrest
      · have hsignificant : significant (c :: rest) = c :: rest := by simp [significant, hzero]
        have hdigits := toDigits_ofDigitChars hrest (toNat_sub_pos hc hzero)
        rw [Nat.toDigits_of_lt_base (toNat_sub_lt_ten hc), digitChar_of_isDigit hc] at hdigits
        rw [plain, hsignificant, if_neg (List.cons_ne_nil _ _)]
        exact hdigits

theorem numberOf_toDigits (n : Nat) : numberOf (Nat.toDigits 10 n) = n := by
  rw [numberOf_eq, Nat.ofDigitChars_ten_toDigits]

theorem numberOf_zeros_append (n : Nat) (digits : List Char) :
    numberOf (List.replicate n '0' ++ digits) = numberOf digits := by
  rw [numberOf_eq, Nat.ofDigitChars_append, Nat.ofDigitChars_replicate_zero, Nat.mul_zero, numberOf_eq]

theorem eq_zeros_append (digits : List Char) : ∃ n, digits = List.replicate n '0' ++ significant digits := by
  have hzeros : ∀ c ∈ digits.takeWhile (· == '0'), c = '0' := fun c hc => by simpa using List.mem_takeWhile_imp hc
  refine ⟨(digits.takeWhile (· == '0')).length, ?_⟩
  rw [← List.eq_replicate_of_mem hzeros, significant, List.takeWhile_append_dropWhile]

theorem head?_significant (digits : List Char) : (significant digits).head? ≠ some '0' := by
  intro h
  have hnot := List.head?_dropWhile_not (· == '0') digits
  rw [significant] at h
  simp [h] at hnot

/-- Two numerals with nothing but zeros in front of the same digits. -/
def SameUpToZeros (a b : List Char) : Prop :=
  ∃ digits m n, a = List.replicate m '0' ++ digits ∧ b = List.replicate n '0' ++ digits

theorem significant_eq_of_plain_eq (h : plain a = plain b) : significant a = significant b := by
  rw [plain, plain] at h
  split at h <;> split at h
  next ha hb => rw [ha, hb]
  next ha hb => exact absurd (h ▸ rfl) (head?_significant b)
  next ha hb => exact absurd (h.symm ▸ rfl) (head?_significant a)
  next => exact h

theorem numberOf_eq_iff (ha : ∀ c ∈ a, c.isDigit = true) (hb : ∀ c ∈ b, c.isDigit = true) :
    numberOf a = numberOf b ↔ SameUpToZeros a b := by
  constructor
  · intro h
    have hplain : plain a = plain b := by rw [← toDigits_numberOf ha, ← toDigits_numberOf hb, h]
    obtain ⟨m, hm⟩ := eq_zeros_append a
    obtain ⟨n, hn⟩ := eq_zeros_append b
    exact ⟨significant a, m, n, hm, significant_eq_of_plain_eq hplain ▸ hn⟩
  · rintro ⟨digits, m, n, rfl, rfl⟩
    rw [numberOf_zeros_append, numberOf_zeros_append]

end Numerals

section Texts

variable {t u : String} {v w : Version}

def DottedNumerals (t : String) : Prop :=
  ∃ runs : List String,
    runs ≠ [] ∧ (∀ r ∈ runs, r ≠ "" ∧ ∀ c ∈ r.toList, '0' ≤ c ∧ c ≤ '9') ∧ t = Text.join "." runs

theorem isNumeral_iff {s : List Char} : isNumeral s = true ↔ s ≠ [] ∧ ∀ c ∈ s, c.isDigit = true := by
  simp [isNumeral]

theorem isDigit_iff {c : Char} : c.isDigit = true ↔ '0' ≤ c ∧ c ≤ '9' := by
  rw [Char.isDigit, Bool.and_eq_true, decide_eq_true_eq, decide_eq_true_eq]
  rfl

theorem parse_eq_ok_iff : parse t = .ok v ↔
    (∀ s ∈ Text.fields '.' t.toList, isNumeral s = true) ∧
      v.segments = (Text.fields '.' t.toList).map numberOf := by
  obtain ⟨segments, hne⟩ := v
  rw [parse]
  split
  next hall =>
    rw [and_iff_right (List.all_eq_true.1 hall)]
    simp [eq_comm]
  next hall =>
    rw [List.all_eq_true] at hall
    simp [hall]

theorem parse_eq_error (h : ¬ ∃ v, parse t = .ok v) : parse t = .error (.malformed t) := by
  cases hparse : parse t with
  | ok v => exact absurd ⟨v, hparse⟩ h
  | error fault =>
      rw [parse] at hparse
      split at hparse
      · cases hparse
      · exact hparse ▸ rfl

theorem isNumeral_of_run {r : String} (h : r ≠ "" ∧ ∀ c ∈ r.toList, '0' ≤ c ∧ c ≤ '9') :
    isNumeral r.toList = true :=
  isNumeral_iff.2 ⟨by simpa using h.1, fun c hc => isDigit_iff.2 (h.2 c hc)⟩

theorem dot_not_mem_of_isNumeral {s : List Char} (h : isNumeral s = true) : '.' ∉ s :=
  fun hdot => absurd ((isNumeral_iff.1 h).2 '.' hdot) (by decide)

theorem fields_joinFields_of_isNumeral {parts : List (List Char)} (hne : parts ≠ [])
    (h : ∀ s ∈ parts, isNumeral s = true) : Text.fields '.' (Text.joinFields '.' parts) = parts :=
  Text.fields_joinFields hne fun s hs => dot_not_mem_of_isNumeral (h s hs)

theorem toList_join_dot (parts : List String) :
    (Text.join "." parts).toList = Text.joinFields '.' (parts.map String.toList) := by
  rw [Text.join, String.toList_ofList]
  rfl

theorem dottedNumerals_iff : DottedNumerals t ↔ ∀ s ∈ Text.fields '.' t.toList, isNumeral s = true := by
  constructor
  · rintro ⟨runs, hne, hruns, rfl⟩
    have hparts : ∀ s ∈ runs.map String.toList, isNumeral s = true :=
      List.forall_mem_map.2 fun r hr => isNumeral_of_run (hruns r hr)
    rw [toList_join_dot, fields_joinFields_of_isNumeral (by simpa using hne) hparts]
    exact hparts
  · intro h
    refine ⟨Text.splitAt '.' t, Text.splitAt_ne_nil '.' t, fun r hr => ?_, (Text.join_splitAt '.' t).symm⟩
    obtain ⟨s, hs, rfl⟩ := List.mem_map.1 hr
    obtain ⟨hnonempty, hdigits⟩ := isNumeral_iff.1 (h s hs)
    rw [String.toList_ofList]
    exact ⟨by simpa using hnonempty, fun c hc => isDigit_iff.1 (hdigits c hc)⟩

theorem exists_parse_iff : (∃ v, parse t = .ok v) ↔ DottedNumerals t := by
  rw [dottedNumerals_iff]
  constructor
  · rintro ⟨v, h⟩
    exact (parse_eq_ok_iff.1 h).1
  · intro h
    exact ⟨⟨(Text.fields '.' t.toList).map numberOf, by simpa using Text.fields_ne_nil '.' t.toList⟩,
      parse_eq_ok_iff.2 ⟨h, rfl⟩⟩

theorem isNumeral_toDigits (n : Nat) : isNumeral (Nat.toDigits 10 n) = true :=
  isNumeral_iff.2 ⟨Nat.toDigits_ne_nil, fun _ => Nat.isDigit_of_mem_toDigits (by decide) (by decide)⟩

theorem toList_toText (v : Version) : v.toText.toList = Text.joinFields '.' (v.segments.map (Nat.toDigits 10)) := by
  rw [toText, toList_join_dot, List.map_map]
  congr 1
  exact List.map_congr_left fun n _ => Nat.toList_repr

theorem fields_toText (v : Version) : Text.fields '.' v.toText.toList = v.segments.map (Nat.toDigits 10) := by
  rw [toList_toText]
  exact fields_joinFields_of_isNumeral (by simpa using v.segments_ne_nil)
    (List.forall_mem_map.2 fun n _ => isNumeral_toDigits n)

theorem parse_toText (v : Version) : parse v.toText = .ok v := by
  rw [parse_eq_ok_iff, fields_toText, List.map_map]
  refine ⟨List.forall_mem_map.2 fun n _ => isNumeral_toDigits n, ?_⟩
  exact (List.map_id'' numberOf_toDigits v.segments).symm

theorem isDigit_of_mem_fields (h : parse t = .ok v) {s : List Char} (hs : s ∈ Text.fields '.' t.toList) :
    ∀ c ∈ s, c.isDigit = true :=
  (isNumeral_iff.1 ((parse_eq_ok_iff.1 h).1 s hs)).2

def plainText (field : String) : String :=
  String.ofList (plain field.toList)

/-- What was read is written without the zeros that can be left out. -/
theorem toText_of_parse (h : parse t = .ok v) : v.toText = Text.join "." ((Text.splitAt '.' t).map plainText) := by
  have hsegments := (parse_eq_ok_iff.1 h).2
  rw [toText, hsegments, Text.splitAt, List.map_map, List.map_map]
  congr 1
  refine List.map_congr_left fun s hs => ?_
  rw [Function.comp, Function.comp, plainText, String.toList_ofList, ← toDigits_numberOf (isDigit_of_mem_fields h hs)]
  rfl

/-- Agree field by field up to zeros in front. -/
def AgreeUpToZeros (t u : String) : Prop :=
  List.Forall₂ (fun a b => SameUpToZeros a.toList b.toList) (Text.splitAt '.' t) (Text.splitAt '.' u)

theorem segments_eq_iff (ht : parse t = .ok v) (hu : parse u = .ok w) :
    v.segments = w.segments ↔ AgreeUpToZeros t u := by
  have hnumbers : ∀ {a b : List Char}, (a, b) ∈ (Text.fields '.' t.toList).zip (Text.fields '.' u.toList) →
      (numberOf a = numberOf b ↔ SameUpToZeros a b) := fun hmem =>
    numberOf_eq_iff (isDigit_of_mem_fields ht (List.of_mem_zip hmem).1)
      (isDigit_of_mem_fields hu (List.of_mem_zip hmem).2)
  rw [(parse_eq_ok_iff.1 ht).2, (parse_eq_ok_iff.1 hu).2, ← List.forall₂_eq_eq_eq, List.forall₂_map_left_iff,
    List.forall₂_map_right_iff, AgreeUpToZeros, Text.splitAt, Text.splitAt, List.forall₂_map_left_iff,
    List.forall₂_map_right_iff, List.forall₂_iff_zip, List.forall₂_iff_zip]
  simp only [String.toList_ofList]
  refine and_congr_right fun _ => ⟨fun h a b hmem => ?_, fun h a b hmem => ?_⟩
  · exact (hnumbers hmem).1 (h hmem)
  · exact (hnumbers hmem).2 (h hmem)

theorem segments_of_ofSegments {values : List Int} (h : ofSegments values = .ok v) :
    v.segments.map Int.ofNat = values := by
  rw [ofSegments] at h
  split at h
  · cases h
  · split at h
    · cases h
    next hnone =>
      cases h
      rw [List.map_map]
      refine (List.map_congr_left fun value hvalue => ?_).trans (List.map_id values)
      have hnonneg : 0 ≤ value := by simpa using List.find?_eq_none.1 hnone value hvalue
      exact Int.toNat_of_nonneg hnonneg

end Texts

/-- How versions are read and written. -/
structure TextLaws : Prop where
  accepted : ∀ t, (∃ v, parse t = .ok v) ↔ DottedNumerals t
  refused : ∀ t, ¬ DottedNumerals t → parse t = .error (.malformed t)
  reread : ∀ values v, ofSegments values = .ok v → v.segments.map Int.ofNat = values ∧ parse v.toText = .ok v
  written : ∀ t v, parse t = .ok v → v.toText = Text.join "." ((Text.splitAt '.' t).map plainText)
  idempotent : ∀ t v, parse t = .ok v → ∃ w, parse v.toText = .ok w ∧ w.toText = v.toText
  same : ∀ t u v w, parse t = .ok v → parse u = .ok w → (v.segments = w.segments ↔ AgreeUpToZeros t u)

section Sample

def sampleRead : Version :=
  ⟨[7, 0, 10], by decide⟩

end Sample

end TopicBindings.Version
