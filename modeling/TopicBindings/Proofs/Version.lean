import Mathlib.Data.List.DropRight
import Mathlib.Data.List.GetD
import Mathlib.Data.List.Perm.Basic
import Mathlib.Order.PiLex
import TopicBindings.Version

/-!
Versions as endless lists of segments. Versions compare as these lists do in lexicographic order, which makes the
order of versions a linear one up to zeros at the end. Two versions are the same in it exactly if they have the same
segments up to those zeros, which is what they are hashed by; `order_lawful` has all of its laws.
-/

namespace TopicBindings.Version

/-- Segments that go on with zeros for ever. -/
def extended (segments : List Nat) : Lex (Nat → Nat) :=
  toLex fun i => segments.getD i 0

/-- What a version counts as, whatever zeros stand at its end. -/
def value (v : Version) : Lex (Nat → Nat) :=
  extended v.segments

section Segments

variable {as bs : List Nat}

theorem extended_zero (as : List Nat) : extended as 0 = as.headD 0 := by
  cases as <;> rfl

theorem extended_succ (as : List Nat) (i : Nat) : extended as (i + 1) = extended as.tail i := by
  cases as <;> rfl

theorem extended_congr (hhead : as.headD 0 = bs.headD 0) (htail : extended as.tail = extended bs.tail) :
    extended as = extended bs := by
  funext i
  cases i with
  | zero => rw [extended_zero, extended_zero, hhead]
  | succ i => rw [extended_succ, extended_succ, htail]

theorem extended_lt_of_head (h : as.headD 0 < bs.headD 0) : extended as < extended bs :=
  ⟨0, fun j hj => absurd hj j.not_lt_zero, by rwa [extended_zero, extended_zero]⟩

theorem extended_lt_of_tail (hhead : as.headD 0 = bs.headD 0) (htail : extended as.tail < extended bs.tail) :
    extended as < extended bs := by
  obtain ⟨i, hsame, hlt⟩ := htail
  refine ⟨i + 1, fun j hj => ?_, by rwa [extended_succ, extended_succ]⟩
  cases j with
  | zero => rw [extended_zero, extended_zero, hhead]
  | succ j =>
      rw [extended_succ, extended_succ]
      exact hsame j (Nat.lt_of_succ_lt_succ hj)

theorem compare_extended (as bs : List Nat) : Ord.compare (extended as) (extended bs) =
    (Ord.compare (as.headD 0) (bs.headD 0)).then (Ord.compare (extended as.tail) (extended bs.tail)) := by
  rcases lt_trichotomy (as.headD 0) (bs.headD 0) with hlt | heq | hgt
  · rw [compare_lt_iff_lt.2 hlt, compare_lt_iff_lt.2 (extended_lt_of_head hlt), Ordering.lt_then]
  · rw [compare_eq_iff_eq.2 heq, Ordering.eq_then]
    rcases lt_trichotomy (extended as.tail) (extended bs.tail) with hlt | htail | hgt
    · rw [compare_lt_iff_lt.2 hlt, compare_lt_iff_lt.2 (extended_lt_of_tail heq hlt)]
    · rw [compare_eq_iff_eq.2 htail, compare_eq_iff_eq.2 (extended_congr heq htail)]
    · rw [compare_gt_iff_gt.2 hgt, compare_gt_iff_gt.2 (extended_lt_of_tail heq.symm hgt)]
  · rw [compare_gt_iff_gt.2 hgt, compare_gt_iff_gt.2 (extended_lt_of_head hgt), Ordering.gt_then]

theorem compareSegments_eq (as bs : List Nat) :
    compareSegments as bs = Ord.compare (extended as) (extended bs) := by
  fun_induction compareSegments as bs with
  | case1 => exact (compare_eq_iff_eq.2 rfl).symm
  | case2 b bs ih => rw [ih, compare_extended [] (b :: bs)]; rfl
  | case3 a as ih => rw [ih, compare_extended (a :: as) []]; rfl
  | case4 a as b bs ih => rw [ih, compare_extended (a :: as) (b :: bs)]; rfl

end Segments

theorem compare_eq (v w : Version) : v.compare w = Ord.compare v.value w.value :=
  compareSegments_eq v.segments w.segments

section Comparison

variable {u v w : Version}

theorem compare_lt_iff : v.compare w = .lt ↔ v.value < w.value := by
  rw [compare_eq]
  exact compare_lt_iff_lt

theorem compare_eq_iff : v.compare w = .eq ↔ v.value = w.value := by
  rw [compare_eq, compare_eq_iff_eq]

theorem isLE_compare_iff : (v.compare w).isLE = true ↔ v.value ≤ w.value := by
  rw [← Ordering.ne_gt_iff_isLE, ← ne_eq, compare_eq, compare_le_iff_le]

theorem compare_swap (v w : Version) : w.compare v = (v.compare w).swap := by
  rw [compare_eq, compare_eq]
  exact Std.OrientedOrd.eq_swap

theorem equal_iff : v.equal w = true ↔ v.value = w.value := by
  rw [equal, beq_iff_eq, compare_eq_iff]

theorem less_iff : v.less w = true ↔ v.value < w.value := by
  rw [less, beq_iff_eq, compare_lt_iff]

theorem lessOrEqual_iff : v.lessOrEqual w = true ↔ v.value ≤ w.value := by
  rw [lessOrEqual, Bool.or_eq_true, less_iff, equal_iff]
  exact le_iff_lt_or_eq.symm

theorem greater_iff : v.greater w = true ↔ w.value < v.value := by
  have hless : v.less w = false ↔ ¬ v.value < w.value := by rw [← less_iff, Bool.not_eq_true]
  have hequal : v.equal w = false ↔ ¬ v.value = w.value := by rw [← equal_iff, Bool.not_eq_true]
  simp only [greater, Bool.and_eq_true, Bool.not_eq_true', hless, hequal]
  exact ⟨fun ⟨hle, hne⟩ => lt_of_le_of_ne (not_lt.1 hle) (Ne.symm hne), fun h => ⟨h.not_gt, h.ne'⟩⟩

theorem greaterOrEqual_iff : v.greaterOrEqual w = true ↔ w.value ≤ v.value := by
  rw [greaterOrEqual, Bool.not_eq_true', ← Bool.not_eq_true, less_iff]
  exact not_lt

end Comparison

section Zeros

variable {as bs : List Nat}

def padded (v : Version) (n : Nat) : Version :=
  ⟨v.segments ++ List.replicate n 0, by simp [v.segments_ne_nil]⟩

theorem extended_append_zeros (as : List Nat) (n : Nat) : extended (as ++ List.replicate n 0) = extended as := by
  funext i
  show (as ++ List.replicate n 0).getD i 0 = as.getD i 0
  by_cases hi : i < as.length
  · exact List.getD_append as _ 0 i hi
  · have hpast : as.length ≤ i := not_lt.1 hi
    rw [List.getD_append_right as _ 0 i hpast, List.getD_eq_default as 0 hpast]
    exact List.getElem?_getD_replicate_default_eq _ _ _

theorem value_padded (v : Version) (n : Nat) : (v.padded n).value = v.value :=
  extended_append_zeros v.segments n

/-- Segments none of which can be left out: the last one is not zero, unless it is the only one. -/
def Stripped (segments : List Nat) : Prop :=
  segments ≠ [] ∧ (segments.length = 1 ∨ segments.getLast? ≠ some 0)

theorem canonical_cons (a : Nat) (as : List Nat) (h : a :: as ≠ []) :
    canonical ⟨a :: as, h⟩ = a :: as.rdropWhile (· == 0) :=
  rfl

theorem segments_eq (v : Version) : ∃ n, v.segments = v.canonical ++ List.replicate n 0 := by
  obtain ⟨segments, hne⟩ := v
  cases segments with
  | nil => exact absurd rfl hne
  | cons a as =>
      have hzeros : ∀ x ∈ as.rtakeWhile (· == 0), x = 0 := fun x hx => by
        simpa using List.mem_rtakeWhile_imp hx
      refine ⟨(as.rtakeWhile (· == 0)).length, ?_⟩
      rw [canonical_cons, ← List.eq_replicate_of_mem hzeros, List.cons_append, List.rdropWhile_append_rtakeWhile]

theorem stripped_canonical (v : Version) : Stripped v.canonical := by
  obtain ⟨segments, hne⟩ := v
  cases segments with
  | nil => exact absurd rfl hne
  | cons a as =>
      rw [canonical_cons]
      refine ⟨List.cons_ne_nil _ _, ?_⟩
      by_cases hrest : as.rdropWhile (· == 0) = []
      · exact .inl (by rw [hrest]; rfl)
      · have hlast := List.rdropWhile_last_not (· == 0) as hrest
        refine .inr ?_
        rw [List.getLast?_eq_some_getLast (List.cons_ne_nil _ _), List.getLast_cons hrest]
        simpa using hlast

/-- A stripped list is no longer than one that it goes on like for ever: its last segment would be a zero. -/
theorem Stripped.length_le (hb : Stripped bs) (ha : as ≠ []) (h : extended as = extended bs) :
    bs.length ≤ as.length := by
  have hpos : 0 < as.length := List.length_pos_of_ne_nil ha
  rcases hb.2 with hone | hlast
  · omega
  · by_contra hlonger
    have hsame : as.getD (bs.length - 1) 0 = bs.getD (bs.length - 1) 0 := congrFun h (bs.length - 1)
    have hpast : as.length ≤ bs.length - 1 := by omega
    have hin : bs.length - 1 < bs.length := by omega
    rw [List.getD_eq_default as 0 hpast, List.getD_eq_getElem bs 0 hin] at hsame
    rw [List.getLast?_eq_getElem?, List.getElem?_eq_getElem hin, ← hsame] at hlast
    exact hlast rfl

theorem Stripped.eq_of_extended (ha : Stripped as) (hb : Stripped bs) (h : extended as = extended bs) : as = bs := by
  have hlength : as.length = bs.length := (ha.length_le hb.1 h.symm).antisymm (hb.length_le ha.1 h)
  refine List.ext_getElem hlength fun i hi hi' => ?_
  have hsame : as.getD i 0 = bs.getD i 0 := congrFun h i
  rwa [List.getD_eq_getElem _ _ hi, List.getD_eq_getElem _ _ hi'] at hsame

theorem value_canonical (v : Version) : extended v.canonical = v.value := by
  obtain ⟨n, hn⟩ := v.segments_eq
  rw [value, hn, extended_append_zeros]

theorem canonical_eq_iff {v w : Version} : v.canonical = w.canonical ↔ v.value = w.value := by
  rw [← value_canonical, ← value_canonical]
  exact ⟨congrArg extended, v.stripped_canonical.eq_of_extended w.stripped_canonical⟩

end Zeros

section Sorting

variable {vs ws : List Version}

theorem sort_perm (vs : List Version) : (sort vs).Perm vs :=
  List.mergeSort_perm vs _

theorem isLE_trans (u v w : Version) (huv : (u.compare v).isLE = true) (hvw : (v.compare w).isLE = true) :
    (u.compare w).isLE = true :=
  isLE_compare_iff.2 ((isLE_compare_iff.1 huv).trans (isLE_compare_iff.1 hvw))

theorem isLE_total (v w : Version) : ((v.compare w).isLE || (w.compare v).isLE) = true := by
  rw [Bool.or_eq_true, isLE_compare_iff, isLE_compare_iff]
  exact le_total _ _

theorem pairwise_sort (vs : List Version) : (sort vs).Pairwise fun v w => (v.compare w).isLE = true :=
  List.pairwise_mergeSort isLE_trans isLE_total vs

theorem filter_sort (v : Version) (vs : List Version) : (sort vs).filter v.equal = vs.filter v.equal := by
  have hequal : (vs.filter v.equal).Pairwise fun x y => (x.compare y).isLE = true := by
    refine List.pairwise_of_forall_mem_list fun x hx y hy => isLE_compare_iff.2 (le_of_eq ?_)
    rw [← equal_iff.1 (List.mem_filter.1 hx).2, ← equal_iff.1 (List.mem_filter.1 hy).2]
  have hsublist : (vs.filter v.equal).Sublist ((sort vs).filter v.equal) := by
    have h : ((vs.filter v.equal).filter v.equal).Sublist ((sort vs).filter v.equal) :=
      (List.sublist_mergeSort isLE_trans isLE_total hequal List.filter_sublist).filter v.equal
    rwa [List.filter_filter, show (fun x => v.equal x && v.equal x) = v.equal from funext fun x => Bool.and_self _] at h
  exact (hsublist.eq_of_length ((sort_perm vs).filter v.equal).length_eq.symm).symm

theorem forall₂_sort (h : vs.Perm ws) : List.Forall₂ (fun v w => v.compare w = .eq) (sort vs) (sort ws) := by
  have hsorted : ∀ us : List Version, ((sort us).map value).Pairwise (· ≤ ·) := fun us =>
    List.pairwise_map.2 ((pairwise_sort us).imp isLE_compare_iff.1)
  have hperm : ((sort vs).map value).Perm ((sort ws).map value) :=
    ((sort_perm vs).trans (h.trans (sort_perm ws).symm)).map value
  have hvalues : (sort vs).map value = (sort ws).map value :=
    hperm.eq_of_pairwise (fun _ _ _ _ => le_antisymm) (hsorted vs) (hsorted ws)
  rw [← List.forall₂_eq_eq_eq, List.forall₂_map_left_iff, List.forall₂_map_right_iff] at hvalues
  exact hvalues.imp fun _ _ => compare_eq_iff.2

end Sorting

/-- A segment of a version, zero past the last one. -/
def segment (v : Version) (i : Nat) : Nat :=
  v.segments.getD i 0

theorem compare_lt_iff_segment {v w : Version} :
    v.compare w = .lt ↔ ∃ i, (∀ j < i, v.segment j = w.segment j) ∧ v.segment i < w.segment i :=
  compare_lt_iff

theorem compare_eq_iff_segment {v w : Version} : v.compare w = .eq ↔ ∀ i, v.segment i = w.segment i :=
  compare_eq_iff.trans funext_iff

theorem ofSegments_segments (v : Version) : ofSegments (v.segments.map Int.ofNat) = .ok v := by
  have hne : v.segments.map Int.ofNat ≠ [] := by simpa using v.segments_ne_nil
  have hnone : (v.segments.map Int.ofNat).find? (· < 0) = none := by simp
  have hback : (v.segments.map Int.ofNat).map Int.toNat = v.segments := by
    rw [List.map_map, show Int.toNat ∘ Int.ofNat = id from rfl, List.map_id]
  rw [ofSegments, dif_neg hne]
  simp only [hnone, hback]

/-- The laws of comparing, hashing and sorting versions. -/
structure OrderLaws : Prop where
  constructed : ∀ v : Version, ofSegments (v.segments.map Int.ofNat) = .ok v
  swap : ∀ v w : Version, w.compare v = (v.compare w).swap
  trans : ∀ u v w : Version, (u.compare v).isLE = true → (v.compare w).isLE = true → (u.compare w).isLE = true
  total : ∀ v w : Version, (v.compare w).isLE = true ∨ (w.compare v).isLE = true
  padded : ∀ (v w : Version) (m n : Nat), (v.padded m).compare (w.padded n) = v.compare w
  exactly_one : ∀ v w : Version, [v.less w, v.equal w, v.greater w].count true = 1
  greater : ∀ v w : Version, v.greater w = w.less v
  lessOrEqual : ∀ v w : Version, v.lessOrEqual w = !v.greater w
  greaterOrEqual : ∀ v w : Version, v.greaterOrEqual w = (v.greater w || v.equal w)
  stripped : ∀ v : Version, Stripped v.canonical ∧ ∃ n, v.segments = v.canonical ++ List.replicate n 0
  hashed : ∀ v w : Version, v.compare w = .eq ↔ v.canonical = w.canonical
  lexicographic : ∀ v w : Version, v.compare w = .lt ↔
    ∃ i, (∀ j < i, v.segment j = w.segment j) ∧ v.segment i < w.segment i
  everywhere : ∀ v w : Version, v.compare w = .eq ↔ ∀ i, v.segment i = w.segment i
  permuted : ∀ vs : List Version, (sort vs).Perm vs
  ordered : ∀ vs : List Version, (sort vs).Pairwise fun v w => (v.compare w).isLE = true
  stable : ∀ (v : Version) (vs : List Version), (sort vs).filter v.equal = vs.filter v.equal
  determined : ∀ vs ws : List Version, vs.Perm ws →
    List.Forall₂ (fun v w => v.compare w = .eq) (sort vs) (sort ws)

theorem order_lawful : OrderLaws where
  constructed := ofSegments_segments
  swap := compare_swap
  trans := isLE_trans
  total v w := by
    rw [isLE_compare_iff, isLE_compare_iff]
    exact le_total _ _
  padded v w m n := by rw [compare_eq, compare_eq, value_padded, value_padded]
  exactly_one v w := by
    rw [Version.greater]
    rcases hless : v.less w with _ | _
    · cases v.equal w <;> rfl
    · have hequal : v.equal w = false := by
        rw [← Bool.not_eq_true, equal_iff]
        exact (less_iff.1 hless).ne
      rw [hequal]
      rfl
  greater v w := by rw [Bool.eq_iff_iff, greater_iff, less_iff]
  lessOrEqual v w := by
    rw [Bool.eq_iff_iff, Bool.not_eq_true', ← Bool.not_eq_true, lessOrEqual_iff, greater_iff]
    exact not_lt.symm
  greaterOrEqual v w := by
    rw [Bool.eq_iff_iff, greaterOrEqual_iff, Bool.or_eq_true, greater_iff, equal_iff, eq_comm]
    exact le_iff_lt_or_eq
  stripped v := ⟨v.stripped_canonical, v.segments_eq⟩
  hashed _ _ := compare_eq_iff.trans canonical_eq_iff.symm
  lexicographic _ _ := compare_lt_iff_segment
  everywhere _ _ := compare_eq_iff_segment
  permuted := sort_perm
  ordered := pairwise_sort
  stable := filter_sort
  determined _ _ := forall₂_sort

section Sample

def sampleOne : Version :=
  ⟨[1, 0], by decide⟩

def sampleLonger : Version :=
  ⟨[1, 0, 0, 0], by decide⟩

def sampleTen : Version :=
  ⟨[0, 10], by decide⟩

/-- Two versions that differ in their zeros only change places in a list, and a smaller one stands behind them. -/
theorem order_lawful_sample :
    [sampleOne, sampleLonger, sampleTen].Perm [sampleLonger, sampleOne, sampleTen] ∧
    List.Forall₂ (fun v w => v.compare w = .eq) (sort [sampleOne, sampleLonger, sampleTen])
      (sort [sampleLonger, sampleOne, sampleTen]) ∧
    sampleOne.compare sampleLonger = .eq ∧ sampleOne.canonical = sampleLonger.canonical ∧
    (sampleTen.compare sampleOne).isLE = true ∧ (sampleTen.compare sampleLonger).isLE = true := by
  have hperm : [sampleOne, sampleLonger, sampleTen].Perm [sampleLonger, sampleOne, sampleTen] := .swap _ _ _
  have hequal : sampleOne.compare sampleLonger = .eq := (order_lawful.hashed _ _).2 rfl
  have hless : sampleTen.compare sampleOne = .lt :=
    (order_lawful.lexicographic _ _).2 ⟨0, fun _ hj => absurd hj (Nat.not_lt_zero _), by decide⟩
  have hle : (sampleTen.compare sampleOne).isLE = true := by rw [hless]; rfl
  exact ⟨hperm, order_lawful.determined _ _ hperm, hequal, rfl, hle,
    order_lawful.trans _ _ _ hle (by rw [hequal]; rfl)⟩

end Sample

end TopicBindings.Version
