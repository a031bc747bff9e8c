import TopicBindings.Character.CaseMap
import TopicBindings.Character.Upper

/-!
A character in upper case is itself or has a capital in it.
-/

namespace TopicBindings.Character

namespace Run

def codes (r : Run) : List Nat :=
  (List.range ((r.last - r.first) / r.step + 1)).map fun i => r.first + i * r.step

theorem mem_codes {r : Run} {n : Nat} (h : r.mem n = true) : n ∈ r.codes := by
  simp only [mem, Bool.and_eq_true, decide_eq_true_eq, beq_iff_eq] at h
  obtain ⟨⟨hfirst, hlast⟩, hstep⟩ := h
  refine List.mem_map.2 ⟨(n - r.first) / r.step, List.mem_range.2 ?_, ?_⟩
  · exact Nat.lt_succ_of_le (Nat.div_le_div_right (Nat.sub_le_sub_right hlast _))
  · rw [Nat.div_mul_cancel (Nat.dvd_of_mod_eq_zero hstep)]
    omega

def remaining (low : Nat) (table : List Run) : List Run :=
  table.dropWhile fun r => r.first ≤ low && r.last < low

theorem contains_remaining {low n : Nat} (hlow : low ≤ n) (table : List Run) :
    contains (remaining low table) n = contains table n := by
  induction table with
  | nil => rfl
  | cons r rest ih =>
      rw [remaining, List.dropWhile_cons]
      split
      next hr =>
        simp only [Bool.and_eq_true, decide_eq_true_eq] at hr
        have hfirst : ¬ n < r.first := by omega
        have hmem : r.mem n = false := by
          rw [Bool.eq_false_iff]
          intro hm
          simp only [mem, Bool.and_eq_true, decide_eq_true_eq] at hm
          omega
        have hskip : find? (r :: rest) n = find? rest n := by
          simp [find?, hfirst, hmem]
        rw [contains, contains, hskip]
        exact ih
      · rfl

/-- Whether no run of a list shares a code point with a table, the list being in ascending order as well. -/
def clear : List Run → List Run → Bool
  | [], _ => true
  | r :: rest, table => (remaining r.first table).head?.all (fun s => r.last < s.first) &&
      rest.all (fun next => r.first ≤ next.first) && clear rest (remaining r.first table)

theorem contains_of_clear {runs table : List Run} (h : clear runs table = true) {r : Run} (hr : r ∈ runs) {n : Nat}
    (hn : r.mem n = true) : contains table n = false := by
  have hfirst : r.first ≤ n ∧ n ≤ r.last := by
    simp only [mem, Bool.and_eq_true, decide_eq_true_eq] at hn
    exact hn.1
  induction runs generalizing table with
  | nil => cases hr
  | cons first rest ih =>
      simp only [clear, Bool.and_eq_true, List.all_eq_true, decide_eq_true_eq] at h
      obtain ⟨⟨hhead, hascending⟩, hrest⟩ := h
      rcases List.mem_cons.1 hr with rfl | hr
      · rw [← contains_remaining hfirst.1 table]
        cases hleft : remaining r.first table with
        | nil => rfl
        | cons s more =>
            rw [hleft, List.head?_cons, Option.all_some, decide_eq_true_eq] at hhead
            rw [contains, find?, if_pos (Nat.lt_of_le_of_lt hfirst.2 hhead)]
            rfl
      · rw [← contains_remaining (Nat.le_trans (hascending r hr) hfirst.1) table]
        exact ih hrest hr

end Run

namespace Shift

def target (s : Shift) (n : Nat) : Char :=
  Char.ofNat (Int.toNat (n + s.offset))

def lands (table : List Run) (s : Shift) : Bool :=
  s.run.codes.all fun n => decide ((s.target s.run.first).toNat ≤ (s.target n).toNat) &&
    Run.contains (Run.remaining (s.target s.run.first).toNat table) (s.target n).toNat

theorem contains_of_lands {table : List Run} {s : Shift} (h : s.lands table = true) {n : Nat}
    (hn : s.run.mem n = true) : Run.contains table (s.target n).toNat = true := by
  have hcode := List.all_eq_true.1 h n (Run.mem_codes hn)
  simp only [Bool.and_eq_true, decide_eq_true_eq] at hcode
  rw [← Run.contains_remaining hcode.1 table]
  exact hcode.2

/-- Whatever is not the null character lies between what the ends of its run are shifted to. -/
theorem between_of_target {s : Shift} {n : Nat} (hn : s.run.mem n = true) (h : 0 < (s.target n).toNat) :
    s.run.first + s.offset ≤ (s.target n).toNat ∧ (s.target n).toNat ≤ s.run.last + s.offset := by
  simp only [Run.mem, Bool.and_eq_true, decide_eq_true_eq] at hn
  by_cases hvalid : Nat.isValidChar (Int.toNat (n + s.offset))
  · have hchar : s.target n = Char.ofNatAux _ hvalid := dif_pos hvalid
    have hcode : (s.target n).toNat = Int.toNat (n + s.offset) := congrArg Char.toNat hchar
    omega
  · have hnull : s.target n = '\x00' := dif_neg hvalid
    rw [hnull] at h
    exact absurd h (Nat.lt_irrefl 0)

theorem exists_of_shifted {shifts : List Shift} {n m : Nat} (h : Shift.apply? shifts n = some m) :
    ∃ s ∈ shifts, s.run.mem n = true ∧ Char.ofNat m = s.target n := by
  induction shifts with
  | nil => cases h
  | cons s rest ih =>
      rw [ Shift.apply?] at h
      split at h
      · cases h
      · split at h
        next hn =>
          obtain rfl := Option.some.inj h
          exact ⟨s, .head _, hn, rfl⟩
        · obtain ⟨s', hs', hn, hm⟩ := ih h
          exact ⟨s', .tail _ hs', hn, hm⟩

end Shift

theorem upperShifts_land : ∀ s ∈ upperShifts, s.lands upperRuns = true :=
  List.all_eq_true.1 (by decide +kernel)

/-- What the tables lead to among the letters of ASCII: capitals in upper case, of which there is one wherever a character
turns into several, and small letters in lower case. -/
theorem tables_bounded :
    (∀ s ∈ upperShifts, (65 ≤ s.run.first + s.offset ∧ s.run.last + s.offset ≤ 90) ∨ 128 ≤ s.run.first + s.offset) ∧
    (∀ s ∈ lowerShifts, (97 ≤ s.run.first + s.offset ∧ s.run.last + s.offset ≤ 122) ∨ 128 ≤ s.run.first + s.offset) ∧
    ∀ e ∈ upperExpansions, (∃ n ∈ e.2, isUpper (Char.ofNat n) = true) ∧
      ∀ n ∈ e.2, (Char.ofNat n).isLower = false ∧ Char.ofNat n ≠ '_' := by
  decide +kernel

theorem upper_eq_or_capital (c : Char) : upper c = [c] ∨ ∃ d ∈ upper c, isUpper d = true := by
  rw [upper]
  cases hexpanded : upperExpansions.lookup c.toNat with
  | some codes =>
      obtain ⟨before, after, htable, -⟩ := List.lookup_eq_some_iff.1 hexpanded
      have hentry : (c.toNat, codes) ∈ upperExpansions := by
        rw [htable]
        exact List.mem_append_right _ (.head _)
      obtain ⟨n, hn, hcapital⟩ := (tables_bounded.2.2 _ hentry).1
      exact .inr ⟨Char.ofNat n, List.mem_map_of_mem hn, hcapital⟩
  | none =>
      cases hshifted : Shift.apply? upperShifts c.toNat with
      | none => exact .inl rfl
      | some m =>
          obtain ⟨s, hs, hn, hm⟩ := Shift.exists_of_shifted hshifted
          refine .inr ⟨Char.ofNat m, .head _, ?_⟩
          rw [isUpper, hm]
          exact Shift.contains_of_lands (upperShifts_land s hs) hn

theorem lower_ne_nil (c : Char) : lower c ≠ [] := by
  rw [lower]
  split
  · exact List.cons_ne_nil _ _
  · split
    · exact List.cons_ne_nil _ _
    · exact List.cons_ne_nil _ _

theorem forall_mem_shifted {shifts : List Shift} {P : Char → Prop}
    (hshifts : ∀ s ∈ shifts, ∀ n, s.run.mem n = true → P (s.target n)) {c : Char}
    (hself : Shift.apply? shifts c.toNat = none → P c) :
    ∀ d ∈ (match Shift.apply? shifts c.toNat with
      | some n => [Char.ofNat n]
      | none => [c]), P d := by
  intro d hd
  cases hshifted : Shift.apply? shifts c.toNat with
  | some m =>
      rw [hshifted] at hd
      obtain ⟨s, hs, hn, hm⟩ := Shift.exists_of_shifted hshifted
      obtain rfl := List.mem_singleton.1 hd
      rw [hm]
      exact hshifts s hs c.toNat hn
  | none =>
      rw [hshifted] at hd
      obtain rfl := List.mem_singleton.1 hd
      exact hself hshifted

theorem forall_mem_upper {P : Char → Prop} (hexpansions : ∀ e ∈ upperExpansions, ∀ n ∈ e.2, P (Char.ofNat n))
    (hshifts : ∀ s ∈ upperShifts, ∀ n, s.run.mem n = true → P (s.target n)) {c : Char}
    (hself : Shift.apply? upperShifts c.toNat = none → P c) : ∀ d ∈ upper c, P d := by
  intro d hd
  rw [upper] at hd
  cases hexpanded : upperExpansions.lookup c.toNat with
  | some codes =>
      rw [hexpanded] at hd
      obtain ⟨n, hn, rfl⟩ := List.mem_map.1 hd
      obtain ⟨before, after, htable, -⟩ := List.lookup_eq_some_iff.1 hexpanded
      exact hexpansions (c.toNat, codes) (htable ▸ List.mem_append_right _ (.head _)) n hn
  | none =>
      rw [hexpanded] at hd
      exact forall_mem_shifted hshifts hself d hd

theorem forall_mem_lower {P : Char → Prop} (hdotted : P (Char.ofNat 0x69) ∧ P (Char.ofNat 0x307))
    (hshifts : ∀ s ∈ lowerShifts, ∀ n, s.run.mem n = true → P (s.target n)) {c : Char}
    (hself : Shift.apply? lowerShifts c.toNat = none → P c) : ∀ d ∈ lower c, P d := by
  intro d hd
  rw [lower] at hd
  split at hd
  · rcases List.mem_cons.1 hd with rfl | hd
    · exact hdotted.1
    · obtain rfl := List.mem_singleton.1 hd
      exact hdotted.2
  · exact forall_mem_shifted hshifts hself d hd

theorem target_ne_of_upper {s : Shift} (hs : s ∈ upperShifts) {n : Nat} (hn : s.run.mem n = true) {c : Char}
    (hc : 90 < c.toNat ∧ c.toNat < 128) : s.target n ≠ c := by
  rintro rfl
  have hbetween := Shift.between_of_target hn (by omega)
  rcases tables_bounded.1 s hs with hbounded | hbounded
  · omega
  · omega

theorem target_ne_of_lower {s : Shift} (hs : s ∈ lowerShifts) {n : Nat} (hn : s.run.mem n = true) {c : Char}
    (hc : 0 < c.toNat ∧ c.toNat < 97) : s.target n ≠ c := by
  rintro rfl
  have hbetween := Shift.between_of_target hn hc.1
  rcases tables_bounded.2.1 s hs with hbounded | hbounded
  · omega
  · omega

theorem capital_not_mem_lower (c : Char) : 'V' ∉ lower c := by
  intro hmem
  refine forall_mem_lower (P := (· ≠ 'V')) (by decide) (fun s hs n hn => target_ne_of_lower hs hn (by decide))
    (fun hself => ?_) 'V' hmem rfl
  rintro rfl
  exact absurd hself (by decide)

theorem isLower_of_mem_upper {c d : Char} (h : d ∈ upper c) : d.isLower = false := by
  have hsmall : ∀ {d : Char}, d.isLower = true → 97 ≤ d.toNat ∧ d.toNat ≤ 122 := by
    intro d hlower
    obtain ⟨hfirst, hlast⟩ := Bool.and_eq_true_iff.1 hlower
    exact ⟨of_decide_eq_true hfirst, of_decide_eq_true hlast⟩
  refine forall_mem_upper (P := fun d => d.isLower = false)
    (fun e he n hn => ((tables_bounded.2.2 e he).2 n hn).1) (fun s hs n hn => ?_) (fun hself => ?_) d h
  · rw [Bool.eq_false_iff]
    intro hlower
    obtain ⟨hfirst, hlast⟩ := hsmall hlower
    exact target_ne_of_upper hs hn ⟨by omega, by omega⟩ rfl
  · have hall : ∀ n < 123, 97 ≤ n → Shift.apply? upperShifts n ≠ none := by decide
    rw [Bool.eq_false_iff]
    intro hlower
    obtain ⟨hfirst, hlast⟩ := hsmall hlower
    exact hall c.toNat (Nat.lt_succ_of_le hlast) hfirst hself

theorem lowLine_not_mem_upper {c : Char} (hc : c ≠ '_') : '_' ∉ upper c := by
  intro hmem
  exact forall_mem_upper (P := (· ≠ '_')) (fun e he n hn => ((tables_bounded.2.2 e he).2 n hn).2)
    (fun s hs n hn => target_ne_of_upper hs hn (by decide)) (fun _ => hc) '_' hmem rfl

theorem lowLine_not_mem_lower {c : Char} (hc : c ≠ '_') : '_' ∉ lower c := by
  intro hmem
  exact forall_mem_lower (P := (· ≠ '_')) (by decide) (fun s hs n hn => target_ne_of_lower hs hn (by decide))
    (fun _ => hc) '_' hmem rfl

theorem upper_ne_nil (c : Char) : upper c ≠ [] := by
  rcases upper_eq_or_capital c with h | ⟨d, hd, -⟩
  · rw [h]
    exact List.cons_ne_nil _ _
  · exact List.ne_nil_of_mem hd

theorem forall_digit {P : Char → Prop} (h : ∀ n < 58, 48 ≤ n → P (Char.ofNat n)) {c : Char} (hc : c.isDigit = true) :
    P c := by
  simp only [Char.isDigit, Bool.and_eq_true, decide_eq_true_eq] at hc
  rw [← c.ofNat_toNat]
  exact h c.toNat (Nat.lt_succ_of_le hc.2) hc.1

theorem upper_digit {c : Char} (h : c.isDigit = true) : upper c = [c] :=
  forall_digit (P := fun c => upper c = [c]) (by decide) h

end TopicBindings.Character
