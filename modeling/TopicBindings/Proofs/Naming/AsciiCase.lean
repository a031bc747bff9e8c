import TopicBindings.Proofs.Naming.Segmentation

/-!
Changes of case within ASCII. Every character turns into a single one, so that a text keeps its length, and only letters
change their class.
-/

namespace TopicBindings.Naming

open Character (isLetter lower upper)

def Ascii (s : List Char) : Prop :=
  ∀ c ∈ s, c.toNat < 128

instance (s : List Char) : Decidable (Ascii s) :=
  List.decidableBAll _ s

def Class.raised : Class → Class
  | .lower => .upper
  | k => k

def Class.lowered : Class → Class
  | .upper => .lower
  | k => k

section Characters

variable {c : Char} (hc : c.toNat < 128)

@[elab_as_elim]
theorem forall_ascii {P : Char → Prop} (h : ∀ n < 128, P (Char.ofNat n)) {c : Char} (hc : c.toNat < 128) : P c := by
  rw [← c.ofNat_toNat]
  exact h c.toNat hc

include hc

theorem case_ascii : upper c = [c.toUpper] ∧ lower c = [c.toLower] ∧
    c.toUpper.toNat < 128 ∧ c.toLower.toNat < 128 :=
  forall_ascii (by decide +kernel) hc

theorem case_case_ascii : c.toUpper.toUpper = c.toUpper ∧ c.toUpper.toLower = c.toLower ∧
    c.toLower.toUpper = c.toUpper ∧ c.toLower.toLower = c.toLower :=
  forall_ascii (by decide +kernel) hc

theorem class_ascii : Class.of c.toUpper = (Class.of c).raised ∧ Class.of c.toLower = (Class.of c).lowered ∧
    (c.toUpper = c ↔ Class.of c ≠ .lower) ∧ (c.toLower = c ↔ Class.of c ≠ .upper) ∧
    (isLetter c = true ↔ Class.of c = .upper ∨ Class.of c = .lower) :=
  forall_ascii (by decide +kernel) hc

theorem upper_ascii : upper c = [c.toUpper] :=
  (case_ascii hc).1

theorem lower_ascii : lower c = [c.toLower] :=
  (case_ascii hc).2.1

theorem toUpper_ascii : c.toUpper.toNat < 128 :=
  (case_ascii hc).2.2.1

theorem toLower_ascii : c.toLower.toNat < 128 :=
  (case_ascii hc).2.2.2

theorem toUpper_toUpper_ascii : c.toUpper.toUpper = c.toUpper :=
  (case_case_ascii hc).1

theorem toUpper_toLower_ascii : c.toUpper.toLower = c.toLower :=
  (case_case_ascii hc).2.1

theorem toLower_toUpper_ascii : c.toLower.toUpper = c.toUpper :=
  (case_case_ascii hc).2.2.1

theorem toLower_toLower_ascii : c.toLower.toLower = c.toLower :=
  (case_case_ascii hc).2.2.2

theorem class_toUpper : Class.of c.toUpper = (Class.of c).raised :=
  (class_ascii hc).1

theorem class_toLower : Class.of c.toLower = (Class.of c).lowered :=
  (class_ascii hc).2.1

theorem toUpper_eq_self_iff : c.toUpper = c ↔ Class.of c ≠ .lower :=
  (class_ascii hc).2.2.1

theorem toLower_eq_self_iff : c.toLower = c ↔ Class.of c ≠ .upper :=
  (class_ascii hc).2.2.2.1

theorem isLetter_iff : isLetter c = true ↔ Class.of c = .upper ∨ Class.of c = .lower :=
  (class_ascii hc).2.2.2.2

theorem isKept_toUpper (h : isKept c = true) : isKept c.toUpper = true := by
  rw [isKept_iff] at h ⊢
  rw [class_toUpper hc]
  cases hclass : Class.of c <;> simp_all [Class.raised]

theorem isKept_toLower (h : isKept c = true) : isKept c.toLower = true := by
  rw [isKept_iff] at h ⊢
  rw [class_toLower hc]
  cases hclass : Class.of c <;> simp_all [Class.lowered]

end Characters

section Texts

variable {s : List Char} {c : Char}

theorem Ascii.tail (h : Ascii (c :: s)) : Ascii s :=
  fun d hd => h d (.tail _ hd)

theorem Ascii.map_toUpper (h : Ascii s) : Ascii (s.map Char.toUpper) :=
  List.forall_mem_map.2 fun c hc => toUpper_ascii (h c hc)

theorem Ascii.map_toLower (h : Ascii s) : Ascii (s.map Char.toLower) :=
  List.forall_mem_map.2 fun c hc => toLower_ascii (h c hc)

theorem upperText_eq (h : Ascii s) : upperText s = s.map Char.toUpper := by
  induction s with
  | nil => rfl
  | cons c rest ih =>
      rw [upperText, List.flatMap_cons, upper_ascii (h c (.head _)), List.map_cons, ← ih h.tail]
      rfl

theorem lowerFrom_eq (h : Ascii s) : ∀ afterCased, lowerFrom afterCased s = s.map Char.toLower := by
  induction s with
  | nil => intro _; rfl
  | cons c rest ih =>
      intro afterCased
      have hc : c.toNat < 128 := h c (.head _)
      have hsigma : c ≠ 'Σ' := by
        rintro rfl
        exact absurd hc (by decide)
      rw [lowerFrom, if_neg hsigma, lower_ascii hc, ih h.tail]
      rfl

theorem lowerText_eq (h : Ascii s) : lowerText s = s.map Char.toLower :=
  lowerFrom_eq h false

theorem capitalize_cons (h : Ascii (c :: s)) : capitalize (c :: s) = c.toUpper :: s.map Char.toLower := by
  rw [capitalize, upper_ascii (h c (.head _)), lowerText_eq h.tail]
  rfl

theorem uncapitalize_cons (h : Ascii (c :: s)) : uncapitalize (c :: s) = c.toLower :: s.map Char.toLower := by
  rw [uncapitalize, lower_ascii (h c (.head _)), lowerText_eq h.tail]
  rfl

end Texts

end TopicBindings.Naming
