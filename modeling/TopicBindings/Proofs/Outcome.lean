import Mathlib.Data.List.Forall2

/-!
When computations that may fail succeed, and for which reason they fail.
-/

namespace TopicBindings.Outcome

variable {ε ε' α β : Type}

theorem bind_ok {x : Except ε α} {f : α → Except ε β} {b : β} :
    (x >>= f) = .ok b ↔ ∃ a, x = .ok a ∧ f a = .ok b := by
  cases x <;> simp [bind, Except.bind]

theorem bind_error {x : Except ε α} {f : α → Except ε β} {e : ε} :
    (x >>= f) = .error e ↔ x = .error e ∨ ∃ a, x = .ok a ∧ f a = .error e := by
  cases x <;> simp [bind, Except.bind]

theorem pure_ok {a b : α} : (pure a : Except ε α) = .ok b ↔ a = b := by
  simp [pure, Except.pure]

theorem map_ok {f : α → β} {x : Except ε α} {b : β} :
    x.map f = .ok b ↔ ∃ a, x = .ok a ∧ f a = b := by
  cases x <;> simp [Except.map]

theorem mapError_ok {f : ε → ε'} {x : Except ε α} {a : α} : x.mapError f = .ok a ↔ x = .ok a := by
  cases x <;> simp [Except.mapError]

theorem mapError_error {f : ε → ε'} {x : Except ε α} {e : ε'} :
    x.mapError f = .error e ↔ ∃ fault, x = .error fault ∧ f fault = e := by
  cases x <;> simp [Except.mapError]

theorem exists_ok_of_isSome {x : Except ε α} (h : x.toOption.isSome = true) : ∃ a, x = .ok a := by
  cases x with
  | ok a => exact ⟨a, rfl⟩
  | error e => cases h

theorem exists_ok_of_any {x : Except ε α} {p : α → Bool} (h : x.toOption.any p = true) :
    ∃ a, x = .ok a ∧ p a = true := by
  cases x with
  | ok a => exact ⟨a, rfl, h⟩
  | error e => cases h

theorem exists_error_of_any {x : Except ε α} {p : ε → Bool} (h : ((match x with | .ok _ => none | .error e => some e).any p) = true) :
    ∃ e, x = .error e ∧ p e = true := by
  cases x with
  | ok a => cases h
  | error e => exact ⟨e, rfl, h⟩

theorem mapM_ok {f : α → Except ε β} {xs : List α} {ys : List β} :
    xs.mapM f = .ok ys ↔ List.Forall₂ (fun x y => f x = .ok y) xs ys := by
  induction xs generalizing ys with
  | nil =>
      rw [List.mapM_nil, pure_ok, List.forall₂_nil_left_iff]
      exact eq_comm
  | cons x rest ih =>
      rw [List.mapM_cons, bind_ok, List.forall₂_cons_left_iff]
      constructor
      · rintro ⟨y, hy, h⟩
        obtain ⟨zs, hzs, h⟩ := bind_ok.1 h
        obtain rfl := pure_ok.1 h
        exact ⟨y, zs, hy, ih.1 hzs, rfl⟩
      · rintro ⟨y, zs, hy, hzs, rfl⟩
        exact ⟨y, hy, bind_ok.2 ⟨zs, ih.2 hzs, rfl⟩⟩

theorem mapM_error {f : α → Except ε β} {reason : α → Option ε} (h : ∀ x e, f x = .error e ↔ reason x = some e)
    {xs : List α} {e : ε} : xs.mapM f = .error e ↔ xs.findSome? reason = some e := by
  induction xs with
  | nil => simp [pure, Except.pure]
  | cons x rest ih =>
      rw [List.mapM_cons, bind_error, List.findSome?_cons, h]
      cases hx : f x with
      | error e' => simp [(h x e').1 hx]
      | ok y =>
          have hnone : reason x = none := Option.eq_none_iff_forall_ne_some.2 fun e' he' => by
            rw [(h x e').2 he'] at hx
            cases hx
          simp [hnone, bind_error, ih, pure, Except.pure]

theorem exists_of_mapM_error {f : α → Except ε β} {xs : List α} {e : ε} (h : xs.mapM f = .error e) :
    ∃ x ∈ xs, f x = .error e := by
  induction xs with
  | nil => cases h
  | cons x rest ih =>
      rw [List.mapM_cons] at h
      rcases bind_error.1 h with h | ⟨y, -, h⟩
      · exact ⟨x, .head _, h⟩
      · rcases bind_error.1 h with h | ⟨ys, -, h⟩
        · obtain ⟨x', hx', h⟩ := ih h
          exact ⟨x', .tail _ hx', h⟩
        · cases h

theorem forM_ok {f : α → Except ε Unit} {xs : List α} :
    xs.forM f = .ok () ↔ ∀ x ∈ xs, f x = .ok () := by
  induction xs with
  | nil => simp [pure, Except.pure]
  | cons x rest ih =>
      rw [List.forM_eq_forM] at ih ⊢
      rw [List.forM_cons, bind_ok]
      constructor
      · rintro ⟨_, hx, hrest⟩ y hy
        rcases List.mem_cons.1 hy with rfl | hy
        · exact hx
        · exact ih.1 hrest y hy
      · intro h
        exact ⟨(), h x (.head _), ih.2 fun y hy => h y (.tail _ hy)⟩

theorem foldlM_cons_ok {f : β → α → Except ε β} {x : α} {xs : List α} {b c : β} :
    (x :: xs).foldlM f b = .ok c ↔ ∃ a, f b x = .ok a ∧ xs.foldlM f a = .ok c := by
  rw [List.foldlM_cons, bind_ok]

theorem foldlM_keeps {P : β → Prop} {f : β → α → Except ε β} {xs : List α}
    (hstep : ∀ x ∈ xs, ∀ b c, P b → f b x = .ok c → P c) {b c : β} (hb : P b)
    (h : xs.foldlM f b = .ok c) : P c := by
  induction xs generalizing b with
  | nil =>
      obtain rfl := pure_ok.1 h
      exact hb
  | cons x rest ih =>
      obtain ⟨a, ha, h⟩ := foldlM_cons_ok.1 h
      exact ih (fun y hy => hstep y (.tail _ hy)) (hstep x (.head _) b a hb ha) h

theorem exists_of_forall₂ {R : α → β → Prop} {xs : List α} {ys : List β} (h : List.Forall₂ R xs ys)
    {y : β} (hy : y ∈ ys) : ∃ x ∈ xs, R x y := by
  induction h with
  | nil => cases hy
  | cons hR _ ih =>
      rcases List.mem_cons.1 hy with rfl | hy
      · exact ⟨_, .head _, hR⟩
      · obtain ⟨x, hx, hxy⟩ := ih hy
        exact ⟨x, .tail _ hx, hxy⟩

theorem eq_map_of_forall₂ {R : α → β → Prop} {xs : List α} {ys : List β} {f : β → α} (h : List.Forall₂ R xs ys)
    (hf : ∀ y ∈ ys, ∀ x, R x y → x = f y) : xs = ys.map f := by
  induction h with
  | nil => rfl
  | @cons x y xs ys hR _ ih =>
      rw [List.map_cons, hf y (.head _) x hR, ih fun other hother => hf other (.tail _ hother)]

end TopicBindings.Outcome
