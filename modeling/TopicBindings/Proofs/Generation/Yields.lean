import Mathlib.Data.List.Forall2
import TopicBindings.Generation.Build
import TopicBindings.Proofs.Declaration.Growth

/-!
What a successful run adds to a sound tree, step by step. A run either adds declarations at the end of one
scope or lays down packages one after the other; both ways compose along the steps of a run.
-/

namespace TopicBindings.Generation

open Declaration (Doc EnumLiteral Field Method Orderly OrderlyAll RawContent Scope Shape Tree)

def Joined {β : Type} (P Q : List β → Prop) (out : List β) : Prop :=
  ∃ first second, P first ∧ Q second ∧ out = first ++ second

def Each {ι β : Type} (P : ι → List β → Prop) (items : List ι) (out : List β) : Prop :=
  ∃ parts, List.Forall₂ P items parts ∧ out = parts.flatten

namespace Each

variable {ι β : Type} {P Q : ι → List β → Prop} {items : List ι} {out : List β}

theorem nil : Each P [] [] :=
  ⟨[], .nil, rfl⟩

theorem cons {item : ι} {first : List β} (h : P item first) (hrest : Each P items out) :
    Each P (item :: items) (first ++ out) := by
  obtain ⟨parts, hparts, rfl⟩ := hrest
  exact ⟨first :: parts, .cons h hparts, rfl⟩

theorem part_of_mem (h : Each P items out) {item : ι} (hi : item ∈ items) :
    ∃ part, P item part ∧ ∀ x ∈ part, x ∈ out := by
  obtain ⟨parts, hparts, rfl⟩ := h
  induction hparts with
  | nil => cases hi
  | cons hp hrest ih =>
      rcases List.mem_cons.1 hi with rfl | hi
      · exact ⟨_, hp, fun x hx => by simp [hx]⟩
      · obtain ⟨part, hP, hsub⟩ := ih hi
        exact ⟨part, hP, fun x hx => by
          rw [List.flatten_cons]
          exact List.mem_append_right _ (hsub x hx)⟩

theorem exists_of_mem (h : Each P items out) {x : β} (hx : x ∈ out) :
    ∃ item ∈ items, ∃ part, P item part ∧ x ∈ part := by
  obtain ⟨parts, hparts, rfl⟩ := h
  induction hparts with
  | nil => simp at hx
  | cons hp hrest ih =>
      rw [List.flatten_cons] at hx
      rcases List.mem_append.1 hx with hx | hx
      · exact ⟨_, .head _, _, hp, hx⟩
      · obtain ⟨item, hi, part, hP, hm⟩ := ih hx
        exact ⟨item, .tail _ hi, part, hP, hm⟩

theorem flatMap_of_eq {f : ι → List β} (h : Each (fun item part => part = f item) items out) :
    out = items.flatMap f := by
  obtain ⟨parts, hparts, rfl⟩ := h
  induction hparts with
  | nil => rfl
  | cons hp hrest ih => rw [List.flatten_cons, List.flatMap_cons, ih, hp]

theorem map_of_eq {f : ι → β} (h : Each (fun item part => part = [f item]) items out) :
    out = items.map f := by
  rw [h.flatMap_of_eq, List.map_eq_flatMap]

end Each

namespace Build

variable {α β γ : Type} {w v : Workspace}

theorem runOn_bind (x : Build α) (f : α → Build γ) (w : Workspace) :
    (x >>= f).runOn w = match x.runOn w with
      | (.ok a, u) => (f a).runOn u
      | (.error e, u) => (.error e, u) := by
  show (ExceptT.bindCont f (x w).1) (x w).2 = _
  simp only [runOn, ExceptT.run, StateT.run]
  rcases x w with ⟨_ | _, _⟩ <;> rfl

theorem runOn_bind_ok {x : Build α} {f : α → Build γ} {c : γ} :
    (x >>= f).runOn w = (.ok c, v) ↔
      ∃ a u, x.runOn w = (.ok a, u) ∧ (f a).runOn u = (.ok c, v) := by
  rw [runOn_bind]
  rcases hx : x.runOn w with ⟨_ | a, u⟩
  · simp
  · simp

theorem runOn_pure (a : α) (w : Workspace) : (pure a : Build α).runOn w = (.ok a, w) :=
  rfl

theorem runOn_throw (failure : Failure) (w : Workspace) :
    (throw failure : Build α).runOn w = (.error failure, w) :=
  rfl

theorem runOn_tryCatch (x : Build α) (handle : Failure → Build α) (w : Workspace) :
    (tryCatch x handle).runOn w = match x.runOn w with
      | (.ok a, u) => (.ok a, u)
      | (.error e, u) => (handle e).runOn u := by
  simp only [runOn, ExceptT.run, StateT.run, tryCatch, tryCatchThe, MonadExceptOf.tryCatch, ExceptT.tryCatch,
    ExceptT.mk, bind, StateT.bind]
  rcases x w with ⟨_ | _, u⟩ <;> rfl

theorem runOn_note (notice : Notice) (w : Workspace) :
    (note notice).runOn w = (.ok (), { w with journal := w.journal ++ [notice] }) :=
  rfl

theorem runOn_notes (notices : List Notice) (w : Workspace) :
    (notices.forM note).runOn w = (.ok (), { w with journal := w.journal ++ notices }) := by
  induction notices generalizing w with
  | nil => exact Prod.ext rfl (by rw [List.append_nil]; rfl)
  | cons notice rest ih =>
      rw [List.forM_eq_forM] at ih ⊢
      rw [List.forM_cons, runOn_bind, runOn_note]
      simp only [ih, List.append_assoc, List.singleton_append]

theorem runOn_ofExcept_ok {ε : Type} {wrap : ε → Failure} {e : Except ε α} {a : α} :
    (ofExcept wrap e).runOn w = (.ok a, v) ↔ e = .ok a ∧ v = w := by
  cases e with
  | ok b => simp [ofExcept, runOn_pure, eq_comm]
  | error e => simp [ofExcept, runOn_throw]

theorem runOn_edit (change : Tree → Except Declaration.Fault Tree) (w : Workspace) :
    (edit change).runOn w = match change w.tree with
      | .ok tree => (.ok (), { w with tree })
      | .error fault => (.error (.declaration fault), w) := by
  have hget : (get : Build Workspace).runOn w = (.ok w, w) := rfl
  rw [edit, runOn_bind, hget]
  dsimp only
  cases change w.tree <;> rfl

theorem runOn_edit_ok {change : Tree → Except Declaration.Fault Tree} :
    (edit change).runOn w = (.ok (), v) ↔ ∃ tree, change w.tree = .ok tree ∧ v = { w with tree } := by
  rw [runOn_edit]
  cases change w.tree with
  | ok tree => simp [eq_comm]
  | error fault => simp

theorem runOn_openPackage (name : String) (w : Workspace) :
    (openPackage name).runOn w = (.ok (.ofPackage name), { w with tree := w.tree.openPackage name }) :=
  rfl

theorem runOn_noteMetadata (package : String) (entries : Entries String String) (w : Workspace) :
    (noteMetadata package entries).runOn w =
      (.ok (), { w with tree := w.tree.noteMetadata package entries }) :=
  rfl

/-- A relation between trees, with what the later one has more, that follows a run step by step. -/
structure Chained (R : Tree → List β → Tree → Prop) : Prop where
  nil : ∀ t, R t [] t
  append : ∀ {t u v first second}, R t first u → R u second v → R t (first ++ second) v

/-- A successful run on a sound tree adds something with a property and keeps the tree sound. -/
def Yields (R : Tree → List β → Tree → Prop) (b : Build α) (P : List β → Prop) : Prop :=
  ∀ w a v, w.tree.Sound → b.runOn w = (.ok a, v) → ∃ out, P out ∧ R w.tree out v.tree ∧ v.tree.Sound

namespace Yields

variable {R : Tree → List β → Tree → Prop} {P Q : List β → Prop} {b : Build α}

theorem mono (h : Yields R b P) (hPQ : ∀ out, P out → Q out) : Yields R b Q := by
  intro w a v hw hrun
  obtain ⟨out, hP, hR, hv⟩ := h w a v hw hrun
  exact ⟨out, hPQ out hP, hR, hv⟩

theorem done (hR : Chained R) (a : α) : Yields R (pure a) (· = []) := by
  intro w c v hw hrun
  obtain ⟨-, rfl⟩ := Prod.mk.inj hrun
  exact ⟨[], rfl, hR.nil _, hw⟩

theorem thrown (failure : Failure) : Yields R (throw failure : Build α) P := by
  intro w c v _ hrun
  cases hrun

theorem note (hR : Chained R) (notice : Notice) : Yields R (Build.note notice) (· = []) := by
  intro w c v hw hrun
  obtain ⟨-, rfl⟩ := Prod.mk.inj hrun
  exact ⟨[], rfl, hR.nil _, hw⟩

theorem seq (hR : Chained R) {f : α → Build γ} (h : Yields R b P) (hf : ∀ a, Yields R (f a) Q) :
    Yields R (b >>= f) (Joined P Q) := by
  intro w c v hw hrun
  obtain ⟨a, u, hb, hc⟩ := runOn_bind_ok.1 hrun
  obtain ⟨first, hP, hfirst, hu⟩ := h w a u hw hb
  obtain ⟨second, hQ, hsecond, hv⟩ := hf a u c v hu hc
  exact ⟨first ++ second, ⟨first, second, hP, hQ, rfl⟩, hR.append hfirst hsecond, hv⟩

/-- A step that adds nothing leaves the property to the steps behind it. -/
theorem after (hR : Chained R) {f : α → Build γ} (h : Yields R b (· = []))
    (hf : ∀ a, Yields R (f a) Q) : Yields R (b >>= f) Q := by
  refine (seq hR h hf).mono ?_
  rintro out ⟨first, second, rfl, hQ, rfl⟩
  exact hQ

theorem before (hR : Chained R) {f : α → Build γ} (h : Yields R b P)
    (hf : ∀ a, Yields R (f a) (· = [])) : Yields R (b >>= f) P := by
  refine (seq hR h hf).mono ?_
  rintro out ⟨first, second, hP, rfl, rfl⟩
  rwa [List.append_nil]

theorem ofExcept_bind {ε : Type} {wrap : ε → Failure} {e : Except ε α} {f : α → Build γ}
    (h : ∀ a, e = .ok a → Yields R (f a) P) : Yields R (ofExcept wrap e >>= f) P := by
  intro w c v hw hrun
  obtain ⟨a, u, he, hc⟩ := runOn_bind_ok.1 hrun
  obtain ⟨rfl, rfl⟩ := runOn_ofExcept_ok.1 he
  exact h a rfl u c v hw hc

theorem forM (hR : Chained R) {ι : Type} {f : ι → Build PUnit} {P : ι → List β → Prop} {items : List ι}
    (h : ∀ item ∈ items, Yields R (f item) (P item)) : Yields R (items.forM f) (Each P items) := by
  induction items with
  | nil =>
      refine (done hR PUnit.unit).mono ?_
      rintro out rfl
      exact .nil
  | cons item rest ih =>
      refine (seq hR (h item (.head _)) fun _ => ih fun i hi => h i (.tail _ hi)).mono ?_
      rintro out ⟨first, second, hP, hrest, rfl⟩
      exact .cons hP hrest

theorem notes (hR : Chained R) (notices : List Notice) :
    Yields R (notices.forM Build.note) (· = []) := by
  induction notices with
  | nil => exact done hR _
  | cons notice rest ih => exact after hR (note hR notice) fun _ => ih

end Yields

end Build

end TopicBindings.Generation
