import TopicBindings.Proofs.Generation.Yields

/-!
Two runs side by side. They start in related workspaces and end in related ones; the second fails just when the first
one does, for the corresponding reason. Steps that go side by side make up runs that do.
-/

namespace TopicBindings.Generation

def verdict {α : Type} (outcome : Except Failure α) : Except Failure Unit :=
  outcome.map fun _ => ()

theorem verdict_unit (outcome : Except Failure Unit) : verdict outcome = outcome := by
  cases outcome <;> rfl

/-- Two runs that keep a relation between their workspaces, and between their reasons to fail. -/
def Parallel {α β : Type} (R : Workspace → Workspace → Prop) (reason : Failure → Failure) (b : Build α)
    (b' : Build β) : Prop :=
  ∀ w w', R w w' → R (b.runOn w).2 (b'.runOn w').2 ∧
    verdict (b'.runOn w').1 = (verdict (b.runOn w).1).mapError reason

def OnTrees (R : Workspace → Workspace → Prop) : Prop :=
  ∀ {w w'}, R w w' → ∀ journal journal', R { w with journal } { w' with journal := journal' }

namespace Parallel

open Build (runOn_bind)

variable {α α' β β' : Type} {R : Workspace → Workspace → Prop} {reason : Failure → Failure}

theorem ok {b b' : Build Unit} (h : Parallel R reason b b') {w w' v : Workspace} (hw : R w w')
    (hrun : b.runOn w = (.ok (), v)) : ∃ v', b'.runOn w' = (.ok (), v') ∧ R v v' := by
  obtain ⟨hrelated, hverdict⟩ := h w w' hw
  rw [hrun] at hrelated hverdict
  rw [verdict_unit] at hverdict
  exact ⟨_, Prod.ext hverdict rfl, hrelated⟩

theorem done (a : α) (a' : α') : Parallel R reason (pure a) (pure a') :=
  fun _ _ hw => ⟨hw, rfl⟩

theorem thrown {failure failure' : Failure} (h : failure' = reason failure) :
    Parallel R reason (throw failure : Build α) (throw failure' : Build α') :=
  fun _ _ hw => ⟨hw, congrArg Except.error h⟩

theorem note (hR : OnTrees R) (notice notice' : Notice) :
    Parallel R reason (Build.note notice) (Build.note notice') :=
  fun _ _ hw => ⟨hR hw _ _, rfl⟩

/-- What is noted on the two sides need not be the same. -/
theorem notes (hR : OnTrees R) (notices notices' : List Notice) :
    Parallel R reason (notices.forM Build.note) (notices'.forM Build.note) := by
  intro w w' hw
  rw [Build.runOn_notes, Build.runOn_notes]
  exact ⟨hR hw _ _, rfl⟩

theorem seq {x : Build α} {x' : Build α'} {f : α → Build β} {f' : α' → Build β'} (h : Parallel R reason x x')
    (hf : ∀ a a', Parallel R reason (f a) (f' a')) : Parallel R reason (x >>= f) (x' >>= f') := by
  intro w w' hw
  obtain ⟨hrelated, hverdict⟩ := h w w' hw
  rw [runOn_bind, runOn_bind]
  rcases hx : x.runOn w with ⟨e | a, u⟩
  · rcases hx' : x'.runOn w' with ⟨e' | a', u'⟩
    · rw [hx, hx'] at hrelated hverdict
      exact ⟨hrelated, hverdict⟩
    · rw [hx, hx'] at hverdict
      cases hverdict
  · rcases hx' : x'.runOn w' with ⟨e' | a', u'⟩
    · rw [hx, hx'] at hverdict
      cases hverdict
    · rw [hx, hx'] at hrelated
      exact hf a a' u u' hrelated

theorem ofExcept_bind {ε : Type} {wrap : ε → Failure} {e : Except ε α} {e' : Except ε α'} {f : α → Build β}
    {f' : α' → Build β'}
    (hok : ∀ a, e = .ok a → ∃ a', e' = .ok a' ∧ Parallel R reason (f a) (f' a'))
    (herror : ∀ fault, e = .error fault → ∃ fault', e' = .error fault' ∧ wrap fault' = reason (wrap fault)) :
    Parallel R reason (Build.ofExcept wrap e >>= f) (Build.ofExcept wrap e' >>= f') := by
  cases e with
  | ok a =>
      obtain ⟨a', rfl, h⟩ := hok a rfl
      exact h
  | error fault =>
      obtain ⟨fault', rfl, h⟩ := herror fault rfl
      exact fun w w' hw => ⟨hw, congrArg Except.error h⟩

theorem edit {change change' : Declaration.Tree → Except Declaration.Fault Declaration.Tree}
    (hok : ∀ {w w' t}, R w w' → change w.tree = .ok t →
      ∃ t', change' w'.tree = .ok t' ∧ R { w with tree := t } { w' with tree := t' })
    (herror : ∀ {w w' fault}, R w w' → change w.tree = .error fault →
      ∃ fault', change' w'.tree = .error fault' ∧ .declaration fault' = reason (.declaration fault)) :
    Parallel R reason (Build.edit change) (Build.edit change') := by
  intro w w' hw
  rw [Build.runOn_edit, Build.runOn_edit]
  cases hchange : change w.tree with
  | ok t =>
      obtain ⟨t', hchange', ht⟩ := hok hw hchange
      rw [hchange']
      exact ⟨ht, rfl⟩
  | error fault =>
      obtain ⟨fault', hchange', hfault⟩ := herror hw hchange
      rw [hchange']
      exact ⟨hw, congrArg Except.error hfault⟩

theorem openPackage_bind {package package' : String} {f : Declaration.Scope → Build α}
    {f' : Declaration.Scope → Build α'}
    (hopen : ∀ {w w'}, R w w' → R { w with tree := w.tree.openPackage package }
      { w' with tree := w'.tree.openPackage package' })
    (h : Parallel R reason (f (.ofPackage package)) (f' (.ofPackage package'))) :
    Parallel R reason (Build.openPackage package >>= f) (Build.openPackage package' >>= f') := by
  intro w w' hw
  rw [runOn_bind, runOn_bind, Build.runOn_openPackage, Build.runOn_openPackage]
  exact h _ _ (hopen hw)

theorem forM {ι ι' : Type} {f : ι → Build PUnit} {f' : ι' → Build PUnit} {items : List ι} {items' : List ι'}
    (h : List.Forall₂ (fun item item' => Parallel R reason (f item) (f' item')) items items') :
    Parallel R reason (items.forM f) (items'.forM f') := by
  induction h with
  | nil => exact done _ _
  | cons hitem _ ih => exact seq hitem fun _ _ => ih

end Parallel

end TopicBindings.Generation
