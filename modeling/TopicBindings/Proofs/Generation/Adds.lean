import TopicBindings.Proofs.Generation.Yields

/-!
What the declaring steps of a run add: a member at the end of a scope, a type with all its members, and a
package with its declarations.
-/

namespace TopicBindings.Generation.Build

open Declaration (Compatible Doc EnumLiteral Field Method Orderly OrderlyAll RawContent Scope Shape Tree)

variable {α γ : Type} {scope : Scope}

def Extends (scope : Scope) (t : Tree) (new : List Declaration) (t' : Tree) : Prop :=
  t' = t.extend scope new

theorem chained_extends (scope : Scope) : Chained (Extends scope) where
  nil t := (Tree.extend_nil t scope).symm
  append h h' := by
    rw [Extends] at h h' ⊢
    rw [h', h, Tree.extend_extend]

abbrev Adds (b : Build α) (scope : Scope) (P : List Declaration → Prop) : Prop :=
  Yields (Extends scope) b P

theorem adds_edit {change : Tree → Except Declaration.Fault Tree} {new : Declaration}
    (h : ∀ t t', t.Sound → change t = .ok t' → t' = t.extend scope [new] ∧ t'.Sound) :
    Adds (edit change) scope (· = [new]) := by
  intro w a v hw hrun
  obtain ⟨t', hchange, rfl⟩ := runOn_edit_ok.1 hrun
  obtain ⟨ht, hsound⟩ := h w.tree t' hw hchange
  exact ⟨[new], rfl, ht, hsound⟩

theorem adds_field (field : Field) : Adds (createField scope field) scope (· = [.field field]) :=
  adds_edit fun t t' ht hd => by
    rw [Tree.declareField] at hd
    split at hd
    · cases hd
    · obtain ⟨heq, hsound, -⟩ := ht.declare (.field field) trivial hd
      exact ⟨heq, hsound⟩

theorem adds_method (method : Method) : Adds (createMethod scope method) scope (· = [.method method]) :=
  adds_edit fun t t' ht hd => by
    rw [Tree.declareMethod] at hd
    split at hd
    · cases hd
    · obtain ⟨heq, hsound, -⟩ := ht.declare (.method method) trivial hd
      exact ⟨heq, hsound⟩

theorem adds_raw (content : RawContent) : Adds (createRaw scope content) scope (· = [.raw content]) :=
  adds_edit fun t t' ht hd => by
    rw [Tree.declareRaw] at hd
    split at hd
    · cases hd
    · obtain ⟨heq, hsound, -⟩ := ht.declare (.raw content) trivial hd
      exact ⟨heq, hsound⟩

theorem adds_enum (name : String) (doc : Doc) (entries : List EnumLiteral) :
    Adds (edit fun t => t.declareEnum scope name doc entries) scope
      (· = [.enumeration (scope.nameOf name) doc entries]) :=
  adds_edit fun t t' ht hd => by
    obtain ⟨heq, hsound, -⟩ := ht.declare (.enumeration (scope.nameOf name) doc entries) rfl hd
    exact ⟨heq, hsound⟩

theorem adds_type {name : String} {doc : Doc} {shape : Shape} {body : Scope → Build Unit}
    {P : List Declaration → Prop} (h : Adds (body (scope.child name)) (scope.child name) P) :
    Adds (createType scope name doc shape body) scope
      (fun out => ∃ inner, P inner ∧ out = [.type (scope.nameOf name) doc shape inner]) := by
  intro w a v hw hrun
  obtain ⟨_, u, hedit, hrest⟩ := runOn_bind_ok.1 hrun
  obtain ⟨t', hd, rfl⟩ := runOn_edit_ok.1 hedit
  obtain ⟨_, u', hbody, hret⟩ := runOn_bind_ok.1 hrest
  obtain ⟨-, rfl⟩ := Prod.mk.inj hret
  obtain ⟨rfl, hsound, hfree⟩ :=
    hw.declare (.type (scope.nameOf name) doc shape []) ⟨rfl, trivial⟩ hd
  obtain ⟨inner, hP, hinner, hv⟩ := h _ _ _ hsound hbody
  refine ⟨_, ⟨inner, hP, rfl⟩, ?_, hv⟩
  rw [Extends] at hinner ⊢
  rw [hinner]
  exact Tree.extend_child hw.distinct (hfree name rfl) doc shape inner

abbrev Stage := String × List Declaration

def under (package : String) (stages : List Stage) : List Declaration :=
  stages.flatMap fun stage => if stage.1 = package then stage.2 else []

theorem mem_under {package : String} {stages : List Stage} {d : Declaration} :
    d ∈ under package stages ↔ ∃ ds, (package, ds) ∈ stages ∧ d ∈ ds := by
  simp only [under, List.mem_flatMap]
  constructor
  · rintro ⟨⟨name, ds⟩, hs, hd⟩
    by_cases hn : name = package
    · exact ⟨ds, hn ▸ hs, by simpa [hn] using hd⟩
    · simp [hn] at hd
  · rintro ⟨ds, hs, hd⟩
    exact ⟨(package, ds), hs, by simpa using hd⟩

theorem under_cons (package : String) (stage : Stage) (stages : List Stage) :
    under package (stage :: stages) = (if stage.1 = package then stage.2 else []) ++ under package stages :=
  List.flatMap_cons

theorem under_of_ne {package : String} {stages : List Stage} (h : ∀ stage ∈ stages, stage.1 ≠ package) :
    under package stages = [] :=
  List.flatMap_eq_nil_iff.2 fun stage hs => if_neg (h stage hs)

theorem under_append (package : String) (first second : List Stage) :
    under package (first ++ second) = under package first ++ under package second :=
  List.flatMap_append

/-- Every package of the later tree has what the stages put there behind what it had. -/
def Stages (t : Tree) (stages : List Stage) (t' : Tree) : Prop :=
  ∀ package, t'.members (.ofPackage package) = t.members (.ofPackage package) ++ under package stages

theorem chained_stages : Chained Stages where
  nil t package := by simp [under]
  append h h' package := by rw [h' package, h package, under_append, List.append_assoc]

abbrev Lays (b : Build α) (P : List Stage → Prop) : Prop :=
  Yields Stages b P

/-- A package that is opened and then filled is one stage. -/
theorem lays_package {name : String} {f : Scope → Build γ} {P : List Declaration → Prop}
    (h : Adds (f (.ofPackage name)) (.ofPackage name) P) :
    Lays (openPackage name >>= f) (fun stages => ∃ ds, P ds ∧ stages = [(name, ds)]) := by
  intro w c v hw hrun
  rw [runOn_bind, runOn_openPackage] at hrun
  obtain ⟨ds, hP, hds, hv⟩ := h _ c v (hw.openPackage name) hrun
  refine ⟨[(name, ds)], ⟨ds, hP, rfl⟩, fun package => ?_, hv⟩
  rw [Extends] at hds
  rw [hds]
  by_cases hp : package = name
  · subst hp
    rw [Tree.members_extend_package (Tree.mem_names_openPackage _ _), Tree.members_openPackage]
    simp [under]
  · rw [Tree.members_extend_other hp, Tree.members_openPackage]
    simp [under, Ne.symm hp]

theorem lays_package_before {name : String} {f : Scope → Build γ} {rest : Build α}
    (P : List Declaration → Prop) {Q : List Stage → Prop}
    (h : Adds (f (.ofPackage name)) (.ofPackage name) P) (hrest : Lays rest Q) :
    Lays (openPackage name >>= fun scope => f scope >>= fun _ => rest)
      (fun stages => ∃ ds others, P ds ∧ Q others ∧ stages = (name, ds) :: others) := by
  rw [← bind_assoc]
  refine (Yields.seq chained_stages (lays_package h) fun _ => hrest).mono ?_
  rintro stages ⟨first, others, ⟨ds, hP, rfl⟩, hQ, rfl⟩
  exact ⟨ds, others, hP, hQ, rfl⟩

theorem lays_opened {name : String} {f : Scope → Build γ} {Q : List Stage → Prop}
    (h : Lays (f (.ofPackage name)) Q) : Lays (openPackage name >>= f) Q := by
  intro w c v hw hrun
  rw [runOn_bind, runOn_openPackage] at hrun
  obtain ⟨stages, hQ, hstages, hv⟩ := h _ c v (hw.openPackage name) hrun
  refine ⟨stages, hQ, fun package => ?_, hv⟩
  rw [hstages package, Tree.members_openPackage]

theorem lays_metadata (package : String) (entries : Entries String String) :
    Lays (noteMetadata package entries) (· = []) := by
  intro w a v hw hrun
  obtain ⟨-, rfl⟩ := Prod.mk.inj hrun
  refine ⟨[], rfl, fun other => ?_, hw.noteMetadata package entries⟩
  simp [Tree.members_noteMetadata, under]

end TopicBindings.Generation.Build
