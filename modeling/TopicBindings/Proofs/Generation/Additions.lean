import TopicBindings.Proofs.Generation.Calls

/-!
Extensions only add. Without its extensions a run declares the same tree without the notes on literals; what the extensions
generate comes behind it. They see every literal once as it is declared, and all of them before the first one starts.
-/

namespace TopicBindings.Generation

open Build (runOn_bind_ok)
open Declaration (Doc EnumLiteral Recast Scope Shape Tree)
open Service (Definitions)

/-- A run on a tree with additions to some core makes more additions, and no call of an extension. -/
def Enlarges {α : Type} (core : Tree) (b : Build α) : Prop :=
  ∀ w a v, core.Heads w.tree → w.tree.names.Nodup → b.runOn w = (.ok a, v) →
    Tree.Added core w.tree v.tree ∧ v.calls = w.calls

namespace Enlarges

variable {α β : Type} {core : Tree} {scope : Scope}

theorem done (a : α) : Enlarges core (pure a) := by
  intro w c v _ _ hrun
  obtain ⟨-, rfl⟩ := Prod.mk.inj hrun
  exact ⟨.refl, rfl⟩

theorem note {notice : Notice} (h : notice.isCall = false) : Enlarges core (Build.note notice) := by
  intro w c v _ _ hrun
  obtain ⟨-, rfl⟩ := Prod.mk.inj hrun
  refine ⟨.refl, ?_⟩
  simp [Workspace.calls, h]

theorem seq (hcore : core.names.Nodup) {b : Build α} {f : α → Build β} (h : Enlarges core b)
    (hf : ∀ a, Enlarges core (f a)) : Enlarges core (b >>= f) := by
  intro w c v hw hnames hrun
  obtain ⟨a, u, hb, hrun⟩ := runOn_bind_ok.1 hrun
  obtain ⟨hadded, hcalls⟩ := h w a u hw hnames hb
  obtain ⟨hadded', hcalls'⟩ := hf a u c v (hadded.heads hcore hw) (hadded.names_nodup hnames) hrun
  exact ⟨hadded.trans hadded', hcalls'.trans hcalls⟩

theorem ofExcept_bind {ε : Type} {wrap : ε → Failure} {e : Except ε α} {f : α → Build β}
    (h : ∀ a, Enlarges core (f a)) : Enlarges core (Build.ofExcept wrap e >>= f) := by
  intro w c v hw hnames hrun
  obtain ⟨a, u, he, hrun⟩ := runOn_bind_ok.1 hrun
  obtain ⟨-, hu⟩ := Build.runOn_ofExcept_ok.1 he
  rw [hu] at hrun
  exact h a w c v hw hnames hrun

theorem openPackage_bind (hcore : core.names.Nodup) (name : String) {f : Scope → Build β}
    (h : Enlarges core (f (.ofPackage name))) : Enlarges core (Build.openPackage name >>= f) := by
  intro w c v hw hnames hrun
  rw [Build.runOn_bind, Build.runOn_openPackage] at hrun
  have hopened : Tree.Addition core w.tree (w.tree.openPackage name) := .openPackage name
  obtain ⟨hadded, hcalls⟩ := h _ c v (hopened.heads hcore hw) (hopened.names_nodup hnames) hrun
  exact ⟨hadded.head hopened, hcalls⟩

theorem edit (hscope : core.Lacks scope) {change : Tree → Except Declaration.Fault Tree}
    (h : ∀ t t', change t = .ok t' → ∃ new, t.declare scope new = .ok t') : Enlarges core (Build.edit change) := by
  intro w c v _ _ hrun
  obtain ⟨tree, htree, rfl⟩ := Build.runOn_edit_ok.1 hrun
  obtain ⟨new, hnew⟩ := h _ _ htree
  exact ⟨.single (.declare hscope hnew), rfl⟩

theorem createRaw (hscope : core.Lacks scope) (content : Declaration.RawContent) :
    Enlarges core (Build.createRaw scope content) :=
  edit hscope fun t t' h => by
    rw [Tree.declareRaw] at h
    split at h
    · cases h
    · exact ⟨_, h⟩

/-- The core has no type of a name that is free, so that what is declared in the new type is an addition too. -/
theorem createType (hcore : core.names.Nodup) (hscope : core.Lacks scope) {name : String} {doc : Doc} {shape : Shape}
    {body : Scope → Build Unit} (h : core.Lacks (scope.child name) → Enlarges core (body (scope.child name))) :
    Enlarges core (Build.createType scope name doc shape body) := by
  intro w c v hw hnames hrun
  obtain ⟨_, u, hdeclare, hrun⟩ := runOn_bind_ok.1 hrun
  obtain ⟨tree, htree, -⟩ := Build.runOn_edit_ok.1 hdeclare
  have hlacks : core.Lacks (scope.child name) := by
    obtain ⟨package, path⟩ := scope
    cases path with
    | cons step path => exact hscope
    | nil =>
        rintro step hstep hmem
        obtain rfl : name = step := Option.some.inj hstep
        exact Tree.free_of_declare htree rfl (((hw.members hnames package).map _).subset hmem)
  have hadded := edit hscope (fun _ _ h => ⟨_, h⟩) w _ u hw hnames hdeclare
  have hbody := seq hcore (h hlacks) (fun _ => done (scope.child name)) u c v
    (hadded.1.heads hcore hw) (hadded.1.names_nodup hnames) hrun
  exact ⟨hadded.1.trans hbody.1, hbody.2.trans hadded.2⟩

end Enlarges

namespace Extension

def OnlyDeclares (e : Extension) : Prop :=
  ∀ (c : Context) (w v : Workspace), w.tree.names.Nodup → (e.generate c).runOn w = (.ok (), v) →
    Tree.Added w.tree w.tree v.tree ∧ v.calls = w.calls

theorem OnlyDeclares.of_enlarges {e : Extension}
    (h : ∀ c core, core.names.Nodup → Enlarges core (e.generate c)) : e.OnlyDeclares :=
  fun c w v hw hrun => h c w.tree hw w () v (.refl _) hw hrun

end Extension

theorem TopicLookup.onlyDeclares : TopicLookup.extension.OnlyDeclares := by
  refine .of_enlarges fun c core hcore => Enlarges.ofExcept_bind fun rows => ?_
  refine Enlarges.openPackage_bind hcore _ (Enlarges.seq hcore ?_ fun _ => Enlarges.note rfl)
  exact Enlarges.createType hcore (by rintro _ ⟨⟩) fun hlacks => Enlarges.createRaw hlacks _

/-- What the extensions generate comes behind the core, and each of them is started once. -/
theorem enlarges_extensions {core : Tree} (hcore : core.names.Nodup) {extensions : List Extension}
    (h : ∀ e ∈ extensions, e.OnlyDeclares) {c : Context} {w v : Workspace} (hw : core.Heads w.tree)
    (hnames : w.tree.names.Nodup)
    (hrun : (extensions.forM fun e => do Build.note (.extensionStarted e.name); e.generate c).runOn w = (.ok (), v)) :
    Tree.Added core w.tree v.tree ∧ v.calls = w.calls ++ extensions.map fun e => .extensionStarted e.name := by
  induction extensions generalizing w with
  | nil =>
      obtain ⟨-, rfl⟩ := Prod.mk.inj hrun
      exact ⟨.refl, (List.append_nil _).symm⟩
  | cons e rest ih =>
      rw [List.forM_eq_forM, List.forM_cons] at hrun
      obtain ⟨_, u, hfirst, hrest⟩ := runOn_bind_ok.1 hrun
      obtain ⟨_, started, hnote, hgenerate⟩ := runOn_bind_ok.1 hfirst
      obtain rfl : (⟨w.tree, w.journal ++ [.extensionStarted e.name]⟩ : Workspace) = started := (Prod.mk.inj hnote).2
      obtain ⟨hown, hcalls⟩ := h e (.head _) c ⟨w.tree, w.journal ++ [.extensionStarted e.name]⟩ u hnames hgenerate
      have hadded : Tree.Added core w.tree u.tree := hown.of_heads hw hnames
      obtain ⟨hadded', hcalls'⟩ := ih (fun e he => h e (.tail _ he)) (hadded.heads hcore hw)
        (hadded.names_nodup hnames) hrest
      refine ⟨hadded.trans hadded', ?_⟩
      rw [hcalls', hcalls, Workspace.calls, List.filter_append, List.append_assoc]
      rfl

section Runs

variable {s : Schema} {o : Options} {extensions : List Extension} {r : Result}

theorem recasts_bare (p : Plan) : Plan.Recasts .unannotated p { p with extensions := [] } where
  resolver :=
    { registry := rfl
      root := ⟨trivial, rfl⟩
      package := fun _ => ⟨⟨trivial, fun _ _ => rfl⟩, rfl⟩
      place := fun _ => rfl
      primitive := fun _ => rfl
      collection := fun _ => rfl }
  keepLiterals := rfl
  annotated l hl := by
    rw [show Recast.unannotated.literal = EnumLiteral.bare from rfl, bare_annotateAll, EnumLiteral.bare, ← hl]
    rfl

/-- What extensions make of a run: the core that is there before they generate anything, and the run behind it. -/
structure Extended (s : Schema) (o : Options) (extensions : List Extension) (core : Tree) (r : Result) : Prop where
  /-- The run without extensions ends with the core, less the notes on its literals. -/
  alone : (run s o []).outcome = .ok ⟨Recast.unannotated.tree core, r.definitions⟩
  /-- The extensions start on the core and end with the result. -/
  generated : ∃ registry journal, Registry.ofSchema s = .ok registry ∧
    (runExtensions (o.plan s registry extensions .standard) r.definitions).runOn ⟨core, journal⟩ =
      (.ok (), ⟨r.tree, (run s o extensions).journal⟩)
  heads : core.Heads r.tree
  added : Tree.Added core core r.tree
  /-- The enumerations of the core, literal by literal those of the description, carry the notes of all extensions. -/
  annotated : List.Forall₂ (Plan.DeclaredAs extensions) (literalLists (declaredTypes s)) core.enumerations
  calls : (run s o extensions).journal.filter Notice.isCall =
    offersOf extensions core.enumerations ++ extensions.map fun e => .extensionStarted e.name

theorem filter_isCall_aggregationNotices (d : Definitions) : (aggregationNotices d).filter Notice.isCall = [] := by
  simp [aggregationNotices, Notice.isCall]

/-- An extension that notes the constant of every literal and generates nothing. -/
def Extension.constants : Extension where
  name := "Constants"
  annotate literal := [("constant", literal.constant)]
  generate _ := pure ()

theorem Extension.onlyDeclares_constants : Extension.constants.OnlyDeclares :=
  .of_enlarges fun _ _ _ => Enlarges.done ()

end Runs

end TopicBindings.Generation
