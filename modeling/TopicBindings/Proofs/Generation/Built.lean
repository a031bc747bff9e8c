import TopicBindings.Proofs.Generation.Interfaces
import TopicBindings.Proofs.Generation.Outline
import TopicBindings.Proofs.Schema.Places

/-!
A successful run from the description to the tree: the checks succeed, and the tree holds, package by
package, what the stages of the run put there.
-/

namespace TopicBindings.Generation

open Binding (TypeTable)
open Build (Lays Stage Stages Yields chained_extends chained_stages under)
open Declaration (Scope Tree)
open Schema (Message SchemaType)
open Service (Definitions Role)

namespace Plan

def messagesPackage (p : Plan) : String :=
  p.resolver.packageName (some Schema.messagesSpace)

def typesPackage (p : Plan) : String :=
  p.resolver.packageName (some Schema.typesSpace)

def SchemaStages (p : Plan) (s : Schema) (d : Definitions) (stages : List Stage) : Prop :=
  ∃ messages types roles,
    Each (fun entry : String × Message => p.MessageClass (.ofPackage p.messagesPackage) entry.2)
      (allMessages s) messages ∧
    Each (fun type : Schema.DeclaredType => p.Inline (.ofPackage p.typesPackage) type.val)
      s.types types ∧
    Each (Connector.mk p.resolver d).RolePackages Role.all roles ∧
    stages = (p.messagesPackage, messages) :: (p.typesPackage, types) :: roles

/-- A stage of a description is that of its messages, that of its components, or one of a role. -/
theorem SchemaStages.origin {p : Plan} {s : Schema} {d : Definitions} {stages : List Stage}
    (h : p.SchemaStages s d stages) {stage : Stage} (hstage : stage ∈ stages) :
    (stage.1 = p.messagesPackage ∧ ∀ e ∈ stage.2, ∃ entry ∈ allMessages s, ∃ part,
        p.MessageClass (.ofPackage p.messagesPackage) entry.2 part ∧ e ∈ part) ∨
      (stage.1 = p.typesPackage ∧ ∀ e ∈ stage.2, ∃ type ∈ s.types, ∃ part,
        p.Inline (.ofPackage p.typesPackage) type.val part ∧ e ∈ part) ∨
      ∃ role ∈ Role.all, ∃ part, (Connector.mk p.resolver d).RolePackages role part ∧ stage ∈ part := by
  obtain ⟨messages, types, roles, hmessages, htypes, hroles, rfl⟩ := h
  rcases List.mem_cons.1 hstage with rfl | hstage
  · exact .inl ⟨rfl, fun e he => hmessages.exists_of_mem he⟩
  · rcases List.mem_cons.1 hstage with rfl | hstage
    · exact .inr (.inl ⟨rfl, fun e he => htypes.exists_of_mem he⟩)
    · exact .inr (.inr (hroles.exists_of_mem hstage))

theorem lays_types (p : Plan) (s : Schema) (d : Definitions) :
    Lays (do
      let types ← Build.openPackage p.typesPackage
      s.types.forM fun type => p.createComponent types type.val
      Role.all.forM (Connector.mk p.resolver d).assemble)
      (fun stages => ∃ types roles,
        Each (fun type : Schema.DeclaredType => p.Inline (.ofPackage p.typesPackage) type.val)
          s.types types ∧
        Each (Connector.mk p.resolver d).RolePackages Role.all roles ∧
        stages = (p.typesPackage, types) :: roles) := by
  refine Build.lays_package_before _ ?_ ?_
  · exact Yields.forM (chained_extends _) fun type _ => p.adds_component _ type.val
  · exact Yields.forM chained_stages fun role _ => Connector.lays_assemble _ role

theorem lays_messages (p : Plan) (s : Schema) (d : Definitions) :
    Lays (do
      let messages ← Build.openPackage p.messagesPackage
      (allMessages s).forM fun (_, message) => p.createMessage messages message
      let types ← Build.openPackage p.typesPackage
      s.types.forM fun type => p.createComponent types type.val
      Role.all.forM (Connector.mk p.resolver d).assemble) (p.SchemaStages s d) := by
  have hmessages : ∀ scope, Build.Adds
      ((allMessages s).forM fun (_, message) => p.createMessage scope message) scope
      (Each (fun entry : String × Message => p.MessageClass scope entry.2) (allMessages s)) :=
    fun scope => Yields.forM (chained_extends _) fun entry _ => p.adds_message scope entry.2
  refine Yields.mono (Build.lays_package_before _ (hmessages _) (p.lays_types s d)) ?_
  rintro stages ⟨messages, others, hmessages, ⟨types, roles, htypes, hroles, rfl⟩, rfl⟩
  exact ⟨messages, types, roles, hmessages, htypes, hroles, rfl⟩

theorem lays_schema (p : Plan) (s : Schema) (d : Definitions) :
    Lays (declareSchema s p d) (p.SchemaStages s d) :=
  Build.lays_opened (Yields.after chained_stages (Build.lays_metadata _ _) fun _ =>
    p.lays_messages s d)

def ExtensionStages (p : Plan) (d : Definitions) : List Stage → Prop :=
  Each (fun _ => TopicLookup.Table ⟨p.resolver, d⟩) p.extensions

theorem lays_extensions {p : Plan} (h : ∀ e ∈ p.extensions, e = TopicLookup.extension)
    (d : Definitions) : Lays (runExtensions p d) (p.ExtensionStages d) := by
  refine Yields.forM chained_stages fun e he => ?_
  obtain rfl := h e he
  exact Yields.after chained_stages (Yields.note chained_stages _) fun _ => TopicLookup.lays_table _

end Plan

/-- What is known of a successful run, up to its extensions and with them. -/
structure Built (s : Schema) (o : Options) (extensions : List Extension) (r : Result)
    (registry : Registry) : Prop where
  checked : o.check s.baseTopic = .ok ()
  registered : Registry.ofSchema s = .ok registry
  aggregated : Service.aggregate s.topics o.validateTopics = .ok r.definitions
  laid : ∃ stages, (o.plan s registry extensions .standard).SchemaStages s r.definitions stages
  complete : (∀ e ∈ extensions, e = TopicLookup.extension) → r.tree.Sound ∧ ∃ stages extras,
    (o.plan s registry extensions .standard).SchemaStages s r.definitions stages ∧
    (o.plan s registry extensions .standard).ExtensionStages r.definitions extras ∧
    ∀ package, r.tree.members (.ofPackage package) = under package (stages ++ extras)

/-- A run that comes to its end: what it declares for the description, and what its extensions make of that. -/
structure Finished (s : Schema) (o : Options) (extensions : List Extension) (registry : Registry) (d : Definitions)
    (core w : Workspace) : Prop where
  checked : o.check s.baseTopic = .ok ()
  registered : Registry.ofSchema s = .ok registry
  aggregated : Service.aggregate s.topics o.validateTopics = .ok d
  declared : (declareSchema s (o.plan s registry extensions .standard) d).runOn ⟨.empty, aggregationNotices d⟩ =
    (.ok (), core)
  extended : (runExtensions (o.plan s registry extensions .standard) d).runOn core = (.ok (), w)

section Runs

variable {s : Schema} {o : Options} {extensions : List Extension} {r : Result}

theorem run_of_finished {registry : Registry} {d : Definitions} {core w : Workspace}
    (h : Finished s o extensions registry d core w) : run s o extensions = ⟨.ok ⟨w.tree, d⟩, w.journal⟩ := by
  have hbuild : (build s o extensions .standard).runOn .empty = (.ok d, w) := by
    refine Build.runOn_bind_ok.2 ⟨(), _, Build.runOn_ofExcept_ok.2 ⟨h.checked, rfl⟩, ?_⟩
    refine Build.runOn_bind_ok.2 ⟨registry, _, Build.runOn_ofExcept_ok.2 ⟨h.registered, rfl⟩, ?_⟩
    refine Build.runOn_bind_ok.2 ⟨d, _, Build.runOn_ofExcept_ok.2 ⟨h.aggregated, rfl⟩, ?_⟩
    refine Build.runOn_bind_ok.2 ⟨(), _, Build.runOn_notes _ _, ?_⟩
    refine Build.runOn_bind_ok.2 ⟨(), core, h.declared, ?_⟩
    exact Build.runOn_bind_ok.2 ⟨(), w, h.extended, rfl⟩
  rw [run, hbuild]
  rfl

theorem finished_of_run (h : (run s o extensions).outcome = .ok r) : ∃ registry core,
    Finished s o extensions registry r.definitions core ⟨r.tree, (run s o extensions).journal⟩ := by
  simp only [run] at h ⊢
  rcases hb : (build s o extensions .standard).runOn .empty with ⟨_ | d, w⟩
  · rw [hb] at h
    cases h
  rw [hb] at h
  obtain rfl := Except.ok.inj h
  -- The steps of a run one by one; the first ones leave the workspace as it is.
  obtain ⟨_, u₁, hcheck, hb⟩ := Build.runOn_bind_ok.1 hb
  obtain ⟨hchecked, rfl⟩ := Build.runOn_ofExcept_ok.1 hcheck
  obtain ⟨registry, u₂, hregistry, hb⟩ := Build.runOn_bind_ok.1 hb
  obtain ⟨hregistered, rfl⟩ := Build.runOn_ofExcept_ok.1 hregistry
  obtain ⟨d', u₃, haggregate, hb⟩ := Build.runOn_bind_ok.1 hb
  obtain ⟨haggregated, rfl⟩ := Build.runOn_ofExcept_ok.1 haggregate
  obtain ⟨_, u₄, hnotes, hb⟩ := Build.runOn_bind_ok.1 hb
  obtain ⟨core, u₅, hschema, hb⟩ := Build.runOn_bind_ok.1 hb
  obtain ⟨_, u₆, hextensions, hb⟩ := Build.runOn_bind_ok.1 hb
  obtain ⟨hd, rfl⟩ := Prod.mk.inj hb
  obtain rfl := Except.ok.inj hd
  rw [Build.runOn_notes] at hnotes
  obtain ⟨-, rfl⟩ := Prod.mk.inj hnotes
  exact ⟨registry, u₅, hchecked, hregistered, haggregated, hschema, hextensions⟩

theorem built_of_run (h : (run s o extensions).outcome = .ok r) : ∃ registry, Built s o extensions r registry := by
  obtain ⟨registry, core, hrun⟩ := finished_of_run h
  obtain ⟨stages, hstages, hlaid, hsound⟩ := Plan.lays_schema _ s r.definitions _ _ _ Tree.Sound.empty hrun.declared
  refine ⟨registry, hrun.checked, hrun.registered, hrun.aggregated, ⟨stages, hstages⟩, fun hext => ?_⟩
  obtain ⟨extras, hextras, hadded, hsound⟩ := Plan.lays_extensions hext r.definitions _ _ _ hsound hrun.extended
  refine ⟨hsound, stages, extras, hstages, hextras, fun package => ?_⟩
  have hstart : Tree.empty.members (.ofPackage package) = [] := rfl
  rw [hadded package, hlaid package, hstart, Build.under_append]
  rfl

end Runs

theorem mem_units_of_laid {t : Tree} {stages : List Stage} (ht : t.Sound)
    (h : ∀ package, t.members (.ofPackage package) = under package stages) {package : String}
    {d : Declaration} : (package, d) ∈ t.units ↔ ∃ ds, (package, ds) ∈ stages ∧ d ∈ ds := by
  rw [ht.mem_units, h, Build.mem_under]

theorem mem_nodes_of_laid {t : Tree} {stages : List Stage} (ht : t.Sound)
    (h : ∀ package, t.members (.ofPackage package) = under package stages) {d : Declaration} :
    d ∈ t.nodes ↔ ∃ stage ∈ stages, d ∈ Declaration.nodesAll stage.2 := by
  rw [Tree.mem_nodes_iff]
  constructor
  · rintro ⟨⟨package, e⟩, he, hd⟩
    obtain ⟨ds, hds, he⟩ := (mem_units_of_laid ht h).1 he
    exact ⟨(package, ds), hds, Declaration.mem_nodesAll.2 ⟨e, he, hd⟩⟩
  · rintro ⟨⟨package, ds⟩, hds, hd⟩
    obtain ⟨e, he, hd⟩ := Declaration.mem_nodesAll.1 hd
    exact ⟨(package, e), (mem_units_of_laid ht h).2 ⟨ds, hds, he⟩, hd⟩

def sampleOptions : Options :=
  { Options.default with targetPath := some (File.Path.ofText "out") }

theorem exists_files_of_isSome {s : Schema} {o : Options} {extensions : List Extension}
    (h : ((run s o extensions).outcome >>= Result.files).toOption.isSome = true) :
    ∃ r files, (run s o extensions).outcome = .ok r ∧ r.files = .ok files := by
  obtain ⟨files, h⟩ := Outcome.exists_ok_of_isSome h
  obtain ⟨r, hr, hfiles⟩ := Outcome.bind_ok.1 h
  exact ⟨r, files, hr, hfiles⟩

theorem exists_sample_files :
    ∃ r files, (run .sample sampleOptions [TopicLookup.extension]).outcome = .ok r ∧ r.files = .ok files :=
  exists_files_of_isSome (by decide +kernel)

theorem exists_sample_run : ∃ r, (run .sample sampleOptions [TopicLookup.extension]).outcome = .ok r := by
  obtain ⟨r, -, hr, -⟩ := exists_sample_files
  exact ⟨r, hr⟩

end TopicBindings.Generation
