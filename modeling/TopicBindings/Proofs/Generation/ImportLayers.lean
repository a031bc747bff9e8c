import Mathlib.Logic.Relation
import TopicBindings.Proofs.Generation.Regular
import TopicBindings.Proofs.Source.Homes

/-!
Which modules a generated module imports when it runs. All but the table of topics need the language alone, and the table
needs the classes of messages besides; whatever else they refer to is imported for type checking. So no generated module
leads back to itself through imports.
-/

namespace TopicBindings.Generation

open Binding (QualifiedName Resolver TypeExpression joinPackage)
open Build (Stage)
open Declaration (Decorator Scope Shape Tree mentions)
open Service (Definitions Role)
open Source (ImportsAtRunTime IsHome IsModule IsPackageFile RelativePath Stands checkingImports modulePath moduleName
  moduleOf moduleText modulesOf opening pathText pieceOf runtimeImports runtimeModules)

def libraryModules : List String :=
  ["dataclasses", "enum", "typing"]

theorem dot_not_mem_library : ∀ m ∈ libraryModules, '.' ∉ m.toList := by
  decide

def topicTable (base : String) : QualifiedName :=
  .inPackage (joinPackage [some base, some TopicLookup.package]) TopicLookup.typeName

section Forms

variable {extensions : List Extension} {home m : String} {d : Declaration}

theorem library_of_shape {shape : Shape} (h : shape = .dataClass ∨ shape = .protocol) :
    (∀ m ∈ modulesOf (shape.decorators.map Decorator.target), m ∈ libraryModules) ∧
      ∀ m ∈ modulesOf (shape.bases.flatMap TypeExpression.references), m ∈ libraryModules := by
  rcases h with rfl | rfl <;> decide

theorem Regular.library (h : Regular extensions d) (hm : m ∈ runtimeModules home d) : m ∈ libraryModules := by
  induction h with
  | type _ hshape _ ih =>
      obtain ⟨hdecorators, hbases⟩ := library_of_shape hshape
      rw [runtimeModules, List.mem_append, List.mem_append] at hm
      rcases hm with (hm | hm) | hm
      · obtain ⟨e, he, hm⟩ := Source.mem_runtimeModulesAll.1 hm
        exact ih e he hm
      · exact hdecorators m hm
      · exact hbases m (List.mem_filter.1 hm).1
  | enumeration =>
      obtain rfl := List.mem_singleton.1 hm
      decide
  | field => cases hm
  | method _ hplain =>
      rw [runtimeModules, hplain] at hm
      cases hm

theorem library_of_runtimeImports (h : Regular extensions d) (hm : m ∈ runtimeImports home d) : m ∈ libraryModules := by
  rcases Source.mem_runtimeImports_iff.1 hm with hm | ⟨rfl, -⟩
  · exact h.library hm
  · decide

/-- The table of topics needs what the guard of its imports is taken from, and the modules of the classes in it. -/
theorem TopicLookup.IsTable.needs {c : Context} {unit : String × Declaration} (h : TopicLookup.IsTable c unit)
    (hm : m ∈ runtimeImports home unit.2) : m = "typing" ∨ ∃ n ∈ mentions unit.2, moduleName n = .ok m ∧
      n.isGenerated = true ∧ n.package = c.resolver.packageName (some Schema.messagesSpace) := by
  obtain ⟨rows, hrows, rfl⟩ := h
  rcases Source.mem_runtimeImports_iff.1 hm with hm | ⟨htyping, -⟩
  · rw [runtimeModules, List.mem_append, List.mem_append] at hm
    rcases hm with (hm | hm) | hm
    -- Of the table only its verbatim lines need modules: that of `ClassVar`, and those of the classes of messages.
    · obtain ⟨e, he, hm⟩ := Source.mem_runtimeModulesAll.1 hm
      obtain rfl := List.mem_singleton.1 he
      obtain ⟨n, hn, hmodule⟩ := Source.mem_modulesOf.1 hm
      have hmention : n ∈ mentions (.raw (TopicLookup.content rows)) := hn
      rcases List.mem_cons.1 hn with rfl | hn
      · exact .inl (Option.some.inj (Except.ok.inj hmodule)).symm
      · obtain ⟨row, hrow, hn⟩ := List.mem_flatMap.1 hn
        obtain ⟨line, hline, rfl⟩ := List.mem_map.1 hn
        obtain ⟨t, -, ref, -, hname⟩ := TopicLookup.name_of_rows hrows hrow hline
        obtain ⟨message, -, hname⟩ := Outcome.bind_ok.1 hname
        have hclass := (Outcome.pure_ok.1 hname).symm
        have hgenerated : line.2.isGenerated = true := by
          rw [hclass]
          simpa [QualifiedName.isGenerated, QualifiedName.inPackage] using
            c.resolver.packageName_ne_empty (show Schema.messagesSpace ≠ "" by decide)
        exact .inr ⟨line.2, List.mem_append_right _ (Declaration.mem_mentionsAll.2 ⟨_, .head _, hmention⟩),
          Source.moduleName_of_moduleOf hgenerated hmodule, hgenerated, by rw [hclass]; rfl⟩
    · cases hm
    · cases hm
  · exact .inl htyping

end Forms

section Packages

namespace Connector

theorem ne_empty_of_mem_packages (c : Connector) {role : Role} {package : String} (h : package ∈ c.packages role) :
    package ≠ "" := by
  rcases List.mem_append.1 h with h | h
  · obtain ⟨label, -, rfl⟩ := List.mem_map.1 h
    rw [versionPackage_eq]
    exact c.resolver.packageName_ne_empty (by simp)
  · obtain rfl := List.mem_singleton.1 h
    exact c.resolver.packageName_ne_empty (by cases role <;> decide)

end Connector

theorem Plan.packages_of_stages {p : Plan} {s : Schema} {d : Definitions} {stages : List Stage}
    (h : p.SchemaStages s d stages) : ∀ stage ∈ stages,
      stage.1 ≠ "" ∧ stage.1 ≠ p.resolver.packageName (some TopicLookup.package) := by
  have hspace : ∀ {space}, space ≠ "" → space ≠ TopicLookup.package → p.resolver.packageName (some space) ≠ "" ∧
      p.resolver.packageName (some space) ≠ p.resolver.packageName (some TopicLookup.package) := fun hne hother =>
    ⟨p.resolver.packageName_ne_empty hne, fun heq => hother (p.resolver.packageName_inj hne (by decide) heq)⟩
  intro stage hstage
  rcases h.origin hstage with ⟨hpackage, -⟩ | ⟨hpackage, -⟩ | ⟨role, -, part, hpart, hstage⟩
  · have hmessages : Schema.messagesSpace ≠ "" ∧ Schema.messagesSpace ≠ TopicLookup.package := by decide
    exact hpackage ▸ hspace hmessages.1 hmessages.2
  · have htypes : Schema.typesSpace ≠ "" ∧ Schema.typesSpace ≠ TopicLookup.package := by decide
    exact hpackage ▸ hspace htypes.1 htypes.2
  · have hmem := Connector.mem_packages_of_rolePackages hpart hstage
    have hrole : ¬ role.packageName.toList <+: TopicLookup.package.toList := by cases role <;> decide
    exact ⟨Connector.ne_empty_of_mem_packages ⟨p.resolver, d⟩ hmem,
      Connector.packages_ne_space ⟨p.resolver, d⟩ (by decide) hrole hmem⟩

end Packages

/-- What a module that is not the table of topics imports: the language when it runs, and each other module of the tree
that it refers to for type checking alone. -/
structure Deferred (t : Tree) (home : String) (d : Declaration) : Prop where
  library : ∀ m ∈ runtimeImports home d, m ∈ libraryModules
  referred : ∀ n ∈ mentions d, n.isGenerated = true → ∃ m, moduleName n = .ok m ∧ (∃ unit ∈ t.units, IsHome unit m) ∧
    (m ≠ home → m ∈ checkingImports home d ∧ m ∉ runtimeImports home d)

/-- How the modules of a rendered tree import each other. -/
structure Layered (base : String) (t : Tree) (files : Entries RelativePath String) : Prop where
  written : ∀ file ∈ files, IsPackageFile file ∨ ∃ unit ∈ t.units, ∃ home piece, IsHome unit home ∧
    pathText file.1 = modulePath home ∧ pieceOf home unit.2 = .ok piece ∧
    file.2 = opening (runtimeImports home unit.2) (checkingImports home unit.2) ++ "\n\n" ++ piece.text ++ "\n"
  others : ∀ unit ∈ t.units, unit.2.qualifiedName? ≠ some (topicTable base) → ∀ home, IsHome unit home →
    Deferred t home unit.2
  table : ∀ unit ∈ t.units, unit.2.qualifiedName? = some (topicTable base) → ∀ home, IsHome unit home →
    ∀ m ∈ runtimeImports home unit.2, m = "typing" ∨
      ∃ other ∈ t.units, other.1 = joinPackage [some base, some Schema.messagesSpace] ∧ IsHome other m
  itself : ∀ unit ∈ t.units, ∀ home, IsHome unit home →
    home ∉ runtimeImports home unit.2 ∧ home ∉ checkingImports home unit.2
  once : ∀ unit ∈ t.units, ∀ home, IsHome unit home → ∀ m ∈ runtimeImports home unit.2,
    m ∈ checkingImports home unit.2 → m = "typing"
  acyclic : ∀ m, ¬ Relation.TransGen (ImportsAtRunTime t) m m

section Results

variable {s : Schema} {o : Options} {extensions : List Extension} {r : Result} {registry : Registry}
  {files : Entries RelativePath String} {unit : String × Declaration} {home m : String}

theorem Built.package_ne_empty (h : Built s o extensions r registry)
    (hextensions : ∀ e ∈ extensions, e = TopicLookup.extension) (hunit : unit ∈ r.tree.units) : unit.1 ≠ "" := by
  rcases h.laid_or_table hextensions unit hunit with ⟨stages, ds, hstages, hds, -⟩ | ⟨-, rows, -, rfl⟩
  · exact (Plan.packages_of_stages hstages _ hds).1
  · exact Resolver.packageName_ne_empty _ (by decide)

theorem Built.exists_stands (h : Built s o extensions r registry)
    (hextensions : ∀ e ∈ extensions, e = TopicLookup.extension) (hrender : Source.render r.tree = .ok files)
    (hunit : unit ∈ r.tree.units) : ∃ file directory stem, Stands unit file directory stem := by
  obtain ⟨file, -, hmodule⟩ := (Source.render_ok hrender).2 unit hunit (h.structured hextensions unit hunit)
  obtain ⟨own, hown⟩ := h.named hextensions unit hunit
  exact ⟨file, Source.stands_of_isModule hmodule (h.package_ne_empty hextensions hunit) hown⟩

theorem Built.regular_or_topicTable (h : Built s o extensions r registry)
    (hextensions : ∀ e ∈ extensions, e = TopicLookup.extension) (hunit : unit ∈ r.tree.units) :
    Regular extensions unit.2 ∧ unit.2.qualifiedName? ≠ some (topicTable (o.effectiveBase s.baseTopic)) ∨
      TopicLookup.IsTable ⟨(o.plan s registry extensions .standard).resolver, r.definitions⟩ unit ∧
        unit.2.qualifiedName? = some (topicTable (o.effectiveBase s.baseTopic)) := by
  rcases h.laid_or_table hextensions unit hunit with ⟨stages, ds, hstages, hds, hd⟩ | ⟨-, htable⟩
  · refine .inl ⟨Plan.regular_stages h.aggregated hstages _ hds _ hd, fun hname => ?_⟩
    obtain ⟨own, hown⟩ := h.named hextensions unit hunit
    have hpackage := congrArg QualifiedName.package (Option.some.inj (hown.symm.trans hname))
    exact (Plan.packages_of_stages hstages _ hds).2 hpackage
  · obtain ⟨rows, hrows, rfl⟩ := htable
    exact .inr ⟨⟨rows, hrows, rfl⟩, rfl⟩

theorem Built.deferred (h : Built s o extensions r registry) (hplaced : s.Placed)
    (hextensions : ∀ e ∈ extensions, e = TopicLookup.extension) (hrender : Source.render r.tree = .ok files)
    (hunit : unit ∈ r.tree.units) (hregular : Regular extensions unit.2) (hhome : IsHome unit home) :
    Deferred r.tree home unit.2 where
  library m hm := library_of_runtimeImports hregular hm
  referred n hn hgenerated := by
    obtain ⟨file, directory, stem, hstands⟩ := h.exists_stands hextensions hrender hunit
    obtain rfl := hhome.unique hstands.home
    obtain ⟨piece, hpiece, -⟩ := Source.moduleText_ok hstands.text
    obtain ⟨m, hm⟩ := Source.exists_module (Source.hasModule_of_piece _ hpiece n hn)
      (Source.origin_of_generated hgenerated).1
    have hmodule := Source.moduleName_of_moduleOf hgenerated hm
    obtain ⟨d, hd, hname⟩ := h.confined hplaced hextensions unit hunit n hn hgenerated
    obtain ⟨other, hother, -, hhome'⟩ := Source.exists_home (h.complete hextensions).1 hd hname hmodule
    obtain ⟨file', directory', stem', hstands'⟩ := h.exists_stands hextensions hrender hother
    have hlate : m ∉ runtimeImports (Text.join "." (directory ++ [stem])) unit.2 := fun hmem =>
      dot_not_mem_library m (library_of_runtimeImports hregular hmem) (hstands'.dot_mem hhome')
    exact ⟨m, hmodule, ⟨other, hother, hhome'⟩, fun hne =>
      ⟨(Source.mem_imports_of_mention hn hm hne).resolve_left hlate, hlate⟩⟩

theorem Built.needs_messages (h : Built s o extensions r registry) (hplaced : s.Placed)
    (hextensions : ∀ e ∈ extensions, e = TopicLookup.extension) (hunit : unit ∈ r.tree.units)
    (htable : TopicLookup.IsTable ⟨(o.plan s registry extensions .standard).resolver, r.definitions⟩ unit)
    (hm : m ∈ runtimeImports home unit.2) : m = "typing" ∨ ∃ other ∈ r.tree.units,
      other.1 = joinPackage [some (o.effectiveBase s.baseTopic), some Schema.messagesSpace] ∧ IsHome other m := by
  refine (htable.needs hm).imp_right fun ⟨n, hn, hmodule, hgenerated, hpackage⟩ => ?_
  obtain ⟨d, hd, hname⟩ := h.confined hplaced hextensions unit hunit n hn hgenerated
  obtain ⟨other, hother, hsame, hhome⟩ := Source.exists_home (h.complete hextensions).1 hd hname hmodule
  exact ⟨other, hother, hsame.trans hpackage, hhome⟩

theorem Built.table_apart (h : Built s o extensions r registry)
    (hextensions : ∀ e ∈ extensions, e = TopicLookup.extension) (hrender : Source.render r.tree = .ok files)
    (hunit : unit ∈ r.tree.units)
    (htable : TopicLookup.IsTable ⟨(o.plan s registry extensions .standard).resolver, r.definitions⟩ unit)
    {other : String × Declaration} (hother : other ∈ r.tree.units)
    (hpackage : other.1 = joinPackage [some (o.effectiveBase s.baseTopic), some Schema.messagesSpace])
    (hhome : IsHome other home) : ¬ IsHome unit home := by
  obtain ⟨file, directory, stem, hstands⟩ := h.exists_stands hextensions hrender hunit
  obtain ⟨file', directory', stem', hstands'⟩ := h.exists_stands hextensions hrender hother
  obtain ⟨rows, -, rfl⟩ := htable
  exact hstands'.apart hstands (r := (o.plan s registry extensions .standard).resolver) hpackage rfl
    (by decide) (by decide) (by decide) hhome

/-- How far a module is from the language: its modules come first, then those of declarations, then the table. -/
def level (base m : String) : Nat :=
  if m ∈ libraryModules then 0
  else if (moduleName (topicTable base)).toOption = some m then 2
  else 1

theorem level_pos (base : String) (hdot : '.' ∈ m.toList) : 0 < level base m := by
  rw [level, if_neg fun hlibrary => dot_not_mem_library m hlibrary hdot]
  split <;> decide

theorem level_le_one {base : String} (h : moduleName (topicTable base) ≠ .ok m) : level base m ≤ 1 := by
  rw [level]
  split
  · decide
  · split
    next hsome =>
      cases hname : moduleName (topicTable base) with
      | error fault => simp [hname, Except.toOption] at hsome
      | ok home =>
          rw [hname] at hsome
          exact absurd (hname.trans (congrArg _ (Option.some.inj hsome))) h
    · exact Nat.le_refl 1

theorem level_table {base : String} (hdot : '.' ∈ m.toList) (h : moduleName (topicTable base) = .ok m) :
    level base m = 2 := by
  rw [level, if_neg fun hlibrary => dot_not_mem_library m hlibrary hdot, h]
  exact if_pos rfl

/-- What a module imports when it runs is nearer to the language. -/
theorem Built.level_lt (h : Built s o extensions r registry) (hplaced : s.Placed)
    (hextensions : ∀ e ∈ extensions, e = TopicLookup.extension) (hrender : Source.render r.tree = .ok files)
    {m' : String} (hstep : ImportsAtRunTime r.tree m m') :
    level (o.effectiveBase s.baseTopic) m' < level (o.effectiveBase s.baseTopic) m := by
  obtain ⟨unit, hunit, hhome, hm'⟩ := hstep
  obtain ⟨file, directory, stem, hstands⟩ := h.exists_stands hextensions hrender hunit
  have hdot := hstands.dot_mem hhome
  have hlibrary : ∀ m' ∈ libraryModules, level (o.effectiveBase s.baseTopic) m' = 0 := fun _ hm => if_pos hm
  rcases h.regular_or_topicTable hextensions hunit with ⟨hregular, -⟩ | ⟨htable, hname⟩
  · rw [hlibrary m' (library_of_runtimeImports hregular hm')]
    exact level_pos _ hdot
  · obtain ⟨name, hname', hmodule⟩ := id hhome
    obtain rfl := Option.some.inj (hname.symm.trans hname')
    rw [level_table hdot hmodule]
    rcases h.needs_messages hplaced hextensions hunit htable hm' with rfl | ⟨other, hother, hpackage, hhome'⟩
    · rw [hlibrary "typing" (by decide)]
      decide
    · have hapart := h.table_apart hextensions hrender hunit htable hother hpackage hhome'
      exact Nat.lt_succ_of_le (level_le_one fun hsame => hapart ⟨_, hname, hsame⟩)

theorem Built.acyclic (h : Built s o extensions r registry) (hplaced : s.Placed)
    (hextensions : ∀ e ∈ extensions, e = TopicLookup.extension) (hrender : Source.render r.tree = .ok files) (m : String) :
    ¬ Relation.TransGen (ImportsAtRunTime r.tree) m m := by
  have hnearer : ∀ {m'}, Relation.TransGen (ImportsAtRunTime r.tree) m m' →
      level (o.effectiveBase s.baseTopic) m' < level (o.effectiveBase s.baseTopic) m := by
    intro m' hpath
    induction hpath with
    | single hstep => exact h.level_lt hplaced hextensions hrender hstep
    | tail _ hstep ih => exact Nat.lt_trans (h.level_lt hplaced hextensions hrender hstep) ih
  exact fun hcycle => Nat.lt_irrefl _ (hnearer hcycle)

end Results

theorem imports_layered {text : String} {s : Schema} {o : Options} {extensions : List Extension} {r : Result}
    {files : Entries RelativePath String} (hread : Schema.ofText text = .ok s)
    (hextensions : ∀ e ∈ extensions, e = TopicLookup.extension) (hrun : (run s o extensions).outcome = .ok r)
    (hfiles : r.files = .ok files) : Layered (o.effectiveBase s.baseTopic) r.tree files := by
  obtain ⟨registry, hbuilt⟩ := built_of_run hrun
  have hplaced := Schema.placed_of_text hread
  have hrender := Outcome.mapError_ok.1 hfiles
  refine ⟨fun file hfile => ?_, fun unit hunit hname home hhome => ?_, fun unit hunit hname home hhome m hm => ?_,
    fun unit hunit home hhome => ⟨fun hitself => ?_, Source.home_not_mem_checkingImports⟩,
    fun _ _ _ _ _ => Source.typing_of_both, hbuilt.acyclic hplaced hextensions hrender⟩
  · refine ((Source.render_ok hrender).1.known file hfile).imp_right fun ⟨unit, hunit, hmodule⟩ => ?_
    obtain ⟨own, hown⟩ := hbuilt.named hextensions unit hunit
    obtain ⟨directory, stem, hstands⟩ :=
      Source.stands_of_isModule hmodule (hbuilt.package_ne_empty hextensions hunit) hown
    obtain ⟨piece, hpiece, htext⟩ := Outcome.bind_ok.1 hstands.text
    refine ⟨unit, hunit, _, piece, hstands.home, ?_, hpiece, (Outcome.pure_ok.1 htext).symm⟩
    rw [hstands.path]
    exact Source.pathText_module hstands.undotted
  · rcases hbuilt.regular_or_topicTable hextensions hunit with ⟨hregular, -⟩ | ⟨-, hsame⟩
    · exact hbuilt.deferred hplaced hextensions hrender hunit hregular hhome
    · exact absurd hsame hname
  · rcases hbuilt.regular_or_topicTable hextensions hunit with ⟨-, hother⟩ | ⟨htable, -⟩
    · exact absurd hname hother
    · exact hbuilt.needs_messages hplaced hextensions hunit htable hm
  · exact hbuilt.acyclic hplaced hextensions hrender home (.single ⟨unit, hunit, hhome, hitself⟩)

theorem imports_layered_sample : ∃ r files, (run .sample sampleOptions [TopicLookup.extension]).outcome = .ok r ∧
    r.files = .ok files ∧ Layered "" r.tree files := by
  obtain ⟨r, files, hr, hfiles⟩ := exists_sample_files
  exact ⟨r, files, hr, hfiles, imports_layered Schema.sample_of_text (by simp) hr hfiles⟩

end TopicBindings.Generation
