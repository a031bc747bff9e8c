import TopicBindings.Proofs.Generation.Built
import TopicBindings.Proofs.Generation.Repeats
import TopicBindings.Proofs.Naming.Initials

/-!
The base package only says where the output stands. Two runs that differ in it both succeed or fail alike, and where
they succeed the one tree is the other one moved from the first base package to the second.
-/

namespace TopicBindings

open Binding (QualifiedName Resolver TypeTable joinPackage)
open Declaration (Recast)

namespace Binding

/-- The name of a package in which one base package takes the place of another. -/
def relocatePackage (base base' package : String) : String :=
  if base = "" then joinPackage [some base', some package]
  else if package = base then base'
  else if (base ++ ".").toList <+: package.toList then
    joinPackage [some base', some (String.ofList (package.toList.drop (base ++ ".").toList.length))]
  else package

def builtins : List QualifiedName :=
  [.builtin "bool", .builtin "int", .builtin "float", .builtin "str", .builtin "set", .builtin "list"]

/-- Imported and built-in names stay; a generated one moves to the package that takes the place of its own. -/
def relocateName (base base' : String) (n : QualifiedName) : QualifiedName :=
  if n.importedFrom.isSome ∨ n ∈ builtins then n
  else { n with package := relocatePackage base base' n.package }

section Packages

variable {base base' : String}

theorem joinPackage_base (base package : String) : joinPackage [some base, some package] =
    if package = "" then base else if base = "" then package else base ++ "." ++ package := by
  by_cases hpackage : package = ""
  · subst hpackage
    by_cases hbase : base = ""
    · rw [if_pos rfl, hbase]
      rfl
    · simp [joinPackage, hbase]
  · rw [if_neg hpackage]
    by_cases hbase : base = ""
    · rw [if_pos hbase, hbase, joinPackage_inner hpackage]
    · rw [if_neg hbase, joinPackage_pair hbase hpackage]

theorem relocatePackage_join (base base' package : String) :
    relocatePackage base base' (joinPackage [some base, some package]) =
      joinPackage [some base', some package] := by
  rw [relocatePackage]
  by_cases hbase : base = ""
  · rw [if_pos hbase, hbase, joinPackage_base "", if_pos rfl]
    by_cases hpackage : package = "" <;> simp [hpackage]
  · rw [if_neg hbase, joinPackage_base base, if_neg hbase]
    by_cases hpackage : package = ""
    · rw [if_pos hpackage, if_pos rfl, joinPackage_base, if_pos hpackage]
    · have hlonger : base ++ "." ++ package ≠ base := fun heq => by
        simpa using congrArg String.toList heq
      have hlist : (base ++ "." ++ package).toList = (base ++ ".").toList ++ package.toList := String.toList_append
      rw [if_neg hpackage, if_neg hlonger, hlist, if_pos (List.prefix_append _ _), List.drop_left,
        String.ofList_toList]

theorem joinPackage_inj {package other : String}
    (h : joinPackage [some base, some package] = joinPackage [some base, some other]) : package = other := by
  have hback : ∀ name, relocatePackage base "" (joinPackage [some base, some name]) = name := by
    intro name
    rw [relocatePackage_join, joinPackage_base]
    by_cases hname : name = "" <;> simp [hname]
  rw [← hback package, h, hback]

theorem relocatePackage_inj {package other : String} (h : ∃ inner, package = joinPackage [some base, some inner])
    (h' : ∃ inner, other = joinPackage [some base, some inner])
    (heq : relocatePackage base base' package = relocatePackage base base' other) : package = other := by
  obtain ⟨inner, rfl⟩ := h
  obtain ⟨inner', rfl⟩ := h'
  rw [relocatePackage_join, relocatePackage_join] at heq
  rw [joinPackage_inj heq]

end Packages

section Names

variable {base base' : String}

theorem relocateName_name (n : QualifiedName) : (relocateName base base' n).name = n.name := by
  rw [relocateName]
  split <;> rfl

theorem relocateName_external (origin own : String) :
    relocateName base base' (.external origin own) = .external origin own :=
  if_pos (.inl rfl)

theorem relocateName_builtin {n : QualifiedName} (h : n ∈ builtins) : relocateName base base' n = n :=
  if_pos (.inr h)

theorem relocateName_generated {n : QualifiedName} (himported : n.importedFrom = none) (hbuiltin : n ∉ builtins) :
    relocateName base base' n = { n with package := relocatePackage base base' n.package } :=
  if_neg (by simp [himported, hbuiltin])

theorem package_of_builtin {n : QualifiedName} (h : n ∈ builtins) : n.package = "" := by
  simp only [builtins, List.mem_cons, List.not_mem_nil, or_false] at h
  rcases h with rfl | rfl | rfl | rfl | rfl | rfl <;> rfl

theorem typeName_not_builtin (package own : String) (enclosing : List String) :
    (⟨package, Naming.typeName own, enclosing, none⟩ : QualifiedName) ∉ builtins := by
  intro hmem
  have hnames : ∀ n ∈ builtins, Naming.typeName own ≠ n.name := by
    simp only [builtins, List.forall_mem_cons]
    refine ⟨?_, ?_, ?_, ?_, ?_, ?_, by simp⟩ <;>
      exact Naming.typeName_ne_of_small (by decide +kernel) (by decide +kernel) own
  exact hnames _ hmem rfl

end Names

end Binding

namespace Declaration.Recast

def relocation (base base' : String) : Recast where
  package := Binding.relocatePackage base base'
  name := Binding.relocateName base base'
  literal := id
  Known package := ∃ inner, package = joinPackage [some base, some inner]
  package_inj := Binding.relocatePackage_inj
  name_own := Binding.relocateName_name
  name_external := Binding.relocateName_external

end Declaration.Recast

namespace Binding.Resolver

theorem recasts_relocation (registry : Registry) (base base' : String) :
    Recasts (.relocation base base') ⟨registry, base, .standard⟩ ⟨registry, base', .standard⟩ where
  registry := rfl
  root := by
    have hroot : ∀ base, joinPackage [some base, none] = joinPackage [some base, some ""] := by
      intro base
      by_cases hbase : base = "" <;> simp [joinPackage, hbase]
    refine ⟨⟨"", hroot base⟩, ?_⟩
    show joinPackage [some base', none] = relocatePackage base base' (joinPackage [some base, none])
    rw [hroot, hroot, relocatePackage_join]
  package {package} hpackage := by
    have hmoved := relocatePackage_join base base' package
    refine ⟨⟨⟨package, rfl⟩, fun own path => relocateName_generated rfl fun hbuiltin => ?_⟩, hmoved.symm⟩
    exact packageName_ne_empty _ hpackage (package_of_builtin hbuiltin)
  place place := by
    refine (relocateName_generated rfl (typeName_not_builtin _ _ _)).trans ?_
    simp only [placeName, packageName, relocatePackage_join]
  primitive kind := by
    show relocateName base base' (TypeTable.standardPrimitive kind) = TypeTable.standardPrimitive kind
    cases kind with
    | datetime => exact relocateName_external _ _
    | _ => exact relocateName_builtin (by decide)
  collection unique := by
    show relocateName base base' (if unique then .builtin "set" else .builtin "list") =
      if unique then .builtin "set" else .builtin "list"
    cases unique <;> exact relocateName_builtin (by decide)

end Binding.Resolver

def Schema.based (s : Schema) (baseTopic : Option String) : Schema :=
  { s with baseTopic }

namespace Generation

def Options.based (o : Options) (basePackage : Option String) : Options :=
  { o with basePackage }

def Result.relocate (base base' : String) (r : Result) : Result :=
  { r with tree := (Recast.relocation base base').tree r.tree }

theorem problems_of_valid_base {o : Options} {baseTopic : Option String}
    (h : ∀ name, Problem.invalidBasePackage name ∉ o.problems baseTopic) :
    o.problems baseTopic = (if o.targetPath.isNone then [.noTarget] else []) ++
      (if (File.CharacterSet.ofName? o.characterSet).isNone then [.unknownCharacterSet o.characterSet] else []) := by
  rw [Options.problems] at h ⊢
  by_cases hinvalid : (!(o.effectiveBase baseTopic).isEmpty &&
      !Source.isPackageName (o.effectiveBase baseTopic)) = true
  · rw [if_pos hinvalid] at h
    exact absurd (List.mem_append_right _ (.head _)) (h _)
  · rw [if_neg hinvalid, List.append_nil]

section Runs

variable {s : Schema} {o : Options} {b b' t t' : Option String} {base base' : String}

/-- Base packages that are not complained about lead to the same verdict on the settings. -/
theorem check_of_valid_base (h : ∀ name, Problem.invalidBasePackage name ∉ (o.based b).problems t)
    (h' : ∀ name, Problem.invalidBasePackage name ∉ (o.based b').problems t') :
    (o.based b).check t = (o.based b').check t' := by
  rw [Options.check, Options.check, problems_of_valid_base h, problems_of_valid_base h']
  rfl

theorem recasts_plan (hbase : (o.based b).effectiveBase t = base) (hbase' : (o.based b').effectiveBase t' = base')
    (registry : Registry) :
    Plan.Recasts (.relocation base base') ((o.based b).plan (s.based t) registry [] .standard)
      ((o.based b').plan (s.based t') registry [] .standard) where
  resolver := by
    have hrecasts := Resolver.recasts_relocation registry base base'
    subst hbase hbase'
    exact hrecasts
  keepLiterals := rfl
  annotated _ _ := rfl

theorem repeats_build (h : ∀ name, Problem.invalidBasePackage name ∉ (o.based b).problems t)
    (h' : ∀ name, Problem.invalidBasePackage name ∉ (o.based b').problems t')
    (hbase : (o.based b).effectiveBase t = base) (hbase' : (o.based b').effectiveBase t' = base') :
    Repeats (.relocation base base') (build (s.based t) (o.based b) [] .standard)
      (build (s.based t') (o.based b') [] .standard) := by
  have hcheck : (o.based b).check (s.based t).baseTopic = (o.based b').check (s.based t').baseTopic :=
    check_of_valid_base h h'
  rw [build, build, hcheck]
  refine Parallel.ofExcept_bind (fun _ hchecked => ⟨(), hchecked, ?_⟩) fun fault hfault => ⟨fault, hfault, rfl⟩
  refine Parallel.ofExcept_bind (fun registry hregistry => ⟨registry, hregistry, ?_⟩)
    fun fault hfault => ⟨fault, hfault, rfl⟩
  refine Parallel.ofExcept_bind (fun d hd => ⟨d, hd, ?_⟩) fun fault hfault => ⟨fault, hfault, rfl⟩
  refine Parallel.seq (Parallel.notes Repeats.onTrees _ _) fun _ _ => ?_
  refine Parallel.seq (repeats_schema (recasts_plan hbase hbase' registry) (s.based t) d) fun _ _ => ?_
  exact Parallel.seq (Parallel.done PUnit.unit PUnit.unit) fun _ _ => Parallel.done _ _

/-- A run under another valid base package fails for the same reason, or succeeds with the same output in the other
place. -/
theorem base_package_relocates (h : ∀ name, Problem.invalidBasePackage name ∉ (o.based b).problems t)
    (h' : ∀ name, Problem.invalidBasePackage name ∉ (o.based b').problems t')
    (hbase : (o.based b).effectiveBase t = base) (hbase' : (o.based b').effectiveBase t' = base') :
    (run (s.based t') (o.based b') []).outcome =
      ((run (s.based t) (o.based b) []).outcome.map (Result.relocate base base')).mapError
        (recastFailure (.relocation base base')) := by
  obtain ⟨⟨-, htree⟩, hverdict⟩ :=
    repeats_build (s := s) h h' hbase hbase' .empty .empty ⟨Recast.Fits.empty, rfl⟩
  have haggregated : ∀ b t r, (run (s.based t) (o.based b) []).outcome = .ok r →
      Service.aggregate s.topics o.validateTopics = .ok r.definitions := fun b t r hrun => by
    obtain ⟨registry, hbuilt⟩ := built_of_run hrun
    exact hbuilt.aggregated
  have hfirst := haggregated b t
  have hsecond := haggregated b' t'
  rw [run] at hfirst hsecond ⊢
  rw [run]
  generalize (build (s.based t) (o.based b) [] .standard).runOn .empty = first at hfirst htree hverdict ⊢
  generalize (build (s.based t') (o.based b') [] .standard).runOn .empty = second at hsecond htree hverdict ⊢
  obtain ⟨e | d, v⟩ := first
  · obtain ⟨e' | d', v'⟩ := second
    · exact congrArg Except.error (Except.error.inj hverdict)
    · cases hverdict
  · obtain ⟨e' | d', v'⟩ := second
    · cases hverdict
    · obtain rfl : d' = d := Except.ok.inj ((hsecond _ rfl).symm.trans (hfirst _ rfl))
      exact congrArg (fun tree => Except.ok (Result.mk tree d')) htree

theorem base_package_relocates_sample : ∃ r r',
    (run Schema.sample (sampleOptions.based none) []).outcome = .ok r ∧
      (run Schema.sample (sampleOptions.based (some "acme.api")) []).outcome = .ok r' ∧
      r' = r.relocate "" "acme.api" := by
  obtain ⟨r, hr⟩ : ∃ r, (run Schema.sample (sampleOptions.based none) []).outcome = .ok r :=
    Outcome.exists_ok_of_isSome (by decide +kernel)
  have hnone : (sampleOptions.based none).problems none = [] := by decide +kernel
  have hsome : (sampleOptions.based (some "acme.api")).problems none = [] := by decide +kernel
  have hmoved : (run (Schema.sample.based none) (sampleOptions.based (some "acme.api")) []).outcome =
      ((run (Schema.sample.based none) (sampleOptions.based none) []).outcome.map
        (Result.relocate "" "acme.api")).mapError (recastFailure (.relocation "" "acme.api")) :=
    base_package_relocates (t := none) (by simp [hnone]) (by simp [hsome]) (by decide) (by decide)
  have hrun : (run (Schema.sample.based none) (sampleOptions.based none) []).outcome = .ok r := hr
  rw [hrun] at hmoved
  exact ⟨r, _, hr, hmoved, rfl⟩

end Runs

end Generation

end TopicBindings
