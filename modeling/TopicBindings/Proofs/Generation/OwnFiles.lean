import TopicBindings.Proofs.Generation.Operations
import TopicBindings.Proofs.Source.Paths

/-!
A tree that building operations made is rendered into files of its own for every package and every declaration, or not
at all.
-/

namespace TopicBindings.Generation

open Declaration (Scope Tree)
open Source (BelongsAt IsDirectory LaidOut render)

theorem structured_after (ops : List Operation) : (Workspace.empty.after ops).tree.Structured := by
  have hempty : Workspace.empty.tree.Structured := fun _ hunit => absurd hunit List.not_mem_nil
  exact (reached_after ops .empty).structured hempty

theorem files_laid_out {ops : List Operation} {t : Tree} (ht : (Workspace.empty.after ops).tree = t) :
    (∀ files, render t = .ok files → LaidOut t files) ∧
    (∀ (i j : Nat) (unit other : String × Declaration) directory stem, i ≠ j → t.units[i]? = some unit →
      t.units[j]? = some other → BelongsAt unit.1 unit.2 directory stem → BelongsAt other.1 other.2 directory stem →
      ∃ fault, render t = .error fault) ∧
    ∀ unit ∈ t.units, ∀ directory stem, BelongsAt unit.1 unit.2 directory stem →
      IsDirectory t (directory ++ [stem]) → ∃ fault, render t = .error fault := by
  have hunits : t.Structured := ht ▸ structured_after ops
  have hlaid : ∀ files, render t = .ok files → LaidOut t files := fun _ h => Source.laidOut_of_render hunits h
  have hfails : (∀ files, LaidOut t files → False) → ∃ fault, render t = .error fault := by
    intro hnone
    cases hrender : render t with
    | ok files => exact (hnone files (hlaid files hrender)).elim
    | error fault => exact ⟨fault, rfl⟩
  refine ⟨hlaid, fun i j unit other directory stem hne hi hj hunit hother => hfails fun files h => ?_,
    fun unit hunit directory stem hplace hdirectory => hfails fun files h => ?_⟩
  · exact hne (h.place_unique hi hj hunit hother)
  · exact h.apart unit hunit directory stem hplace hdirectory

section Sample

def sampleUnit (package name : String) : Operation :=
  .createType (.ofPackage package) name ⟨none, none⟩ .plain []

def sampleSpelled : Tree :=
  (Workspace.empty.after [.openPackage "1.class", .openPackage "", sampleUnit "1.class" "Device",
    sampleUnit "" "_"]).tree

/-- Two types for one module. -/
def sampleTwins : Tree :=
  (Workspace.empty.after [.openPackage "a", sampleUnit "a" "FooBar", sampleUnit "a" "fooBar"]).tree

/-- A type whose module is called like a package. -/
def sampleShadow : Tree :=
  (Workspace.empty.after [.openPackage "a.device", .openPackage "a", sampleUnit "a" "Device"]).tree

theorem files_laid_out_sample :
    (∃ files, render sampleSpelled = .ok files ∧ LaidOut sampleSpelled files ∧
      files.keys = [["_1", "__init__.py"], ["_1", "class_", "__init__.py"], ["__init__.py"],
        ["_1", "class_", "device.py"], [".py"]]) ∧
    (∃ fault, render sampleTwins = .error fault) ∧ ∃ fault, render sampleShadow = .error fault := by
  refine ⟨?_, ?_, ?_⟩
  · obtain ⟨files, hfiles, hkeys⟩ := Outcome.exists_ok_of_any (x := render sampleSpelled)
      (p := fun files => files.keys == [["_1", "__init__.py"], ["_1", "class_", "__init__.py"], ["__init__.py"],
        ["_1", "class_", "device.py"], [".py"]]) (by decide +kernel)
    exact ⟨files, hfiles, (files_laid_out rfl).1 files hfiles, beq_iff_eq.1 hkeys⟩
  · refine (files_laid_out rfl).2.1 0 1 _ _ ["a"] "foo_bar" (by decide) rfl rfl ?_ ?_
    · exact ⟨_, ["a", "foo_bar"], rfl, by decide +kernel, by decide +kernel, rfl⟩
    · exact ⟨_, ["a", "foo_bar"], rfl, by decide +kernel, by decide +kernel, rfl⟩
  · refine (files_laid_out rfl).2.2 _ (.head _) ["a"] "device" ⟨_, ["a", "device"], rfl, by decide +kernel, by decide +kernel, rfl⟩ ?_
    refine ⟨"a.device", .head _, ?_⟩
    rw [Source.OpenedBy, if_neg (by decide)]
    exact ⟨["a", "device"], List.cons_ne_nil _ _, ⟨[], by decide +kernel⟩, by decide +kernel⟩

end Sample

end TopicBindings.Generation
