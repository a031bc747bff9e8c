import TopicBindings.Proofs.Declaration.Search
import TopicBindings.Proofs.Generation.Operations

/-!
Looking up what building operations declared. A declaration is found by its name unless an earlier one shares the dotted
text of that name; texts are shared only where names hold dots or are empty, or where a package is called like a type.
-/

namespace TopicBindings.Generation

open Binding (QualifiedName)
open Declaration (Scope Tree)

/-- What looking names up in a tree gives. The declarations are in the order of a search: packages as they were first
used, and a type before those inside it. -/
structure FindsDeclared (t : Tree) : Prop where
  distinct : (t.nodes.filterMap Declaration.qualifiedName?).Nodup
  found : ∀ before d after, t.nodes = before ++ d :: after → ∃ name, d.qualifiedName? = some name ∧
    (t.find? name.toText = some d ↔ ∀ e ∈ before, e.dottedName? ≠ some name.toText)
  named : ∀ wanted d, t.find? wanted = some d → d ∈ t.nodes ∧ d.dottedName? = some wanted
  absent : ∀ wanted, t.find? wanted = none ↔ ∀ d ∈ t.nodes, d.dottedName? ≠ some wanted
  unambiguous : t.Unambiguous → ∀ d ∈ t.nodes, ∃ name, d.qualifiedName? = some name ∧ t.find? name.toText = some d

theorem declarations_found (ops : List Operation) : FindsDeclared (Workspace.empty.after ops).tree := by
  have hempty : Workspace.empty.tree.Sound := .empty
  have hsound := sound_after hempty ops
  refine ⟨hsound.nodup_names, fun before d after hnodes => ?_, fun _ _ => Tree.mem_of_find?,
    fun _ => Tree.find?_eq_none, fun hu d hd => ?_⟩
  · obtain ⟨name, hname⟩ := hsound.exists_name (hnodes ▸ List.mem_append_right _ (.head _) : d ∈ _)
    exact ⟨name, hname, hsound.find?_eq_some hnodes hname⟩
  · obtain ⟨name, hname⟩ := hsound.exists_name hd
    exact ⟨name, hname, hu.find?_eq_some hsound hd hname⟩

section Sample

def sampleNested (package : String) : List Operation :=
  [.openPackage package, .createType (.ofPackage package) "B" ⟨none, none⟩ .plain
    [.createEnum ((Scope.ofPackage package).child "B") "C" ⟨none, none⟩ ["red"] false id]]

def sampleApart : Tree :=
  (Workspace.empty.after (sampleNested "a.b")).tree

/-- A type in the package `a.B`, then an enumeration of the same name in the type `B` of the package `a`. -/
def sampleShared : Tree :=
  (Workspace.empty.after ([.openPackage "a.B", .createType (.ofPackage "a.B") "C" ⟨none, none⟩ .plain []] ++
    sampleNested "a")).tree

theorem declarations_found_sample :
    sampleApart.Unambiguous ∧ (∀ d ∈ sampleApart.nodes, ∃ name, d.qualifiedName? = some name ∧
      sampleApart.find? name.toText = some d) ∧ sampleApart.find? "a.b.C" = none := by
  have hsteps : ∀ name ∈ sampleApart.nodes.filterMap Declaration.qualifiedName?, QualifiedName.IsStep name.name := by
    decide +kernel
  have hu : sampleApart.Unambiguous :=
    ⟨fun d hd name hname => hsteps name (List.mem_filterMap.2 ⟨d, hd, hname⟩), by decide +kernel⟩
  exact ⟨hu, (declarations_found _).unambiguous hu, ((declarations_found _).absent "a.b.C").2 (by decide +kernel)⟩

theorem shared_name_finds_first :
    ∃ d ∈ sampleShared.nodes, d.qualifiedName? = some ⟨"a", "C", ["B"], none⟩ ∧
      sampleShared.find? (QualifiedName.mk "a" "C" ["B"] none).toText ≠ some d := by
  have hmem : some ⟨"a", "C", ["B"], none⟩ ∈ sampleShared.nodes.map Declaration.qualifiedName? := by decide +kernel
  have hfirst : (sampleShared.find? (QualifiedName.mk "a" "C" ["B"] none).toText).bind Declaration.qualifiedName? =
      some ⟨"a.B", "C", [], none⟩ := by decide +kernel
  obtain ⟨d, hd, hname⟩ := List.mem_map.1 hmem
  refine ⟨d, hd, hname, fun hfound => ?_⟩
  rw [hfound, Option.bind_some, hname] at hfirst
  exact absurd hfirst (by decide)

end Sample

end TopicBindings.Generation
