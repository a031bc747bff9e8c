import TopicBindings.Proofs.Binding.Packages
import TopicBindings.Proofs.Source.Imports
import TopicBindings.Proofs.Source.Location
import TopicBindings.Proofs.Source.Members
import TopicBindings.Proofs.Text.Fields

/-!
The modules of declarations, by their dotted names. The name of a module begins with the package that it is in, so that
it is none of the modules of the language, and modules of different packages below one base package have different names.
-/

namespace TopicBindings.Source

open Binding (QualifiedName)
open Declaration (Scope Tree)

def IsHome (unit : String × Declaration) (home : String) : Prop :=
  ∃ name, unit.2.qualifiedName? = some name ∧ moduleName name = .ok home

theorem IsHome.unique {unit : String × Declaration} {home other : String} (h : IsHome unit home)
    (h' : IsHome unit other) : home = other := by
  obtain ⟨name, hname, hhome⟩ := h
  obtain ⟨name', hname', hother⟩ := h'
  obtain rfl := Option.some.inj (hname.symm.trans hname')
  exact Except.ok.inj (hhome.symm.trans hother)

def ImportsAtRunTime (t : Tree) (m m' : String) : Prop :=
  ∃ unit ∈ t.units, IsHome unit m ∧ m' ∈ runtimeImports m unit.2

section Dots

variable {directory : RelativePath} {stem : String}

theorem dot_mem_join (hne : directory ≠ []) (stem : String) : '.' ∈ (Text.join "." (directory ++ [stem])).toList := by
  obtain ⟨first, rest, rfl⟩ := List.exists_cons_of_ne_nil hne
  obtain ⟨next, more, hmore⟩ :=
    List.exists_cons_of_ne_nil (List.append_ne_nil_of_right_ne_nil rest (List.cons_ne_nil stem []))
  rw [Text.join_eq_intercalate, List.cons_append, hmore, String.intercalate_cons_cons]
  simp

theorem directory_inj {other : RelativePath} {stem' : String} (h : ∀ part ∈ directory ++ [stem], '.' ∉ part.toList)
    (h' : ∀ part ∈ other ++ [stem'], '.' ∉ part.toList)
    (heq : Text.join "." (directory ++ [stem]) = Text.join "." (other ++ [stem'])) : directory = other := by
  have hparts := Text.splitAt_join (List.append_ne_nil_of_right_ne_nil _ (List.cons_ne_nil _ _)) h
  have hothers := Text.splitAt_join (List.append_ne_nil_of_right_ne_nil _ (List.cons_ne_nil _ _)) h'
  exact (List.append_inj' (hparts.symm.trans ((congrArg _ heq).trans hothers)) rfl).1

theorem directory_ne_nil {package : String} (hpackage : package ≠ "") (h : packageDirectory package = .ok directory) :
    directory ≠ [] := by
  rintro rfl
  rw [packageDirectory, packageSegments, if_neg (by simpa using hpackage)] at h
  exact Text.splitAt_ne_nil '.' package (List.forall₂_nil_right_iff.1 (Outcome.mapM_ok.1 h))

theorem getLast?_packageDirectory {r : Binding.Resolver} {inner : String} (hdot : '.' ∉ inner.toList)
    (hinner : identifier inner = .ok inner) (h : packageDirectory (r.packageName (some inner)) = .ok directory) :
    directory.getLast? = some inner := by
  have hne := ne_empty_of_identifier hinner
  have hsegments : ∃ front, packageSegments (r.packageName (some inner)) = front ++ [inner] := by
    rw [packageSegments, if_neg (by simpa using r.packageName_ne_empty hne), r.packageName_some hne]
    split
    · exact ⟨[], Text.splitAt_of_not_mem hdot⟩
    · exact ⟨_, (Text.splitAt_append_sep '.' _ inner).trans (congrArg _ (Text.splitAt_of_not_mem hdot))⟩
  obtain ⟨front, hfront⟩ := hsegments
  rw [packageDirectory, hfront, List.mapM_append] at h
  obtain ⟨outer, -, h⟩ := Outcome.bind_ok.1 h
  rw [List.mapM_cons, hinner] at h
  obtain rfl := Outcome.pure_ok.1 h
  exact List.getLast?_concat

end Dots

section Units

variable {unit : String × Declaration} {file : RelativePath × String} {own : String}

/-- Where the module of a declaration stands, and what it is called. -/
structure Stands (unit : String × Declaration) (file : RelativePath × String) (directory : RelativePath)
    (stem : String) : Prop where
  package : packageDirectory unit.1 = .ok directory
  nested : directory ≠ []
  undotted : ∀ part ∈ directory ++ [stem], '.' ∉ part.toList
  path : file.1 = directory ++ [stem ++ ".py"]
  home : IsHome unit (Text.join "." (directory ++ [stem]))
  text : moduleText (Text.join "." (directory ++ [stem])) unit.2 = .ok file.2

theorem stands_of_isModule (hmodule : IsModule unit.1 unit.2 file) (hpackage : unit.1 ≠ "")
    (hname : unit.2.qualifiedName? = some ((Scope.ofPackage unit.1).nameOf (Naming.typeName own))) :
    ∃ directory stem, Stands unit file directory stem := by
  obtain ⟨home, htext⟩ := hmodule.exists_moduleText
  obtain ⟨piece, hpiece, -⟩ := Outcome.bind_ok.1 htext
  obtain ⟨text, htext, -⟩ := exists_binds hpiece (Declaration.memberName?_of_qualifiedName? hname)
  have hstem := Naming.lowerUnderscore_typeName (ne_empty_of_identifier htext)
  obtain ⟨directory, stem, hdirectory, hspelled, hsegments, hpath, htext⟩ :=
    segments_of_isModule hmodule hname hpackage hstem
  refine ⟨directory, stem, hdirectory, directory_ne_nil hpackage hdirectory,
    dot_not_mem_segments hdirectory hspelled, hpath, ⟨_, hname, ?_⟩, htext⟩
  rw [moduleName, Scope.nameOf, Scope.ofPackage, hsegments]
  rfl

namespace Stands

variable {other : String × Declaration} {file' : RelativePath × String} {directory directory' : RelativePath}
  {stem stem' home : String}

theorem dot_mem (h : Stands unit file directory stem) (hhome : IsHome unit home) : '.' ∈ home.toList := by
  obtain rfl := hhome.unique h.home
  exact dot_mem_join h.nested stem

theorem apart {r : Binding.Resolver} {inner inner' : String} (h : Stands unit file directory stem)
    (h' : Stands other file' directory' stem') (hunit : unit.1 = r.packageName (some inner))
    (hother : other.1 = r.packageName (some inner')) (hinner : '.' ∉ inner.toList ∧ identifier inner = .ok inner)
    (hinner' : '.' ∉ inner'.toList ∧ identifier inner' = .ok inner') (hne : inner ≠ inner') (hhome : IsHome unit home) :
    ¬ IsHome other home := by
  intro hsame
  have hlast := getLast?_packageDirectory hinner.1 hinner.2 (hunit ▸ h.package)
  have hlast' := getLast?_packageDirectory hinner'.1 hinner'.2 (hother ▸ h'.package)
  have hjoined := (h.home.unique hhome).trans (hsame.unique h'.home)
  obtain rfl := directory_inj h.undotted h'.undotted hjoined
  exact hne (Option.some.inj (hlast.symm.trans hlast'))

end Stands

theorem moduleName_of_moduleOf {n : QualifiedName} {m : String} (hgenerated : n.isGenerated = true)
    (h : moduleOf n = .ok (some m)) : moduleName n = .ok m := by
  rw [moduleOf_of_generated hgenerated] at h
  obtain ⟨other, hother, hsame⟩ := Outcome.map_ok.1 h
  exact Option.some.inj hsame ▸ hother

theorem exists_home {t : Tree} (ht : t.Sound) {d : Declaration} (hd : d ∈ t.nodes) {n : QualifiedName}
    (hn : d.qualifiedName? = some n) {m : String} (hm : moduleName n = .ok m) :
    ∃ unit ∈ t.units, unit.1 = n.package ∧ IsHome unit m := by
  obtain ⟨unit, hunit, hd⟩ := Tree.mem_nodes_iff.1 hd
  have hordered := ht.orderly_of_mem_units hunit
  obtain ⟨n', own, hn', hpackage, -, hown, hprefix⟩ := Declaration.names_of_mem_nodes unit.2 hordered d hd
  obtain rfl := Option.some.inj (hn'.symm.trans hn)
  refine ⟨unit, hunit, hpackage.symm, _, Declaration.name_of_orderly hordered hown (isSome_of_mem_nodes hd), ?_⟩
  rw [← hm, moduleName, moduleName, moduleSegments, moduleSegments, topLevel_of_path hprefix, hpackage]
  rfl

end Units

end TopicBindings.Source
