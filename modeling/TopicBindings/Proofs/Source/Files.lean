import TopicBindings.Proofs.Entries
import TopicBindings.Proofs.Source.Identifier
import TopicBindings.Proofs.Text.Join
import TopicBindings.Source.Files

/-!
The files of a tree are the files of its packages and one module for each declaration at the top of a
package. The path of a module is its dotted name with a slash for every dot.
-/

namespace TopicBindings.Source

open Binding (QualifiedName)
open Declaration (Package Tree)

def modulePath (home : String) : String :=
  home.map (fun c => if c = '.' then '/' else c) ++ ".py"

theorem map_append (f : Char → Char) (s t : String) : (s ++ t).map f = s.map f ++ t.map f := by
  apply String.toList_injective
  simp only [String.toList_map, String.toList_append, List.map_append]

theorem map_intercalate_dots {parts : List String} (h : ∀ part ∈ parts, '.' ∉ part.toList) :
    (".".intercalate parts).map (fun c => if c = '.' then '/' else c) = "/".intercalate parts := by
  have hpart : ∀ part ∈ parts, part.map (fun c => if c = '.' then '/' else c) = part := by
    intro part hp
    apply String.toList_injective
    rw [String.toList_map]
    refine (List.map_congr_left fun c hc => if_neg ?_).trans (List.map_id _)
    rintro rfl
    exact h part hp hc
  have hdot : ".".map (fun c => if c = '.' then '/' else c) = "/" := by
    apply String.toList_injective
    rw [String.toList_map]
    rfl
  induction parts with
  | nil =>
      apply String.toList_injective
      rw [String.toList_map]
      rfl
  | cons part rest ih =>
      have ih := ih (fun p hp => h p (.tail _ hp)) fun p hp => hpart p (.tail _ hp)
      cases rest with
      | nil => simpa using hpart part (.head _)
      | cons next more =>
          rw [String.intercalate_cons_cons, String.intercalate_cons_cons, map_append, map_append, ih,
            hpart part (.head _), hdot]

theorem pathText_module {directory : RelativePath} {stem : String}
    (h : ∀ part ∈ directory ++ [stem], '.' ∉ part.toList) :
    pathText (directory ++ [stem ++ ".py"]) = modulePath (Text.join "." (directory ++ [stem])) := by
  rw [pathText, if_neg (by simp), modulePath, Text.join_eq_intercalate, Text.join_eq_intercalate,
    map_intercalate_dots h]
  cases directory with
  | nil => simp
  | cons part rest =>
      rw [String.intercalate_append_of_ne_nil (List.cons_ne_nil _ _) (List.cons_ne_nil _ _),
        String.intercalate_append_of_ne_nil (List.cons_ne_nil _ _) (List.cons_ne_nil _ _)]
      simp [String.append_assoc]

theorem moduleSegments_eq {n : QualifiedName} {directory : RelativePath} (hpackage : n.package ≠ "")
    (htop : Naming.lowerUnderscore n.topLevel ≠ "") (hdir : packageDirectory n.package = .ok directory) :
    moduleSegments n =
      (identifier (Naming.lowerUnderscore n.topLevel)).map fun stem => directory ++ [stem] := by
  rw [packageDirectory, packageSegments, if_neg (by simpa using hpackage)] at hdir
  have hparts : ∀ part ∈ Text.splitAt '.' n.package, part ≠ "" := by
    intro part hp
    obtain ⟨text, -, htext⟩ := Outcome.exists_of_forall₂ (Outcome.mapM_ok.1 hdir).flip hp
    exact ne_empty_of_identifier htext
  have hfilter : (Text.splitAt '.' n.package ++ [Naming.lowerUnderscore n.topLevel]).filter (!·.isEmpty) =
      Text.splitAt '.' n.package ++ [Naming.lowerUnderscore n.topLevel] := by
    refine List.filter_eq_self.2 fun part hp => ?_
    have hne : part ≠ "" := by
      rcases List.mem_append.1 hp with hp | hp
      · exact hparts part hp
      · obtain rfl := List.mem_singleton.1 hp
        exact htop
    simpa using hne
  rw [moduleSegments, hfilter, List.mapM_append, hdir, List.mapM_cons, List.mapM_nil]
  cases identifier (Naming.lowerUnderscore n.topLevel) <;> rfl

def IsModule (package : String) (d : Declaration) (file : RelativePath × String) : Prop :=
  ∃ name segments directory, d.qualifiedName? = some name ∧ moduleSegments name = .ok segments ∧
    packageDirectory package = .ok directory ∧
    file.1 = directory ++ [segments.getLast?.getD "" ++ ".py"] ∧
    moduleText (Text.join "." segments) d = .ok file.2

theorem IsModule.exists_moduleText {package : String} {d : Declaration} {file : RelativePath × String}
    (h : IsModule package d file) : ∃ home, moduleText home d = .ok file.2 := by
  obtain ⟨_, segments, _, _, _, _, _, htext⟩ := h
  exact ⟨_, htext⟩

def IsPackageFile (file : RelativePath × String) : Prop :=
  ∃ docstring version, file.2 = packageText docstring version

theorem up_not_mem_of_mapM_identifier {names : List String} {parts : RelativePath}
    (h : names.mapM identifier = .ok parts) : ".." ∉ parts := by
  intro hup
  obtain ⟨name, -, hname⟩ := Outcome.exists_of_forall₂ (Outcome.mapM_ok.1 h) hup
  exact dot_not_mem_identifier hname (by decide)

theorem up_not_mem_packageDirectory {name : String} {directory : RelativePath}
    (h : packageDirectory name = .ok directory) : ".." ∉ directory :=
  up_not_mem_of_mapM_identifier h

theorem mem_of_mem_openings {path directory : RelativePath} (h : directory ∈ openings path) {part : String}
    (hpart : part ∈ directory) : part ∈ path := by
  induction path generalizing directory with
  | nil => cases h
  | cons first rest ih =>
      rcases List.mem_cons.1 h with rfl | h
      · obtain rfl := List.mem_singleton.1 hpart
        exact .head _
      · obtain ⟨opened, hopened, rfl⟩ := List.mem_map.1 h
        rcases List.mem_cons.1 hpart with rfl | hpart
        · exact .head _
        · exact .tail _ (ih hopened hpart)

theorem up_not_mem_packageDirectories {name : String} {directories : List RelativePath}
    (h : packageDirectories name = .ok directories) : ∀ d ∈ directories, ".." ∉ d := by
  intro d hd hup
  rw [packageDirectories] at h
  split at h
  · obtain rfl := Except.ok.inj h
    obtain rfl := List.mem_singleton.1 hd
    cases hup
  · obtain ⟨parts, hparts, h⟩ := Outcome.bind_ok.1 h
    obtain rfl := Outcome.pure_ok.1 h
    exact up_not_mem_of_mapM_identifier hparts (mem_of_mem_openings hd hup)

theorem up_not_mem_initPath {directory : RelativePath} (h : ".." ∉ directory) :
    ".." ∉ initPath directory := by
  simpa [initPath] using h

theorem ne_up_of_module (stem : String) : stem ++ ".py" ≠ ".." := by
  intro h
  have hlast := congrArg (fun s => s.toList.getLast?) h
  simp at hlast

theorem up_not_mem_module {package : String} {d : Declaration} {file : RelativePath × String}
    (h : IsModule package d file) : ".." ∉ file.1 := by
  obtain ⟨name, segments, directory, -, -, hdirectory, hpath, -⟩ := h
  rw [hpath, List.mem_append, List.mem_singleton]
  rintro (hup | hup)
  · exact up_not_mem_packageDirectory hdirectory hup
  · exact ne_up_of_module _ hup.symm

namespace Files

theorem addUnit_ok {files files' : Files} {package : String} {d : Declaration}
    (h : files.addUnit package d = .ok files') :
    (d.qualifiedName? = none ∧ files' = files) ∨ ∃ file, IsModule package d file ∧
      files.texts.lookup file.1 = none ∧
      (∀ directory stem, file.1 = directory ++ [stem ++ ".py"] → directory ++ [stem] ∉ files.directories) ∧
      files' = { files with texts := files.texts ++ [file] } := by
  rw [addUnit] at h
  cases hname : d.qualifiedName? with
  | none =>
      rw [hname] at h
      obtain rfl := Outcome.pure_ok.1 h
      exact .inl ⟨rfl, rfl⟩
  | some name =>
      rw [hname] at h
      obtain ⟨segments, hsegments, h⟩ := Outcome.bind_ok.1 h
      obtain ⟨directory, hdirectory, h⟩ := Outcome.bind_ok.1 h
      dsimp only at h
      split at h
      · cases h
      next hfree =>
        split at h
        · cases h
        next hapart =>
          obtain ⟨text, htext, h⟩ := Outcome.bind_ok.1 h
          obtain rfl := Outcome.pure_ok.1 h
          refine .inr ⟨(_, text), ⟨name, segments, directory, hname, hsegments, hdirectory, rfl, htext⟩,
            Option.not_isSome_iff_eq_none.1 hfree, fun other stem hpath => ?_, rfl⟩
          -- A path ends in the name of its file, so the directory in question is the one that was refused.
          obtain ⟨rfl, hlast⟩ := List.append_inj' hpath rfl
          obtain rfl := (String.append_left_inj _).1 (List.singleton_inj.1 hlast)
          rwa [List.contains_iff_mem] at hapart

end Files

/-- What rendering keeps: no two files share a path, each of them is a package file or a module, and no path
leads upwards. -/
structure Rendered (units : List (String × Declaration)) (texts : Entries RelativePath String) : Prop where
  distinct : texts.keys.Nodup
  known : ∀ file ∈ texts, IsPackageFile file ∨ ∃ unit ∈ units, IsModule unit.1 unit.2 file
  downward : ∀ file ∈ texts, ".." ∉ file.1

namespace Rendered

variable {units : List (String × Declaration)} {texts : Entries RelativePath String} {files files' : Files}
  {path directory : RelativePath}

theorem empty (units : List (String × Declaration)) : Rendered units [] :=
  ⟨List.nodup_nil, by simp, by simp⟩

theorem append (h : Rendered units texts) {file : RelativePath × String} (hnew : file.1 ∉ texts.keys)
    (hfile : IsPackageFile file ∨ ∃ unit ∈ units, IsModule unit.1 unit.2 file) (hdown : ".." ∉ file.1) :
    Rendered units (texts ++ [file]) := by
  refine ⟨?_, fun other hother => ?_, fun other hother => ?_⟩
  · have hkeys : Entries.keys (texts ++ [file]) = texts.keys.concat file.1 := by
      simp [Entries.keys]
    rw [hkeys]
    exact List.Nodup.concat hnew h.distinct
  · rcases List.mem_append.1 hother with hother | hother
    · exact h.known other hother
    · obtain rfl := List.mem_singleton.1 hother
      exact hfile
  · rcases List.mem_append.1 hother with hother | hother
    · exact h.downward other hother
    · obtain rfl := List.mem_singleton.1 hother
      exact hdown

theorem addDefault (h : Rendered units files.texts) (hdown : ".." ∉ path) :
    Rendered units (files.addDefault path plainPackageText).texts := by
  rw [Files.addDefault]
  split
  · exact h
  next hfree =>
    exact h.append (fun hm => hfree (Entries.isSome_lookup_iff.2 hm)) (.inl ⟨none, none, rfl⟩) hdown

theorem set (h : Rendered units texts) (hdown : ".." ∉ path) (metadata : Entries String String) :
    Rendered units (texts.set path (packageFileText metadata)) := by
  refine ⟨?_, fun file hfile => ?_, fun file hfile => ?_⟩
  · rw [Entries.keys_set]
    split
    · exact h.distinct
    next hnew =>
      rw [← List.concat_eq_append]
      exact List.Nodup.concat hnew h.distinct
  · rcases Entries.mem_of_mem_set hfile with rfl | hfile
    · exact .inl ⟨_, _, rfl⟩
    · exact h.known file hfile
  · rcases Entries.mem_of_mem_set hfile with rfl | hfile
    · exact hdown
    · exact h.downward file hfile

theorem foldl_addDefault (h : Rendered units files.texts) {directories : List RelativePath}
    (hdown : ∀ d ∈ directories, ".." ∉ d) :
    Rendered units (directories.foldl (fun acc d =>
      acc.addDefault (initPath d) plainPackageText) files).texts := by
  induction directories generalizing files with
  | nil => exact h
  | cons d rest ih =>
      have hfirst := h.addDefault (up_not_mem_initPath (hdown d (.head _)))
      exact ih hfirst fun other ho => hdown other (.tail _ ho)

theorem addPackage (h : Rendered units files.texts) {name : String} {metadata : Entries String String}
    (hadd : files.addPackage name metadata = .ok files') : Rendered units files'.texts := by
  obtain ⟨directories, hdirectories, hadd⟩ := Outcome.bind_ok.1 hadd
  obtain ⟨directory, hdirectory, hadd⟩ := Outcome.bind_ok.1 hadd
  have hopened := h.foldl_addDefault (up_not_mem_packageDirectories hdirectories)
  have hdown := up_not_mem_initPath (up_not_mem_packageDirectory hdirectory)
  obtain rfl := Outcome.pure_ok.1 hadd
  split
  · exact addDefault hopened hdown
  · exact hopened.set hdown metadata

theorem addUnit (h : Rendered units files.texts) {unit : String × Declaration} (hunit : unit ∈ units)
    (hadd : files.addUnit unit.1 unit.2 = .ok files') : Rendered units files'.texts := by
  rcases Files.addUnit_ok hadd with ⟨-, rfl⟩ | ⟨file, hmodule, hfree, -, rfl⟩
  · exact h
  · refine h.append (fun hm => ?_) (.inr ⟨unit, hunit, hmodule⟩) (up_not_mem_module hmodule)
    rw [← Entries.isSome_lookup_iff, hfree] at hm
    cases hm

end Rendered

namespace Files

theorem mem_of_addUnits {units : List (String × Declaration)} {files files' : Files}
    (h : units.foldlM (fun acc unit => acc.addUnit unit.1 unit.2) files = .ok files') :
    (∀ file ∈ files.texts, file ∈ files'.texts) ∧ ∀ unit ∈ units, unit.2.qualifiedName?.isSome →
      ∃ file ∈ files'.texts, IsModule unit.1 unit.2 file := by
  induction units generalizing files with
  | nil =>
      obtain rfl := Outcome.pure_ok.1 h
      exact ⟨fun file hfile => hfile, by simp⟩
  | cons first rest ih =>
      obtain ⟨next, hadd, h⟩ := Outcome.foldlM_cons_ok.1 h
      obtain ⟨hkept, hmodules⟩ := ih h
      rcases addUnit_ok hadd with ⟨hnone, rfl⟩ | ⟨file, hmodule, -, -, rfl⟩
      · refine ⟨hkept, fun unit hunit hsome => ?_⟩
        rcases List.mem_cons.1 hunit with rfl | hunit
        · rw [hnone] at hsome
          cases hsome
        · exact hmodules unit hunit hsome
      · refine ⟨fun other hother => hkept other (List.mem_append_left _ hother), fun unit hunit hsome => ?_⟩
        rcases List.mem_cons.1 hunit with rfl | hunit
        · exact ⟨file, hkept file (List.mem_append_right _ (.head _)), hmodule⟩
        · exact hmodules unit hunit hsome

end Files

theorem render_ok {t : Tree} {files : Entries RelativePath String} (h : render t = .ok files) :
    Rendered t.units files ∧
      ∀ unit ∈ t.units, unit.2.qualifiedName?.isSome → ∃ file ∈ files, IsModule unit.1 unit.2 file := by
  obtain ⟨packages, hpackages, h⟩ := Outcome.bind_ok.1 h
  obtain ⟨all, hunits, h⟩ := Outcome.bind_ok.1 h
  obtain rfl := Outcome.pure_ok.1 h
  have hrendered : Rendered t.units packages.texts :=
    Outcome.foldlM_keeps (P := fun acc => Rendered t.units acc.texts)
      (fun entry _ _ _ hacc hadd => hacc.addPackage hadd) (.empty _) hpackages
  have hall : Rendered t.units all.texts :=
    Outcome.foldlM_keeps (P := fun acc => Rendered t.units acc.texts)
      (fun unit hunit _ _ hacc hadd => hacc.addUnit hunit hadd) hrendered hunits
  exact ⟨hall, (Files.mem_of_addUnits hunits).2⟩

end TopicBindings.Source
