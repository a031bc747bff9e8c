import TopicBindings.Proofs.Declaration.Steps
import TopicBindings.Proofs.Source.Paths

/-!
Packages whose names are dotted identifiers. Each of them has the directory of its name. Where only one package has
something noted about it, its file says that and every other package file is plain, in whatever order the packages come.
-/

namespace TopicBindings.Source

open Declaration (Package Tree)

variable {name other : String} {t : Tree} {files files' : Files} {own path : RelativePath} {text : String}

section Names

theorem isPackageName_append (outer inner : String) :
    isPackageName (outer ++ "." ++ inner) = (isPackageName outer && isPackageName inner) := by
  have hdot : "." = String.singleton '.' := by decide
  rw [isPackageName, hdot, Text.splitAt_append_sep, List.all_append]
  rfl

theorem identifier_of_mem_segments (h : name = "" ∨ isPackageName name = true) :
    ∀ segment ∈ packageSegments name, identifier segment = .ok segment := by
  intro segment hsegment
  rw [packageSegments] at hsegment
  split at hsegment
  · cases hsegment
  next hname =>
    have hvalid := List.all_eq_true.1 (h.resolve_left (by simpa using hname)) segment hsegment
    rw [Bool.and_eq_true, Bool.not_eq_true'] at hvalid
    exact identifier_of_isIdentifier hvalid.1 hvalid.2

theorem packageDirectory_eq (h : name = "" ∨ isPackageName name = true) :
    packageDirectory name = .ok (packageSegments name) :=
  Outcome.mapM_ok.2 (List.forall₂_same.2 (identifier_of_mem_segments h))

theorem packageSegments_eq_nil : packageSegments name = [] ↔ name = "" := by
  rw [packageSegments]
  by_cases hname : name = ""
  · simp [hname]
  · simp [hname, Text.splitAt_ne_nil]

theorem packageSegments_injective : Function.Injective packageSegments := by
  intro name other h
  by_cases hname : name = ""
  · rw [hname, packageSegments_eq_nil.1 (h.symm.trans (packageSegments_eq_nil.2 hname))]
  · have hother := mt packageSegments_eq_nil.2 (h ▸ mt packageSegments_eq_nil.1 hname)
    rw [packageSegments, packageSegments, if_neg (by simpa using hname), if_neg (by simpa using hother)] at h
    rw [← Text.join_splitAt '.' name, h, Text.join_splitAt]

theorem pathText_packageSegments (hname : name ≠ "") :
    pathText (packageSegments name) = name.map fun c => if c = '.' then '/' else c := by
  have hparts : ∀ part ∈ Text.splitAt '.' name, '.' ∉ part.toList := fun _ h => Text.not_mem_of_mem_splitAt h
  have hdot : "." = String.singleton '.' := by decide
  have hsegments := mt packageSegments_eq_nil.1 hname
  rw [pathText, if_neg (by simpa using hsegments), packageSegments, if_neg (by simpa using hname),
    Text.join_eq_intercalate, ← map_intercalate_dots hparts, ← Text.join_eq_intercalate, hdot, Text.join_splitAt]

end Names

structure Verbatim (t : Tree) : Prop where
  segments : ∀ name ∈ t.names, ∀ segment ∈ packageSegments name, identifier segment = .ok segment
  directory : ∀ name ∈ t.names, packageDirectory name = .ok (packageSegments name)
  path : ∀ name ∈ t.names, name ≠ "" →
    pathText (packageSegments name) = name.map fun c => if c = '.' then '/' else c
  distinct : ∀ name ∈ t.names, ∀ other ∈ t.names, packageDirectory name = packageDirectory other → name = other

theorem verbatim_of_isPackageName (h : ∀ name ∈ t.names, name = "" ∨ isPackageName name = true) : Verbatim t where
  segments name hname := identifier_of_mem_segments (h name hname)
  directory name hname := packageDirectory_eq (h name hname)
  path _ _ := pathText_packageSegments
  distinct name hname other hother heq := by
    rw [packageDirectory_eq (h name hname), packageDirectory_eq (h other hother)] at heq
    exact packageSegments_injective (Except.ok.inj heq)

/-- All package files are plain but that of one directory, which has a text of its own once its package was there. -/
structure Described (own : RelativePath) (text : String) (there : Prop) (texts : Entries RelativePath String) : Prop where
  plain : ∀ file ∈ texts, file.1 ≠ initPath own → file.2 = plainPackageText
  described : there → texts.lookup (initPath own) = some text

namespace Described

variable {texts : Entries RelativePath String} {there : Prop}

theorem addDefault (files : Files) (h : Described own text there files.texts) (path : RelativePath) :
    Described own text there (files.addDefault path plainPackageText).texts := by
  rw [Files.addDefault]
  split
  · exact h
  · refine ⟨fun file hfile hother => ?_, fun hthere => ?_⟩
    · rcases List.mem_append.1 hfile with hfile | hfile
      · exact h.plain file hfile hother
      · obtain rfl := List.mem_singleton.1 hfile
        rfl
    · rw [List.lookup_append, h.described hthere, Option.some_or]

theorem foldl_addDefault (h : Described own text there files.texts) (directories : List RelativePath) :
    Described own text there
      (directories.foldl (fun acc d => acc.addDefault (initPath d) plainPackageText) files).texts := by
  induction directories generalizing files with
  | nil => exact h
  | cons d rest ih => exact ih (addDefault files h _)

theorem set (h : Described own text there texts) : Described own text True (texts.set (initPath own) text) := by
  refine ⟨fun file hfile hother => ?_, fun _ => Entries.lookup_set_self _ _ _⟩
  rcases Entries.mem_of_mem_set hfile with rfl | hfile
  · exact absurd rfl hother
  · exact h.plain file hfile hother

theorem addPackage (h : Described own text there files.texts) {metadata : Entries String String}
    (hown : packageDirectory name = .ok own → metadata.isEmpty = false → packageFileText metadata = text)
    (hothers : ∀ d, packageDirectory name = .ok d → d ≠ own → metadata.isEmpty = true)
    (hadd : files.addPackage name metadata = .ok files') :
    Described own text (there ∨ metadata.isEmpty = false) files'.texts := by
  obtain ⟨directories, -, hadd⟩ := Outcome.bind_ok.1 hadd
  obtain ⟨directory, hdirectory, hadd⟩ := Outcome.bind_ok.1 hadd
  -- First the directories get plain files, then the file of the package its own text if there is something to say.
  have hopened := h.foldl_addDefault directories
  obtain rfl := Outcome.pure_ok.1 hadd
  split
  next hempty =>
    have hkept := addDefault ⟨_, files.directories ++ directories⟩ hopened (initPath directory)
    exact ⟨hkept.plain, fun hthere => hkept.described (hthere.resolve_right (by simp [hempty]))⟩
  next hnoted =>
    have hnoted := Bool.eq_false_iff.2 hnoted
    obtain rfl : directory = own := by
      by_contra hne
      rw [hothers directory hdirectory hne] at hnoted
      cases hnoted
    rw [hown hdirectory hnoted]
    exact ⟨hopened.set.plain, fun _ => hopened.set.described trivial⟩

/-- The one package that has something noted about it may come at any place. -/
theorem addPackages {packages : Entries String Package} (h : Described own text there files.texts)
    (hown : ∀ entry ∈ packages, packageDirectory entry.1 = .ok own → entry.2.metadata.isEmpty = false →
      packageFileText entry.2.metadata = text)
    (hothers : ∀ entry ∈ packages, ∀ d, packageDirectory entry.1 = .ok d → d ≠ own → entry.2.metadata.isEmpty = true)
    (hadd : packages.foldlM (fun acc (entry : String × Package) => acc.addPackage entry.1 entry.2.metadata) files =
      .ok files') :
    Described own text (there ∨ ∃ entry ∈ packages, entry.2.metadata.isEmpty = false) files'.texts := by
  induction packages generalizing files there with
  | nil =>
      obtain rfl := Outcome.pure_ok.1 hadd
      simpa using h
  | cons entry rest ih =>
      obtain ⟨next, hfirst, hadd⟩ := Outcome.foldlM_cons_ok.1 hadd
      have hnext := h.addPackage (hown entry (.head _)) (hothers entry (.head _)) hfirst
      simpa only [List.mem_cons, exists_eq_or_imp, or_assoc] using
        ih hnext (fun e he => hown e (.tail _ he)) (fun e he => hothers e (.tail _ he)) hadd

end Described

section Rendered

variable {texts : Entries RelativePath String}

theorem mem_of_init {directories : List RelativePath} {modules : Entries RelativePath String}
    (hdistinct : (Entries.keys (texts ++ modules)).Nodup) (hopens : Opens texts directories)
    (hdirectories : ∀ d, d ∈ directories ↔ IsDirectory t d) (hmodules : ModulesOf t.units directories modules)
    {file : RelativePath × String} (hfile : file ∈ texts ++ modules) (hname : file.1.getLast? = some "__init__.py") :
    file ∈ texts := by
  refine (List.mem_append.1 hfile).resolve_right fun hmodule => ?_
  obtain ⟨unit, hunit, name, segments, directory, -, -, hdirectory, hpath, -⟩ :=
    Outcome.exists_of_forall₂ hmodules.each hmodule
  rw [hpath, List.getLast?_concat, Option.some.injEq] at hname
  have hinit : file.1 ∈ texts.keys := by
    rw [hpath, hname, hopens.mem_keys]
    obtain ⟨p, hp, -⟩ := Tree.mem_units_iff.1 hunit
    have hopened : IsDirectory t directory :=
      ⟨unit.1, List.mem_map_of_mem hp, openedBy_packageDirectory hdirectory⟩
    exact ⟨directory, (hdirectories directory).2 hopened, rfl⟩
  rw [Entries.keys, List.map_append] at hdistinct
  exact List.disjoint_of_nodup_append hdistinct hinit (List.mem_map_of_mem hmodule)

theorem described_of_render (hunits : t.Structured)
    (hown : ∀ entry ∈ t.packages, packageDirectory entry.1 = .ok own → entry.2.metadata.isEmpty = false →
      packageFileText entry.2.metadata = text)
    (hothers : ∀ entry ∈ t.packages, ∀ d, packageDirectory entry.1 = .ok d → d ≠ own → entry.2.metadata.isEmpty = true)
    (hnoted : ∃ entry ∈ t.packages, entry.2.metadata.isEmpty = false) (h : render t = .ok texts) :
    texts.lookup (initPath own) = some text ∧ ∀ file ∈ texts, file.1.getLast? = some "__init__.py" →
      file.1 ≠ initPath own → file.2 = plainPackageText := by
  have hdistinct := (render_ok h).1.distinct
  obtain ⟨packages, modules, hpackages, htexts, hopens, hdirectories, hmodules⟩ := exists_of_render hunits h
  subst htexts
  have hempty : Described own text False (⟨[], []⟩ : Files).texts := ⟨by simp, False.elim⟩
  have hdescribed := hempty.addPackages hown hothers hpackages
  refine ⟨?_, fun file hfile hname hother => hdescribed.plain file ?_ hother⟩
  · rw [List.lookup_append, hdescribed.described (.inr hnoted), Option.some_or]
  · exact mem_of_init hdistinct hopens hdirectories hmodules hfile hname

end Rendered

end TopicBindings.Source
