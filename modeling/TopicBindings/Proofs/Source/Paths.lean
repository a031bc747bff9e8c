import TopicBindings.Proofs.Declaration.Extension
import TopicBindings.Proofs.Source.Files
import TopicBindings.Proofs.Source.Spelling
import TopicBindings.Proofs.Text.Fields

/-!
Where the files of a tree are. Every directory of a package, and every one around it, has one package file; every
declaration at the top of a package has one module; no two of these files share a path, and none of them leaves the
output directory.
-/

namespace TopicBindings.Source

open Declaration (Tree)

variable {t : Tree} {texts : Entries RelativePath String} {files files' : Files} {path directory : RelativePath}

/-- A directory is that of a package or of one around it. The package without a name is the output directory itself. -/
def OpenedBy (name : String) (directory : RelativePath) : Prop :=
  if name = "" then directory = []
  else ∃ front, front ≠ [] ∧ front <+: Text.splitAt '.' name ∧ front.mapM identifier = .ok directory

def IsDirectory (t : Tree) (directory : RelativePath) : Prop :=
  ∃ name ∈ t.names, OpenedBy name directory

/-- The directory of the module of a declaration, and the name of its file without the ending. -/
def BelongsAt (package : String) (d : Declaration) (directory : RelativePath) (stem : String) : Prop :=
  ∃ name segments, d.qualifiedName? = some name ∧ moduleSegments name = .ok segments ∧
    packageDirectory package = .ok directory ∧ stem = segments.getLast?.getD ""

theorem IsModule.belongsAt {package : String} {d : Declaration} {file : RelativePath × String}
    (h : IsModule package d file) :
    ∃ directory stem, BelongsAt package d directory stem ∧ file.1 = directory ++ [stem ++ ".py"] := by
  obtain ⟨name, segments, directory, hname, hsegments, hdirectory, hpath, -⟩ := h
  exact ⟨directory, _, ⟨name, segments, hname, hsegments, hdirectory, rfl⟩, hpath⟩

theorem BelongsAt.unique {package : String} {d : Declaration} {other : RelativePath} {stem stem' : String}
    (h : BelongsAt package d directory stem) (h' : BelongsAt package d other stem') :
    directory = other ∧ stem = stem' := by
  obtain ⟨name, segments, hname, hsegments, hdirectory, rfl⟩ := h
  obtain ⟨name', segments', hname', hsegments', hother, rfl⟩ := h'
  obtain rfl := Option.some.inj (hname.symm.trans hname')
  obtain rfl := Except.ok.inj (hsegments.symm.trans hsegments')
  exact ⟨Except.ok.inj (hdirectory.symm.trans hother), rfl⟩

section Directories

theorem mem_openings : directory ∈ openings path ↔ directory ≠ [] ∧ directory <+: path := by
  induction path generalizing directory with
  | nil =>
      rw [openings, List.prefix_nil]
      exact ⟨fun h => absurd h List.not_mem_nil, fun h => absurd h.2 h.1⟩
  | cons part rest ih =>
      rw [openings, List.mem_cons, List.mem_map]
      cases directory with
      | nil => simp
      | cons first more =>
          rw [List.cons_prefix_cons]
          constructor
          · rintro (h | ⟨opened, hopened, h⟩)
            · obtain ⟨rfl, rfl⟩ := List.cons.inj h
              exact ⟨List.cons_ne_nil _ _, rfl, List.nil_prefix⟩
            · obtain ⟨rfl, rfl⟩ := List.cons.inj h
              exact ⟨List.cons_ne_nil _ _, rfl, (ih.1 hopened).2⟩
          · rintro ⟨-, rfl, hmore⟩
            by_cases hnil : more = []
            · exact .inl (by rw [hnil])
            · exact .inr ⟨more, ih.2 ⟨hnil, hmore⟩, rfl⟩

theorem exists_front_iff {names : List String} {parts : RelativePath} (h : names.mapM identifier = .ok parts) :
    (∃ front, front ≠ [] ∧ front <+: names ∧ front.mapM identifier = .ok directory) ↔
      directory ≠ [] ∧ directory <+: parts := by
  constructor
  · rintro ⟨front, hne, ⟨behind, rfl⟩, hfront⟩
    rw [List.mapM_append, hfront] at h
    obtain ⟨_, hspelled, h⟩ := Outcome.bind_ok.1 h
    obtain rfl := Except.ok.inj hspelled
    obtain ⟨more, -, h⟩ := Outcome.bind_ok.1 h
    obtain rfl := Outcome.pure_ok.1 h
    refine ⟨fun hnil => hne ?_, List.prefix_append directory more⟩
    rw [hnil] at hfront
    exact List.forall₂_nil_right_iff.1 (Outcome.mapM_ok.1 hfront)
  · rintro ⟨hne, hprefix⟩
    have hspelled := List.forall₂_take directory.length (Outcome.mapM_ok.1 h)
    rw [← List.prefix_iff_eq_take.1 hprefix] at hspelled
    refine ⟨names.take directory.length, fun hnil => hne ?_, List.take_prefix _ _, Outcome.mapM_ok.2 hspelled⟩
    rw [hnil] at hspelled
    exact List.forall₂_nil_left_iff.1 hspelled

theorem mem_packageDirectories {name : String} {directories : List RelativePath}
    (h : packageDirectories name = .ok directories) : directory ∈ directories ↔ OpenedBy name directory := by
  rw [packageDirectories] at h
  rw [OpenedBy]
  by_cases hname : name = ""
  · rw [if_pos (by simpa using hname)] at h
    obtain rfl := Except.ok.inj h
    rw [if_pos hname, List.mem_singleton]
  · rw [if_neg (by simpa using hname), packageSegments, if_neg (by simpa using hname)] at h
    obtain ⟨parts, hparts, h⟩ := Outcome.bind_ok.1 h
    obtain rfl := Outcome.pure_ok.1 h
    rw [if_neg hname, exists_front_iff hparts, mem_openings]

theorem openedBy_packageDirectory {name : String} (h : packageDirectory name = .ok directory) :
    OpenedBy name directory := by
  rw [packageDirectory, packageSegments] at h
  rw [OpenedBy]
  by_cases hname : name = ""
  · rw [if_pos (by simpa using hname)] at h
    rw [if_pos hname]
    exact (Outcome.pure_ok.1 h).symm
  · rw [if_neg (by simpa using hname)] at h
    rw [if_neg hname]
    exact ⟨_, Text.splitAt_ne_nil '.' name, List.prefix_rfl, h⟩

end Directories

theorem initPath_injective : Function.Injective initPath :=
  fun _ _ h => (List.append_inj' h rfl).1

/-- The package files of some directories: one for each of them, in the order in which they are opened. -/
def Opens (texts : Entries RelativePath String) (directories : List RelativePath) : Prop :=
  texts.keys = directories.eraseDups.map initPath ∧ ∀ file ∈ texts, IsPackageFile file

namespace Opens

variable {directories : List RelativePath}

theorem mem_keys (h : Opens texts directories) : path ∈ texts.keys ↔ ∃ d ∈ directories, path = initPath d := by
  rw [h.1, List.mem_map]
  simp only [List.mem_eraseDups, eq_comm]

theorem initPath_mem_keys (h : Opens texts directories) : initPath directory ∈ texts.keys ↔ directory ∈ directories := by
  rw [h.mem_keys]
  constructor
  · rintro ⟨d, hd, heq⟩
    exact initPath_injective heq ▸ hd
  · exact fun hd => ⟨directory, hd, rfl⟩

theorem addDefault (h : Opens files.texts directories) (d : RelativePath) :
    Opens (files.addDefault (initPath d) plainPackageText).texts (directories ++ [d]) := by
  rw [Opens, Entries.eraseDups_concat, Files.addDefault]
  by_cases hd : d ∈ directories
  · have hthere := Entries.isSome_lookup_iff.2 (h.initPath_mem_keys.2 hd)
    rw [if_pos hthere, if_pos hd]
    exact h
  · have hfree := mt Entries.isSome_lookup_iff.1 (mt h.initPath_mem_keys.1 hd)
    rw [if_neg hfree, if_neg hd, List.map_append, ← h.1]
    refine ⟨List.map_append, fun file hfile => ?_⟩
    rcases List.mem_append.1 hfile with hfile | hfile
    · exact h.2 file hfile
    · obtain rfl := List.mem_singleton.1 hfile
      exact ⟨none, none, rfl⟩

theorem addDefault_of_mem (files : Files) (h : Opens files.texts directories) {d : RelativePath} (hd : d ∈ directories) :
    files.addDefault (initPath d) plainPackageText = files :=
  if_pos (Entries.isSome_lookup_iff.2 (h.initPath_mem_keys.2 hd))

theorem foldl_addDefault (h : Opens files.texts directories) (more : List RelativePath) :
    Opens (more.foldl (fun acc d => acc.addDefault (initPath d) plainPackageText) files).texts
      (directories ++ more) := by
  induction more generalizing files directories with
  | nil => rwa [List.append_nil]
  | cons d rest ih =>
      rw [List.append_cons]
      exact ih (h.addDefault d)

theorem set (h : Opens texts directories) {d : RelativePath} (hd : d ∈ directories)
    (metadata : Entries String String) : Opens (texts.set (initPath d) (packageFileText metadata)) directories := by
  refine ⟨?_, fun file hfile => ?_⟩
  · rw [Entries.keys_set, if_pos (h.initPath_mem_keys.2 hd), h.1]
  · rcases Entries.mem_of_mem_set hfile with rfl | hfile
    · exact ⟨_, _, rfl⟩
    · exact h.2 file hfile

/-- A package adds the files of its directories; only the text of its own one may be another one afterwards. -/
theorem addPackage (h : Opens files.texts files.directories) {name : String} {metadata : Entries String String}
    (hadd : files.addPackage name metadata = .ok files') : Opens files'.texts files'.directories ∧
      ∀ d, d ∈ files'.directories ↔ d ∈ files.directories ∨ OpenedBy name d := by
  obtain ⟨directories, hdirectories, hadd⟩ := Outcome.bind_ok.1 hadd
  obtain ⟨own, hown, hadd⟩ := Outcome.bind_ok.1 hadd
  have hopened := h.foldl_addDefault directories
  have hmem : own ∈ files.directories ++ directories :=
    List.mem_append_right _ ((mem_packageDirectories hdirectories).2 (openedBy_packageDirectory hown))
  have hsplit : ∀ d, d ∈ files.directories ++ directories ↔ d ∈ files.directories ∨ OpenedBy name d := fun d => by
    rw [List.mem_append, mem_packageDirectories hdirectories]
  obtain rfl := Outcome.pure_ok.1 hadd
  split
  · rw [addDefault_of_mem ⟨_, files.directories ++ directories⟩ hopened hmem]
    exact ⟨hopened, hsplit⟩
  · exact ⟨hopened.set hmem metadata, hsplit⟩

theorem addPackages {packages : Entries String Declaration.Package} (h : Opens files.texts files.directories)
    (hadd : packages.foldlM (fun acc (entry : String × Declaration.Package) =>
      acc.addPackage entry.1 entry.2.metadata) files = .ok files') :
    Opens files'.texts files'.directories ∧
      ∀ d, d ∈ files'.directories ↔ d ∈ files.directories ∨ ∃ name ∈ packages.keys, OpenedBy name d := by
  induction packages generalizing files with
  | nil =>
      obtain rfl := Outcome.pure_ok.1 hadd
      exact ⟨h, by simp [Entries.keys]⟩
  | cons entry rest ih =>
      obtain ⟨next, hfirst, hadd⟩ := Outcome.foldlM_cons_ok.1 hadd
      obtain ⟨hnext, hopened⟩ := h.addPackage hfirst
      obtain ⟨hlast, hmore⟩ := ih hnext hadd
      refine ⟨hlast, fun d => ?_⟩
      simp only [hmore, hopened, Entries.keys, List.map_cons, List.mem_cons, exists_eq_or_imp, or_assoc]

end Opens

/-- What the modules of some declarations are, when each has one of its own beside some directories. -/
structure ModulesOf (units : List (String × Declaration)) (directories : List RelativePath)
    (modules : Entries RelativePath String) : Prop where
  each : List.Forall₂ (fun unit file => IsModule unit.1 unit.2 file) units modules
  apart : ∀ file ∈ modules, ∀ directory stem, file.1 = directory ++ [stem ++ ".py"] →
    directory ++ [stem] ∉ directories

theorem modulesOf_addUnits {units : List (String × Declaration)} (hunits : ∀ unit ∈ units, unit.2.qualifiedName?.isSome)
    (hadd : units.foldlM (fun acc unit => acc.addUnit unit.1 unit.2) files = .ok files') :
    ∃ modules, files'.texts = files.texts ++ modules ∧ ModulesOf units files.directories modules := by
  induction units generalizing files with
  | nil =>
      obtain rfl := Outcome.pure_ok.1 hadd
      exact ⟨[], (List.append_nil _).symm, .nil, by simp⟩
  | cons unit rest ih =>
      obtain ⟨next, hfirst, hadd⟩ := Outcome.foldlM_cons_ok.1 hadd
      obtain ⟨modules, htexts, hrest⟩ := ih (fun other hother => hunits other (.tail _ hother)) hadd
      rcases Files.addUnit_ok hfirst with ⟨hnone, -⟩ | ⟨file, hmodule, -, hapart, rfl⟩
      · have hsome := hunits unit (.head _)
        rw [hnone] at hsome
        cases hsome
      · refine ⟨file :: modules, ?_, .cons hmodule hrest.each, ?_⟩
        · rw [htexts, List.append_assoc]
          rfl
        · exact List.forall_mem_cons.2 ⟨hapart, hrest.apart⟩

section Descent

/-- A path that leads down from where it starts, through directories that are spelled as identifiers. -/
structure Descends (path : RelativePath) : Prop where
  parts : ∀ part ∈ path, part ∉ ["", ".", ".."] ∧ '/' ∉ part.toList
  directories : ∀ part ∈ path.dropLast, isIdentifier part = true ∧ isKeyword part = false
  relative : (pathText path).toList.head? ≠ some '/'

theorem head?_join_ne {sep : String} {c : Char} {first : String} {rest : List String} (hne : first ≠ "")
    (hfree : c ∉ first.toList) : (Text.join sep (first :: rest)).toList.head? ≠ some c := by
  obtain ⟨d, more, hd⟩ := List.exists_cons_of_ne_nil (mt String.toList_eq_nil_iff.1 hne)
  have hdc : d ≠ c := fun heq => hfree (hd ▸ heq ▸ List.mem_cons_self)
  rw [Text.join, String.toList_ofList]
  cases rest with
  | nil => simpa [hd] using hdc
  | cons next others => simpa [List.intercalate_cons_cons, hd] using hdc

theorem part_of_isIdentifier {part : String} (h : isIdentifier part = true) (hkeyword : isKeyword part = false) :
    part ∉ ["", ".", ".."] ∧ '/' ∉ part.toList := by
  have hspelled := identifier_of_isIdentifier h hkeyword
  refine ⟨fun hmem => ?_, not_mem_of_identifier (by decide) (by decide) hspelled⟩
  have hdots : ∀ other ∈ ["", ".", ".."], isIdentifier other = false := by decide
  rw [hdots part hmem] at h
  cases h

theorem descends_concat {last : String} (hlast : last ∉ ["", ".", ".."] ∧ '/' ∉ last.toList)
    (h : ∀ part ∈ directory, isIdentifier part = true ∧ isKeyword part = false) : Descends (directory ++ [last]) := by
  have hparts : ∀ part ∈ directory ++ [last], part ∉ ["", ".", ".."] ∧ '/' ∉ part.toList := by
    intro part hpart
    rcases List.mem_append.1 hpart with hpart | hpart
    · exact part_of_isIdentifier (h part hpart).1 (h part hpart).2
    · obtain rfl := List.mem_singleton.1 hpart
      exact hlast
  refine ⟨hparts, by rwa [List.dropLast_concat], ?_⟩
  rw [pathText, if_neg (by simp)]
  obtain ⟨first, rest, hpath⟩ := List.exists_cons_of_ne_nil (List.append_ne_nil_of_right_ne_nil directory
    (List.cons_ne_nil last []))
  obtain ⟨hfirst, hfree⟩ := hparts first (hpath ▸ .head _)
  rw [hpath]
  exact head?_join_ne (fun hempty => hfirst (hempty ▸ .head _)) hfree

theorem isIdentifier_of_mapM {names : List String} (h : names.mapM identifier = .ok directory) :
    ∀ part ∈ directory, isIdentifier part = true ∧ isKeyword part = false := by
  intro part hpart
  obtain ⟨name, -, hname⟩ := Outcome.exists_of_forall₂ (Outcome.mapM_ok.1 h) hpart
  exact ⟨isIdentifier_of_identifier hname, isKeyword_of_identifier hname⟩

theorem descends_initPath {name : String} (h : OpenedBy name directory) : Descends (initPath directory) := by
  refine descends_concat (by decide) ?_
  rw [OpenedBy] at h
  split at h
  · simp [h]
  · obtain ⟨front, -, -, hfront⟩ := h
    exact isIdentifier_of_mapM hfront

theorem slash_not_mem_stem {package : String} {d : Declaration} {stem : String}
    (h : BelongsAt package d directory stem) : '/' ∉ stem.toList := by
  obtain ⟨name, segments, -, hsegments, -, rfl⟩ := h
  cases hlast : segments.getLast? with
  | none => exact List.not_mem_nil
  | some stem =>
      obtain ⟨segment, -, hsegment⟩ := Outcome.exists_of_forall₂ (Outcome.mapM_ok.1 hsegments)
        (List.mem_of_getLast? hlast)
      exact not_mem_of_identifier (by decide) (by decide) hsegment

theorem descends_module {package : String} {d : Declaration} {file : RelativePath × String}
    (h : IsModule package d file) : Descends file.1 := by
  obtain ⟨directory, stem, hplace, hpath⟩ := h.belongsAt
  have hslash := slash_not_mem_stem hplace
  obtain ⟨_, _, _, _, hdirectory, _⟩ := hplace
  rw [hpath]
  refine descends_concat ⟨fun hmem => ?_, by simp [hslash]⟩ (isIdentifier_of_mapM hdirectory)
  have hlasts : ∀ other ∈ ["", ".", ".."], other.toList.getLast? ≠ some 'y' := by decide
  exact hlasts _ hmem (by simp)

end Descent

/-- What the files of a tree are: package files, one for each directory, and modules, one for each declaration at the top of
a package, beside no directory of the same name; all on paths of their own, below the output directory. -/
structure LaidOut (t : Tree) (files : Entries RelativePath String) : Prop where
  split : ∃ packages modules, files = packages ++ modules ∧ (∀ file ∈ packages, IsPackageFile file) ∧
    (∀ path, path ∈ packages.keys ↔ ∃ directory, IsDirectory t directory ∧ path = initPath directory) ∧
    List.Forall₂ (fun unit file => IsModule unit.1 unit.2 file) t.units modules
  distinct : files.keys.Nodup
  apart : ∀ unit ∈ t.units, ∀ directory stem, BelongsAt unit.1 unit.2 directory stem →
    ¬ IsDirectory t (directory ++ [stem])
  descends : ∀ file ∈ files, Descends file.1

theorem exists_of_render (hunits : ∀ unit ∈ t.units, unit.2.qualifiedName?.isSome)
    {texts : Entries RelativePath String} (h : render t = .ok texts) : ∃ packages modules,
      t.packages.foldlM (fun acc (entry : String × Declaration.Package) => acc.addPackage entry.1 entry.2.metadata)
        (⟨[], []⟩ : Files) = .ok packages ∧ texts = packages.texts ++ modules ∧
      Opens packages.texts packages.directories ∧ (∀ d, d ∈ packages.directories ↔ IsDirectory t d) ∧
      ModulesOf t.units packages.directories modules := by
  obtain ⟨packages, hpackages, h⟩ := Outcome.bind_ok.1 h
  obtain ⟨all, hall, h⟩ := Outcome.bind_ok.1 h
  obtain rfl := Outcome.pure_ok.1 h
  have hempty : Opens (⟨[], []⟩ : Files).texts (⟨[], []⟩ : Files).directories := ⟨rfl, by simp⟩
  obtain ⟨hopens, hdirectories⟩ := hempty.addPackages hpackages
  obtain ⟨modules, htexts, hmodules⟩ := modulesOf_addUnits hunits hall
  exact ⟨packages, modules, hpackages, htexts, hopens,
    fun d => (hdirectories d).trans (or_iff_right List.not_mem_nil), hmodules⟩

theorem laidOut_of_render (hunits : ∀ unit ∈ t.units, unit.2.qualifiedName?.isSome) (h : render t = .ok texts) :
    LaidOut t texts := by
  obtain ⟨packages, modules, -, htexts, hopens, hdirectories, hmodules⟩ := exists_of_render hunits h
  refine ⟨⟨packages.texts, modules, htexts, hopens.2, fun path => ?_, hmodules.each⟩, (render_ok h).1.distinct, ?_, ?_⟩
  · simp only [hopens.mem_keys, hdirectories]
  · intro unit hunit directory stem hplace hdirectory
    obtain ⟨file, hfile, hmodule⟩ := Outcome.exists_of_forall₂ hmodules.each.flip hunit
    obtain ⟨directory', stem', hplace', hpath⟩ := IsModule.belongsAt hmodule
    obtain ⟨rfl, rfl⟩ := hplace.unique hplace'
    exact hmodules.apart file hfile directory stem hpath ((hdirectories _).2 hdirectory)
  · intro file hfile
    rw [htexts] at hfile
    rcases List.mem_append.1 hfile with hfile | hfile
    · obtain ⟨d, hd, hpath⟩ := hopens.mem_keys.1 (List.mem_map_of_mem hfile)
      obtain ⟨name, -, hopened⟩ := (hdirectories d).1 hd
      rw [hpath]
      exact descends_initPath hopened
    · obtain ⟨unit, -, hmodule⟩ := Outcome.exists_of_forall₂ hmodules.each hfile
      exact descends_module hmodule

theorem LaidOut.place_unique {files : Entries RelativePath String} (h : LaidOut t files) {i j : Nat}
    {unit other : String × Declaration} (hi : t.units[i]? = some unit) (hj : t.units[j]? = some other)
    {stem : String} (hunit : BelongsAt unit.1 unit.2 directory stem)
    (hother : BelongsAt other.1 other.2 directory stem) : i = j := by
  obtain ⟨packages, modules, hfiles, -, -, heach⟩ := h.split
  have hpath : ∀ {k : Nat} {u : String × Declaration}, t.units[k]? = some u →
      BelongsAt u.1 u.2 directory stem → modules.keys[k]? = some (directory ++ [stem ++ ".py"]) := by
    intro k u hk hplace
    obtain ⟨hlt, rfl⟩ := List.getElem?_eq_some_iff.1 hk
    have hmodule := heach.get hlt (heach.length_eq ▸ hlt)
    obtain ⟨directory', stem', hplace', hfile⟩ := hmodule.belongsAt
    obtain ⟨rfl, rfl⟩ := hplace.unique hplace'
    rw [Entries.keys, List.getElem?_map, List.getElem?_eq_getElem (heach.length_eq ▸ hlt), ← hfile]
    rfl
  have hnodup : modules.keys.Nodup := by
    have hdistinct := h.distinct
    rw [hfiles, Entries.keys, List.map_append] at hdistinct
    exact hdistinct.of_append_right
  have hlt := (List.getElem?_eq_some_iff.1 (hpath hi hunit)).1
  exact (List.getElem?_inj hlt hnodup).1 ((hpath hi hunit).trans (hpath hj hother).symm)

end TopicBindings.Source
