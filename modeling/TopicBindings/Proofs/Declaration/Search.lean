import TopicBindings.Proofs.Declaration.Nodes
import TopicBindings.Proofs.Text.Fields

/-!
Looking types and enumerations up by dotted names. The first one wins, packages in order of their first use and every
type before those inside it. Dots do not tell the name of a package from that of a type, so different places may have
one dotted name; they do not where no name holds a dot and no package is called like a type.
-/

namespace TopicBindings

namespace Binding.QualifiedName

open Text (join splitAt)

def IsStep (s : String) : Prop :=
  s ≠ "" ∧ '.' ∉ s.toList

instance (s : String) : Decidable (IsStep s) :=
  inferInstanceAs (Decidable (_ ∧ _))

def packageSteps (n : QualifiedName) : List String :=
  if n.package = "" then [] else splitAt '.' n.package

variable {n m : QualifiedName}

theorem path_ne_nil (n : QualifiedName) : n.path ≠ [] := by
  simp [path]

theorem localName_ne_empty (h : ∀ s ∈ n.path, IsStep s) : n.localName ≠ "" := by
  intro hempty
  have hsplit := Text.splitAt_join n.path_ne_nil fun s hs => (h s hs).2
  have hpath : n.path = [""] := hsplit.symm.trans (congrArg (splitAt '.') hempty)
  exact (h "" (by simp [hpath])).1 rfl

theorem splitAt_toText (h : ∀ s ∈ n.path, IsStep s) : splitAt '.' n.toText = n.packageSteps ++ n.path := by
  have hlocal : splitAt '.' n.localName = n.path := Text.splitAt_join n.path_ne_nil fun s hs => (h s hs).2
  have hnonempty := localName_ne_empty h
  rw [packageSteps]
  by_cases hpackage : n.package = ""
  · have htext : n.toText = n.localName := by
      simp [toText, hpackage, hnonempty]
    rw [htext, hlocal, if_pos hpackage, List.nil_append]
  · have htext : n.toText = n.package ++ String.singleton '.' ++ n.localName := by
      simp [toText, hpackage, hnonempty, String.intercalate_cons_cons]
    rw [htext, Text.splitAt_append_sep, hlocal, if_neg hpackage]

theorem package_eq_of_steps (h : n.packageSteps = m.packageSteps) : n.package = m.package := by
  have hjoin : ∀ k : QualifiedName, k.package = join "." k.packageSteps := by
    intro k
    rw [packageSteps]
    split
    next hpackage => rw [hpackage]; rfl
    · exact (Text.join_splitAt '.' k.package).symm
  rw [hjoin n, hjoin m, h]

theorem toText_eq_package {around : QualifiedName} (haround : ∀ s ∈ around.path, IsStep s)
    (h : m.packageSteps = around.packageSteps ++ around.path) : around.toText = m.package := by
  have hpackage : m.package ≠ "" := by
    intro hempty
    rw [packageSteps, if_pos hempty] at h
    exact around.path_ne_nil (List.append_eq_nil_iff.1 h.symm).2
  have hsplit : splitAt '.' m.package = splitAt '.' around.toText := by
    rw [splitAt_toText haround, ← h, packageSteps, if_neg hpackage]
  rw [← Text.join_splitAt '.' around.toText, ← hsplit, Text.join_splitAt]

/-- A type at or around the place of a name has the dotted name of a package. -/
def Overlaps (n : QualifiedName) (package : String) : Prop :=
  ∃ outer, outer ≠ [] ∧ outer <+: n.path ∧
    ∀ around : QualifiedName, around.package = n.package → around.path = outer → around.toText = package

theorem eq_or_overlaps (hn : ∀ s ∈ n.path, IsStep s) {steps : List String}
    (hpackage : m.packageSteps = n.packageSteps ++ steps) (hpath : n.path = steps ++ m.path) :
    (n.package = m.package ∧ n.path = m.path) ∨ n.Overlaps m.package := by
  by_cases hsteps : steps = []
  · subst hsteps
    rw [List.append_nil] at hpackage
    exact .inl ⟨package_eq_of_steps hpackage.symm, hpath⟩
  · refine .inr ⟨steps, hsteps, ⟨m.path, hpath.symm⟩, fun around hsame haround => ?_⟩
    refine toText_eq_package (fun s hs => hn s ?_) ?_
    · rw [hpath]
      exact List.mem_append_left _ (haround ▸ hs)
    · rw [hpackage, haround, packageSteps, packageSteps, hsame]

/-- Two names of one text are the same, unless a dot stands in a package in one of them and between types in the
other. -/
theorem eq_or_overlaps_of_toText (hn : ∀ s ∈ n.path, IsStep s) (hm : ∀ s ∈ m.path, IsStep s)
    (h : n.toText = m.toText) :
    (n.package = m.package ∧ n.path = m.path) ∨ n.Overlaps m.package ∨ m.Overlaps n.package := by
  have hsteps : n.packageSteps ++ n.path = m.packageSteps ++ m.path := by
    rw [← splitAt_toText hn, h, splitAt_toText hm]
  rcases List.append_eq_append_iff.1 hsteps with ⟨steps, hpackage, hpath⟩ | ⟨steps, hpackage, hpath⟩
  · exact (eq_or_overlaps hn hpackage hpath).imp_right .inl
  · exact (eq_or_overlaps hm hpackage hpath).imp (fun hsame => ⟨hsame.1.symm, hsame.2.symm⟩) .inr

theorem eq_of_path (hpackage : n.package = m.package) (hpath : n.path = m.path)
    (horigin : n.importedFrom = m.importedFrom) : n = m := by
  obtain ⟨hinit, hlast⟩ := List.append_inj' hpath rfl
  cases n
  cases m
  simp_all

end Binding.QualifiedName

namespace Declaration

open Binding (QualifiedName)
open Binding.QualifiedName (IsStep)

def dottedName? (d : Declaration) : Option String :=
  d.qualifiedName?.map QualifiedName.toText

variable {package : String} {path : List String}

theorem findAmong?_eq_findSome? (wanted : String) (ds : List Declaration) :
    findAmong? wanted ds = ds.findSome? (find? wanted) := by
  induction ds with
  | nil => rfl
  | cons d rest ih =>
      rw [findAmong?, List.findSome?_cons, ih]
      cases d.find? wanted <;> rfl

mutual

theorem find?_eq_find?_nodes (wanted : String) :
    ∀ d : Declaration, d.find? wanted = (nodes d).find? fun e => e.dottedName? = some wanted
  | .type name doc shape members => by
      have hmembers := findAmong?_eq_find?_nodesAll wanted members
      by_cases hname : name.toText = wanted <;>
        simp [find?, nodes, dottedName?, qualifiedName?, hname, hmembers]
  | .enumeration name doc literals => by
      by_cases hname : name.toText = wanted <;> simp [find?, nodes, dottedName?, qualifiedName?, hname]
  | .field _ => rfl
  | .method _ => rfl
  | .raw _ => rfl

theorem findAmong?_eq_find?_nodesAll (wanted : String) :
    ∀ ds : List Declaration, findAmong? wanted ds = (nodesAll ds).find? fun e => e.dottedName? = some wanted
  | [] => rfl
  | d :: rest => by
      have hfirst := find?_eq_find?_nodes wanted d
      have hrest := findAmong?_eq_find?_nodesAll wanted rest
      rw [findAmong?, nodesAll, List.find?_append, ← hfirst, ← hrest]
      cases d.find? wanted <;> rfl

end

/-- On the way to a node at or below a declaration, every place inside its scope is the declaration or inside it. -/
theorem path_prefix {d e : Declaration} {own name : QualifiedName} {outer : List String} (h : Orderly package path d)
    (hown : d.qualifiedName? = some own) (he : e ∈ nodes d) (hname : e.qualifiedName? = some name)
    (hpre : outer <+: name.path) (hlen : path.length < outer.length) : own.path <+: outer := by
  have hmember := memberName?_of_qualifiedName? hown
  obtain ⟨n, own', hn, -, -, hown', hself⟩ := names_of_mem_nodes d h e he
  obtain rfl : n = name := Option.some.inj (hn.symm.trans hname)
  obtain rfl : own' = own.name := Option.some.inj (hown'.symm.trans hmember)
  have hplace := name_of_orderly h hmember (Option.isSome_of_eq_some hown)
  have hpath : own.path = path ++ [own.name] := by rw [Option.some.inj (hown.symm.trans hplace)]; rfl
  rw [hpath]
  exact List.prefix_of_prefix_length_le hself hpre (by simpa using Nat.succ_le_of_lt hlen)

mutual

theorem exists_node_around {outer : List String} : ∀ {path : List String} (d : Declaration), Orderly package path d →
    ∀ e ∈ nodes d, ∀ name, e.qualifiedName? = some name → outer <+: name.path → path.length < outer.length →
      ∃ f ∈ nodes d, ∃ around, f.qualifiedName? = some around ∧ around.package = package ∧ around.path = outer
  | path, .type own doc shape members, h, e, he, name, hname, hpre, hlen => by
      have hown : own.path <+: outer := path_prefix h rfl he hname hpre hlen
      -- The place that is asked for is this type, or it is inside it.
      by_cases hsame : own.path = outer
      · exact ⟨_, .head _, own, rfl, by rw [h.1], hsame⟩
      · rcases List.mem_cons.1 he with rfl | he
        · obtain rfl : own = name := Option.some.inj hname
          exact absurd (hown.eq_of_length_le hpre.length_le) hsame
        · have hinner : (path ++ [own.name]).length < outer.length := by
            have hlt := lt_of_le_of_ne hown.length_le fun hlen => hsame (hown.eq_of_length hlen)
            rwa [h.1] at hlt
          obtain ⟨f, hf, hfound⟩ := exists_node_around_all members h.2 e he name hname hpre hinner
          exact ⟨f, .tail _ hf, hfound⟩
  | path, .enumeration own doc literals, h, e, he, name, hname, hpre, hlen => by
      have hown : own.path <+: outer := path_prefix h rfl he hname hpre hlen
      obtain rfl := List.mem_singleton.1 he
      obtain rfl : own = name := Option.some.inj hname
      exact ⟨_, .head _, own, rfl, by rw [h], hown.eq_of_length_le hpre.length_le⟩
  | _, .field _, _, _, he, _, _, _, _ => by simp [nodes] at he
  | _, .method _, _, _, he, _, _, _, _ => by simp [nodes] at he
  | _, .raw _, _, _, he, _, _, _, _ => by simp [nodes] at he

theorem exists_node_around_all {outer : List String} : ∀ {path : List String} (ds : List Declaration),
    OrderlyAll package path ds → ∀ e ∈ nodesAll ds, ∀ name, e.qualifiedName? = some name → outer <+: name.path →
      path.length < outer.length →
        ∃ f ∈ nodesAll ds, ∃ around, f.qualifiedName? = some around ∧ around.package = package ∧ around.path = outer
  | _, [], _, _, he, _, _, _, _ => by simp [nodesAll] at he
  | _, d :: rest, h, e, he, name, hname, hpre, hlen => by
      rcases List.mem_append.1 he with he | he
      · obtain ⟨f, hf, hfound⟩ := exists_node_around d h.1 e he name hname hpre hlen
        exact ⟨f, List.mem_append_left _ hf, hfound⟩
      · obtain ⟨f, hf, hfound⟩ := exists_node_around_all rest h.2.2 e he name hname hpre hlen
        exact ⟨f, List.mem_append_right _ hf, hfound⟩

end

namespace Tree

theorem find?_eq (t : Tree) (wanted : String) :
    t.find? wanted = t.nodes.find? fun d => d.dottedName? = some wanted := by
  have hunits : t.find? wanted = (t.packages.flatMap fun entry => entry.2.units.map fun d => (entry.1, d)).findSome?
      fun unit => unit.2.find? wanted := rfl
  rw [hunits, nodes]
  induction t.packages with
  | nil => rfl
  | cons entry rest ih =>
      have hpackage : (entry.2.units.map fun d => (entry.1, d)).findSome? (fun unit => unit.2.find? wanted) =
          (nodesAll entry.2.units).find? fun d => d.dottedName? = some wanted := by
        rw [List.findSome?_map, ← findAmong?_eq_find?_nodesAll, findAmong?_eq_findSome?]
        rfl
      rw [List.flatMap_cons, List.flatMap_cons, List.findSome?_append, List.find?_append, ih, hpackage]

variable {t : Tree} {d e : Declaration} {name other : QualifiedName}

theorem find?_eq_none {wanted : String} : t.find? wanted = none ↔ ∀ d ∈ t.nodes, d.dottedName? ≠ some wanted := by
  simp [find?_eq]

theorem mem_of_find? {wanted : String} (h : t.find? wanted = some d) :
    d ∈ t.nodes ∧ d.dottedName? = some wanted := by
  rw [find?_eq] at h
  exact ⟨List.mem_of_find?_eq_some h, by simpa using List.find?_some h⟩

section Sound

variable (h : t.Sound)
include h

theorem Sound.not_mem_before {before after : List Declaration} (hnodes : t.nodes = before ++ d :: after)
    (hname : d.qualifiedName? = some name) : d ∉ before := by
  have hnames := h.nodup_names
  rw [hnodes, List.filterMap_append, List.filterMap_cons, hname, List.nodup_append] at hnames
  exact fun hd => hnames.2.2 name (List.mem_filterMap.2 ⟨d, hd, hname⟩) name (.head _) rfl

/-- A declaration is found by its name unless one before it has the same dotted name. -/
theorem Sound.find?_eq_some {before after : List Declaration} (hnodes : t.nodes = before ++ d :: after)
    (hname : d.qualifiedName? = some name) :
    t.find? name.toText = some d ↔ ∀ e ∈ before, e.dottedName? ≠ some name.toText := by
  have hdotted : d.dottedName? = some name.toText := by rw [dottedName?, hname]; rfl
  have hfresh := h.not_mem_before hnodes hname
  rw [find?_eq, hnodes, List.find?_append]
  constructor
  · intro hfound e he hsame
    have hsome : (before.find? fun e => e.dottedName? = some name.toText).isSome :=
      List.find?_isSome.2 ⟨e, he, decide_eq_true hsame⟩
    obtain ⟨first, hfirst⟩ := Option.isSome_iff_exists.1 hsome
    rw [hfirst, Option.some_or] at hfound
    obtain rfl := Option.some.inj hfound
    exact hfresh (List.mem_of_find?_eq_some hfirst)
  · intro hnone
    have hbefore : before.find? (fun e => e.dottedName? = some name.toText) = none := by simpa using hnone
    rw [hbefore, Option.none_or, List.find?_cons_of_pos (by simpa using hdotted)]

theorem Sound.exists_name (hd : d ∈ t.nodes) : ∃ name, d.qualifiedName? = some name := by
  obtain ⟨entry, hentry, hd⟩ := List.mem_flatMap.1 hd
  obtain ⟨name, own, hname, -⟩ := names_of_mem_nodesAll _ (h.orderly entry hentry) d hd
  exact ⟨name, hname⟩

theorem Sound.exists_entry (hd : d ∈ t.nodes) (hname : d.qualifiedName? = some name) :
    ∃ entry ∈ t.packages, d ∈ nodesAll entry.2.units ∧ name.package = entry.1 ∧ name.importedFrom = none := by
  obtain ⟨entry, hentry, hd⟩ := List.mem_flatMap.1 hd
  obtain ⟨n, own, hn, hpackage, horigin, -⟩ := names_of_mem_nodesAll _ (h.orderly entry hentry) d hd
  obtain rfl : n = name := Option.some.inj (hn.symm.trans hname)
  exact ⟨entry, hentry, hd, hpackage, horigin⟩

theorem Sound.exists_around (hd : d ∈ t.nodes) (hname : d.qualifiedName? = some name) {outer : List String}
    (hpre : outer <+: name.path) (hne : outer ≠ []) :
    ∃ f ∈ t.nodes, ∃ around, f.qualifiedName? = some around ∧ around.package = name.package ∧ around.path = outer := by
  obtain ⟨entry, hentry, hd, hpackage, -⟩ := h.exists_entry hd hname
  obtain ⟨f, hf, hfound⟩ :=
    exists_node_around_all _ (h.orderly entry hentry) d hd _ hname hpre (List.length_pos_iff.2 hne)
  exact ⟨f, List.mem_flatMap.2 ⟨entry, hentry, hf⟩, by rwa [hpackage]⟩

end Sound

/-- No name of a type or an enumeration is empty or holds a dot, and no package has the dotted name of one. -/
structure Unambiguous (t : Tree) : Prop where
  steps : ∀ d ∈ t.nodes, ∀ name, d.qualifiedName? = some name → IsStep name.name
  apart : ∀ d ∈ t.nodes, ∀ package ∈ t.names, d.dottedName? ≠ some package

namespace Unambiguous

variable (hu : t.Unambiguous) (h : t.Sound)
include hu h

theorem isStep (hd : d ∈ t.nodes) (hname : d.qualifiedName? = some name) : ∀ s ∈ name.path, IsStep s := by
  intro s hs
  obtain ⟨front, back, hpath⟩ := List.append_of_mem hs
  have hpre : front ++ [s] <+: name.path := ⟨back, by simp [hpath]⟩
  obtain ⟨f, hf, around, haround, -, hends⟩ := h.exists_around hd hname hpre (by simp)
  have hlast : around.name = s := by
    have := congrArg List.getLast? hends
    simpa [QualifiedName.path] using this
  exact hlast ▸ hu.steps f hf around haround

theorem not_overlaps (hd : d ∈ t.nodes) (hname : d.qualifiedName? = some name) {package : String}
    (hpackage : package ∈ t.names) : ¬name.Overlaps package := by
  rintro ⟨outer, hne, hpre, houter⟩
  obtain ⟨f, hf, around, haround, hsame, hpath⟩ := h.exists_around hd hname hpre hne
  refine hu.apart f hf package hpackage ?_
  rw [dottedName?, haround, Option.map_some, houter around hsame hpath]

theorem name_eq (hd : d ∈ t.nodes) (hname : d.qualifiedName? = some name) (he : e ∈ t.nodes)
    (hother : e.qualifiedName? = some other) (htext : name.toText = other.toText) : name = other := by
  obtain ⟨entry, hentry, -, hpackage, horigin⟩ := h.exists_entry hd hname
  obtain ⟨entry', hentry', -, hpackage', horigin'⟩ := h.exists_entry he hother
  have hmem : name.package ∈ t.names := hpackage ▸ List.mem_map_of_mem hentry
  have hmem' : other.package ∈ t.names := hpackage' ▸ List.mem_map_of_mem hentry'
  rcases QualifiedName.eq_or_overlaps_of_toText (hu.isStep h hd hname) (hu.isStep h he hother) htext with
    ⟨hsame, hpath⟩ | hover | hover
  · exact QualifiedName.eq_of_path hsame hpath (horigin.trans horigin'.symm)
  · exact absurd hover (hu.not_overlaps h hd hname hmem')
  · exact absurd hover (hu.not_overlaps h he hother hmem)

theorem find?_eq_some (hd : d ∈ t.nodes) (hname : d.qualifiedName? = some name) : t.find? name.toText = some d := by
  cases hfound : t.find? name.toText with
  | none => exact absurd (by rw [dottedName?, hname]; rfl) (find?_eq_none.1 hfound d hd)
  | some e =>
      obtain ⟨he, hdotted⟩ := mem_of_find? hfound
      obtain ⟨other, hother, htext⟩ := Option.map_eq_some_iff.1 hdotted
      obtain rfl : name = other := hu.name_eq h hd hname he hother htext.symm
      have honly : e ∈ t.nodes.filter (fun f => f.qualifiedName? = some name) :=
        List.mem_filter.2 ⟨he, decide_eq_true hother⟩
      rw [h.filter_nodes hd hname] at honly
      rw [List.mem_singleton.1 honly]

end Unambiguous

end Tree

end Declaration

end TopicBindings
