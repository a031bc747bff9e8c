import Mathlib.Logic.Relation
import TopicBindings.Proofs.Declaration.Grown
import TopicBindings.Proofs.Declaration.Growth

/-!
The changes that building makes to a tree, one at a time and in sequence. Whatever their number and order, they keep
a tree sound and only let it grow; those made inside one type touch nothing outside it.
-/

namespace TopicBindings.Declaration

def Scope.Encloses (outer inner : Scope) : Prop :=
  outer.package = inner.package ∧ outer.path <+: inner.path

namespace Tree

variable {t t' t'' : Tree} {scope : Scope}

/-- Every package stays where it is under its name, and what it holds only grows. -/
def Grows (t t' : Tree) : Prop :=
  ∀ (i : Nat) (name : String) (p : Package), t.packages[i]? = some (name, p) →
    ∃ p', t'.packages[i]? = some (name, p') ∧ GrownAll p.units p'.units

theorem Grows.refl (t : Tree) : t.Grows t :=
  fun _ _ p hp => ⟨p, hp, .refl p.units⟩

theorem Grows.trans (h : t.Grows t') (h' : t'.Grows t'') : t.Grows t'' := by
  intro i name p hp
  obtain ⟨p', hp', hgrown⟩ := h i name p hp
  obtain ⟨p'', hp'', hgrown'⟩ := h' i name p' hp'
  exact ⟨p'', hp'', hgrown.trans hgrown'⟩

theorem Grows.mem (h : t.Grows t') {name : String} {p : Package} (hp : (name, p) ∈ t.packages) :
    ∃ p', (name, p') ∈ t'.packages ∧ GrownAll p.units p'.units := by
  obtain ⟨i, hi⟩ := List.mem_iff_getElem?.1 hp
  obtain ⟨p', hp', hgrown⟩ := h i name p hi
  exact ⟨p', List.mem_of_getElem? hp', hgrown⟩

theorem grows_openPackage (t : Tree) (name : String) : t.Grows (t.openPackage name) := by
  rw [openPackage]
  split
  · exact .refl t
  · intro i other p hp
    refine ⟨p, ?_, .refl p.units⟩
    rw [List.getElem?_append_left (List.getElem?_eq_some_iff.1 hp).1, hp]

theorem grows_modifyPackage {name : String} {change : Package → Package}
    (h : ∀ p : Package, GrownAll p.units (change p).units) (t : Tree) : t.Grows (t.modifyPackage name change) := by
  intro i other p hp
  refine ⟨if other = name then change p else p, ?_, ?_⟩
  · rw [modifyPackage, List.getElem?_map, hp]
    by_cases hname : other = name <;> simp [hname]
  · split
    · exact h p
    · exact .refl p.units

theorem grows_noteMetadata (t : Tree) (package : String) (entries : Entries String String) :
    t.Grows (t.noteMetadata package entries) := by
  refine grows_modifyPackage (fun p => ?_) t
  exact .refl p.units

theorem grows_changeScope {f : List Declaration → List Declaration} (hf : ∀ members, GrownAll members (f members))
    (t : Tree) (scope : Scope) : t.Grows (t.changeScope scope f) :=
  grows_modifyPackage (fun p => grownAll_changeAt hf scope.path p.units) t

def Has (t : Tree) (scope : Scope) : Prop :=
  ∃ p, (scope.package, p) ∈ t.packages ∧ IsPath scope.path p.units

theorem Grows.has (h : t.Grows t') (hs : t.Has scope) : t'.Has scope := by
  obtain ⟨p, hp, hpath⟩ := hs
  obtain ⟨p', hp', hgrown⟩ := h.mem hp
  exact ⟨p', hp', hgrown.isPath hpath⟩

theorem Grows.members (h : t.Grows t') (hn : t'.names.Nodup) (scope : Scope) :
    GrownAll (t.members scope) (t'.members scope) := by
  cases hp : t.package? scope.package with
  | none =>
      rw [Tree.members, hp]
      trivial
  | some p =>
      obtain ⟨p', hp', hgrown⟩ := h.mem (Entries.mem_of_lookup hp)
      rw [members_eq_of_mem hn hp', Tree.members, hp]
      exact hgrown.membersAt scope.path

theorem has_openPackage (t : Tree) (name : String) : (t.openPackage name).Has (.ofPackage name) := by
  obtain ⟨⟨other, p⟩, hp, rfl⟩ := List.mem_map.1 (mem_names_openPackage t name)
  exact ⟨p, hp, trivial⟩

theorem members_changeScope (hn : t.names.Nodup) (hs : t.Has scope) (f : List Declaration → List Declaration) :
    (t.changeScope scope f).members scope = f (t.members scope) := by
  obtain ⟨p, hp, hpath⟩ := hs
  rw [members_eq_of_mem hn hp, members, changeScope, lookup_modifyPackage, package?_eq_of_mem hn hp, Option.map_some,
    if_pos rfl]
  exact membersAt_changeAt f hpath

theorem Has.child (hs : t.Has scope) (hn : t.names.Nodup) {name : String} (h : HasType name (t.members scope)) :
    t.Has (scope.child name) := by
  obtain ⟨p, hp, hpath⟩ := hs
  rw [members_eq_of_mem hn hp] at h
  exact ⟨p, hp, isPath_concat hpath h⟩

section Orderly

variable {package : String} {outer : List String} {ds : List Declaration}

theorem orderlyAll_membersOf (h : OrderlyAll package outer ds) (step : String) :
    OrderlyAll package (outer ++ [step]) (membersOf step ds) := by
  induction ds with
  | nil => trivial
  | cons d rest ih =>
      obtain ⟨hd, -, hrest⟩ := h
      cases d with
      | type name doc shape members =>
          rw [membersOf]
          split
          next hname => exact hname ▸ hd.2
          next => exact ih hrest
      | _ => exact ih hrest

theorem orderlyAll_membersAt (h : OrderlyAll package outer ds) (path : List String) :
    OrderlyAll package (outer ++ path) (membersAt path ds) := by
  induction path generalizing outer ds with
  | nil => rwa [List.append_nil]
  | cons step path ih =>
      rw [List.append_cons]
      exact ih (orderlyAll_membersOf h step)

theorem Sound.orderly_scope (h : t.Sound) (scope : Scope) :
    OrderlyAll scope.package scope.path (t.members scope) := by
  rw [members]
  cases hp : t.package? scope.package with
  | none => trivial
  | some p => exact orderlyAll_membersAt (h.orderly _ (Entries.mem_of_lookup hp)) scope.path

theorem Sound.nameOf_eq (h : t.Sound) {d : Declaration} (hd : d ∈ t.members scope) {name : Binding.QualifiedName}
    (hname : d.qualifiedName? = some name) : name = scope.nameOf name.name := by
  have horderly := orderly_of_mem (h.orderly_scope scope) hd
  cases d with
  | type n doc shape members =>
      obtain rfl := Option.some.inj hname
      exact horderly.1
  | enumeration n doc literals =>
      obtain rfl := Option.some.inj hname
      exact horderly
  | field f => cases hname
  | method m => cases hname
  | raw content => cases hname

end Orderly

/-- A sound tree scope by scope: no two names of a scope are the same, and each type or enumeration has the name of
its place. -/
structure Lawful (t : Tree) : Prop extends t.Sound where
  named : ∀ scope, ((t.members scope).filterMap memberName?).Nodup
  placed : ∀ scope, ∀ d ∈ t.members scope, ∀ name, d.qualifiedName? = some name → name = scope.nameOf name.name

theorem Sound.lawful (h : t.Sound) : t.Lawful where
  toSound := h
  named scope := nodup_memberNames (h.orderly_scope scope)
  placed _ _ hd _ hname := h.nameOf_eq hd hname

/-- What stands in the first tree stays in the second: packages and declarations where they are, with new ones behind
them, and every scope. -/
structure Stays (t t' : Tree) : Prop where
  grows : t.Grows t'
  scopes : ∀ scope, t.Has scope → t'.Has scope
  members : ∀ scope, GrownAll (t.members scope) (t'.members scope)
  names : ∀ scope, (t.members scope).map memberName? <+: (t'.members scope).map memberName?

theorem Grows.stays (h : t.Grows t') (hn : t'.names.Nodup) : t.Stays t' where
  grows := h
  scopes _ hs := h.has hs
  members := h.members hn
  names scope := (h.members hn scope).memberNames

/-- A change to a tree in one of some scopes. At the top of a package only types and enumerations are declared. -/
inductive Step (S : Scope → Prop) (t : Tree) : Tree → Prop where
  | openPackage {name : String} (hname : S (.ofPackage name)) : Step S t (t.openPackage name)
  | noteMetadata {package : String} (hpackage : S (.ofPackage package)) (entries : Entries String String) :
      Step S t (t.noteMetadata package entries)
  | declare {t' : Tree} {scope : Scope} {new : Declaration} (hscope : S scope)
      (hnew : Orderly scope.package scope.path new) (htop : scope.path = [] → new.qualifiedName?.isSome)
      (h : t.declare scope new = .ok t') : Step S t t'

abbrev Reached (S : Scope → Prop) : Tree → Tree → Prop :=
  Relation.ReflTransGen (Step S)

variable {S S' : Scope → Prop}

theorem Reached.mono (h : Reached S t t') (hS : ∀ s, S s → S' s) : Reached S' t t' := by
  refine Relation.ReflTransGen.mono (fun _ _ hstep => ?_) _ _ h
  cases hstep with
  | openPackage hname => exact .openPackage (hS _ hname)
  | noteMetadata hpackage entries => exact .noteMetadata (hS _ hpackage) entries
  | declare hscope hnew htop hd => exact .declare (hS _ hscope) hnew htop hd

theorem Step.sound (h : Step S t t') (ht : t.Sound) : t'.Sound := by
  cases h with
  | openPackage _ => exact ht.openPackage _
  | noteMetadata _ entries => exact ht.noteMetadata _ entries
  | declare _ hnew _ hd => exact (ht.declare _ hnew hd).2.1

theorem Reached.sound (h : Reached S t t') (ht : t.Sound) : t'.Sound := by
  induction h with
  | refl => exact ht
  | tail _ hstep ih => exact hstep.sound ih

theorem eq_of_declare {new : Declaration} (h : t.declare scope new = .ok t') : t' = t.extend scope [new] := by
  rw [← append_eq_extend]
  rw [declare] at h
  split at h
  · exact (Except.ok.inj h).symm
  · split at h
    · cases h
    · exact (Except.ok.inj h).symm

theorem free_of_declare {new : Declaration} (h : t.declare scope new = .ok t') {name : String}
    (hname : new.memberName? = some name) : some name ∉ (t.members scope).map memberName? := by
  intro hmem
  rw [declare, hname] at h
  simp only [if_pos hmem] at h
  cases h

theorem Step.grows (h : Step S t t') : t.Grows t' := by
  cases h with
  | openPackage _ => exact grows_openPackage t _
  | noteMetadata _ entries => exact grows_noteMetadata t _ entries
  | declare _ _ _ hd =>
      rw [eq_of_declare hd]
      exact grows_changeScope (fun members => grownAll_append members _) t _

theorem Reached.grows (h : Reached S t t') : t.Grows t' := by
  induction h with
  | refl => exact .refl t
  | tail _ hstep ih => exact ih.trans hstep.grows

def Structured (t : Tree) : Prop :=
  ∀ unit ∈ t.units, unit.2.qualifiedName?.isSome

theorem mem_units_iff {unit : String × Declaration} :
    unit ∈ t.units ↔ ∃ p, (unit.1, p) ∈ t.packages ∧ unit.2 ∈ p.units := by
  simp only [units, List.mem_flatMap, List.mem_map]
  constructor
  · rintro ⟨⟨name, p⟩, hp, d, hd, rfl⟩
    exact ⟨p, hp, hd⟩
  · rintro ⟨p, hp, hd⟩
    exact ⟨(unit.1, p), hp, unit.2, hd, rfl⟩

theorem Structured.modifyPackage (h : t.Structured) {name : String} {change : Package → Package}
    (hchange : ∀ p : Package, (∀ d ∈ p.units, d.qualifiedName?.isSome) →
      ∀ d ∈ (change p).units, d.qualifiedName?.isSome) : (t.modifyPackage name change).Structured := by
  intro unit hunit
  obtain ⟨changed, hchanged, hd⟩ := mem_units_iff.1 hunit
  obtain ⟨p, hp, hsame⟩ := mem_modifyPackage.1 hchanged
  have hold : ∀ d ∈ p.units, d.qualifiedName?.isSome := fun d hd => h (unit.1, d) (mem_units_iff.2 ⟨p, hp, hd⟩)
  dsimp only at hsame
  rw [hsame] at hd
  split at hd
  · exact hchange p hold _ hd
  · exact hold _ hd

theorem isSome_of_appendAt {new : Declaration} {path : List String} {ds : List Declaration}
    (hnew : path = [] → new.qualifiedName?.isSome) (hds : ∀ d ∈ ds, d.qualifiedName?.isSome) :
    ∀ d ∈ appendAt new path ds, d.qualifiedName?.isSome := by
  intro d hd
  cases path with
  | nil =>
      rcases List.mem_append.1 hd with hd | hd
      · exact hds d hd
      · obtain rfl := List.mem_singleton.1 hd
        exact hnew rfl
  | cons step path =>
      have hname : d.qualifiedName? ∈ ds.map qualifiedName? := by
        rw [← qualifiedName?_changeMembersOf step (appendAt new path) ds]
        exact List.mem_map_of_mem hd
      obtain ⟨e, he, heq⟩ := List.mem_map.1 hname
      rw [← heq]
      exact hds e he

theorem Step.structured (h : Step S t t') (ht : t.Structured) : t'.Structured := by
  cases h with
  | @openPackage name _ =>
      intro unit hunit
      obtain ⟨p, hp, hd⟩ := mem_units_iff.1 hunit
      rw [Tree.openPackage] at hp
      split at hp
      · exact ht unit (mem_units_iff.2 ⟨p, hp, hd⟩)
      · rcases List.mem_append.1 hp with hp | hp
        · exact ht unit (mem_units_iff.2 ⟨p, hp, hd⟩)
        · obtain ⟨-, rfl⟩ := Prod.mk.inj (List.mem_singleton.1 hp)
          cases hd
  | noteMetadata _ entries => exact ht.modifyPackage fun _ hold => hold
  | declare _ _ htop hd =>
      rw [eq_of_declare hd, ← append_eq_extend]
      exact ht.modifyPackage fun _ hold => isSome_of_appendAt htop hold

theorem Reached.structured (h : Reached S t t') (ht : t.Structured) : t'.Structured := by
  induction h with
  | refl => exact ht
  | tail _ hstep ih => exact hstep.structured ih

/-- Changes inside a type leave everything outside it alone. -/
theorem Step.confined {outer : Scope} (hpath : outer.path ≠ []) (hS : ∀ s, S s → outer.Encloses s)
    (h : Step S t t') : ∃ f, t' = t.changeScope outer f := by
  cases h with
  | openPackage hname => exact absurd (List.prefix_nil.1 (hS _ hname).2) hpath
  | noteMetadata hpackage _ => exact absurd (List.prefix_nil.1 (hS _ hpackage).2) hpath
  | @declare _ _ new hscope _ _ hd =>
      obtain ⟨hpackage, inner, hinner⟩ := hS _ hscope
      refine ⟨changeAt (· ++ [new]) inner, ?_⟩
      rw [eq_of_declare hd, extend, changeScope, ← hpackage, ← hinner]
      simp only [changeAt_append]

theorem Reached.confined {outer : Scope} (hpath : outer.path ≠ []) (hS : ∀ s, S s → outer.Encloses s)
    (h : Reached S t t') : ∃ f, t' = t.changeScope outer f := by
  induction h with
  | refl => exact ⟨_, (changeScope_id t outer).symm⟩
  | tail _ hstep ih =>
      obtain ⟨f, rfl⟩ := ih
      obtain ⟨g, rfl⟩ := hstep.confined hpath hS
      exact ⟨_, changeScope_comp t outer f g⟩

end Tree

end TopicBindings.Declaration
