import TopicBindings.Declaration.Tree
import TopicBindings.Proofs.Entries

/-!
Scopes of a tree extended by whole lists of declarations. Declaring a type and then its members one by one
comes to adding the finished type at once.
-/

namespace TopicBindings.Declaration

open Binding (QualifiedName)

def changeAt (change : List Declaration → List Declaration) :
    List String → List Declaration → List Declaration
  | [], members => change members
  | step :: path, members => changeMembersOf step (changeAt change path) members

theorem appendAt_eq_changeAt (new : Declaration) (path : List String) (members : List Declaration) :
    appendAt new path members = changeAt (· ++ [new]) path members := by
  induction path generalizing members with
  | nil => rfl
  | cons step path ih =>
      simp only [appendAt, changeAt]
      congr 1
      exact funext ih

theorem changeMembersOf_comp (name : String) (f g : List Declaration → List Declaration)
    (members : List Declaration) :
    changeMembersOf name f (changeMembersOf name g members) =
      changeMembersOf name (fun inner => f (g inner)) members := by
  induction members with
  | nil => rfl
  | cons d rest ih =>
      cases d with
      | type n doc shape inner =>
          by_cases h : n.name = name
          · simp [changeMembersOf, h]
          · simp [changeMembersOf, h, ih]
      | _ => simp [changeMembersOf, ih]

theorem changeMembersOf_congr {name : String} {f g : List Declaration → List Declaration}
    {members : List Declaration} (h : f (membersOf name members) = g (membersOf name members)) :
    changeMembersOf name f members = changeMembersOf name g members := by
  induction members with
  | nil => rfl
  | cons d rest ih =>
      cases d with
      | type n doc shape inner =>
          by_cases hn : n.name = name
          · simp only [membersOf, hn, if_true] at h
            simp [changeMembersOf, hn, h]
          · simp only [membersOf, hn, if_false] at h
            simp [changeMembersOf, hn, ih h]
      | _ => simp [changeMembersOf, ih h]

theorem memberName?_changeMembersOf (name : String) (f : List Declaration → List Declaration)
    (members : List Declaration) :
    (changeMembersOf name f members).map memberName? = members.map memberName? := by
  induction members with
  | nil => rfl
  | cons d rest ih =>
      cases d with
      | type n doc shape inner =>
          by_cases h : n.name = name
          · simp [changeMembersOf, h, memberName?]
          · simp [changeMembersOf, h, ih]
      | _ => simp [changeMembersOf, ih]

theorem qualifiedName?_changeMembersOf (name : String) (f : List Declaration → List Declaration)
    (members : List Declaration) :
    (changeMembersOf name f members).map qualifiedName? = members.map qualifiedName? := by
  induction members with
  | nil => rfl
  | cons d rest ih =>
      cases d with
      | type n doc shape inner =>
          by_cases h : n.name = name
          · simp [changeMembersOf, h, qualifiedName?]
          · simp [changeMembersOf, h, ih]
      | _ => simp [changeMembersOf, ih]

/-- A type at the end of its scope is the one that its name leads to if the name was free. -/
theorem changeMembersOf_append_type {name : QualifiedName} {members : List Declaration}
    (hfree : some name.name ∉ members.map memberName?) (f : List Declaration → List Declaration)
    (doc : Doc) (shape : Shape) (inner : List Declaration) :
    changeMembersOf name.name f (members ++ [.type name doc shape inner]) =
      members ++ [.type name doc shape (f inner)] := by
  induction members with
  | nil => simp [changeMembersOf]
  | cons d rest ih =>
      simp only [List.map_cons, List.mem_cons, not_or] at hfree
      cases d with
      | type n doc' shape' inner' =>
          have hn : n.name ≠ name.name := by simpa [memberName?, eq_comm] using hfree.1
          simp [changeMembersOf, hn, ih hfree.2]
      | _ => simp [changeMembersOf, ih hfree.2]

theorem changeAt_comp (f g : List Declaration → List Declaration) (path : List String)
    (members : List Declaration) :
    changeAt f path (changeAt g path members) = changeAt (fun inner => f (g inner)) path members := by
  induction path generalizing members with
  | nil => rfl
  | cons step path ih =>
      simp only [changeAt, changeMembersOf_comp]
      congr 1
      exact funext ih

theorem changeAt_congr {f g : List Declaration → List Declaration} {path : List String}
    {members : List Declaration} (h : f (membersAt path members) = g (membersAt path members)) :
    changeAt f path members = changeAt g path members := by
  induction path generalizing members with
  | nil => exact h
  | cons step path ih => exact changeMembersOf_congr (ih h)

theorem changeMembersOf_id (name : String) (members : List Declaration) :
    changeMembersOf name (fun inner => inner) members = members := by
  induction members with
  | nil => rfl
  | cons d rest ih => cases d <;> simp [changeMembersOf, ih]

theorem changeAt_id (path : List String) (members : List Declaration) :
    changeAt (fun inner => inner) path members = members := by
  induction path generalizing members with
  | nil => rfl
  | cons step path ih =>
      have : changeAt (fun inner => inner) path = fun inner => inner := funext ih
      rw [changeAt, this, changeMembersOf_id]

theorem changeAt_append (f : List Declaration → List Declaration) (path inner : List String)
    (members : List Declaration) :
    changeAt f (path ++ inner) members = changeAt (changeAt f inner) path members := by
  induction path generalizing members with
  | nil => rfl
  | cons first path ih =>
      simp only [List.cons_append, changeAt]
      congr 1
      exact funext ih

theorem changeAt_child (f : List Declaration → List Declaration) (path : List String) (step : String)
    (members : List Declaration) :
    changeAt f (path ++ [step]) members = changeAt (changeMembersOf step f) path members :=
  changeAt_append f path [step] members

namespace Tree

variable {t : Tree} {scope : Scope}

def names (t : Tree) : List String :=
  t.packages.map Prod.fst

def changeScope (t : Tree) (scope : Scope) (f : List Declaration → List Declaration) : Tree :=
  t.modifyPackage scope.package fun p => { p with units := changeAt f scope.path p.units }

def extend (t : Tree) (scope : Scope) (new : List Declaration) : Tree :=
  t.modifyPackage scope.package fun p => { p with units := changeAt (· ++ new) scope.path p.units }

theorem extend_eq_changeScope (t : Tree) (scope : Scope) (new : List Declaration) :
    t.extend scope new = t.changeScope scope (· ++ new) :=
  rfl

theorem names_modifyPackage (t : Tree) (name : String) (change : Package → Package) :
    (t.modifyPackage name change).names = t.names := by
  simp only [names, modifyPackage, List.map_map]
  refine List.map_congr_left fun entry _ => ?_
  simp only [Function.comp_apply]
  split <;> rfl

@[simp]
theorem names_extend (t : Tree) (scope : Scope) (new : List Declaration) :
    (t.extend scope new).names = t.names :=
  names_modifyPackage ..

@[simp]
theorem names_noteMetadata (t : Tree) (package : String) (entries : Entries String String) :
    (t.noteMetadata package entries).names = t.names :=
  names_modifyPackage ..

theorem append_eq_extend (t : Tree) (scope : Scope) (new : Declaration) :
    t.append scope new = t.extend scope [new] := by
  simp only [append, extend, appendAt_eq_changeAt]

theorem modifyPackage_comp (t : Tree) (name : String) (f g : Package → Package) :
    (t.modifyPackage name f).modifyPackage name g = t.modifyPackage name fun p => g (f p) := by
  simp only [modifyPackage, List.map_map]
  congr 1
  refine List.map_congr_left fun entry _ => ?_
  by_cases h : entry.1 = name <;> simp [h]

theorem changeScope_comp (t : Tree) (scope : Scope) (f g : List Declaration → List Declaration) :
    (t.changeScope scope f).changeScope scope g = t.changeScope scope fun members => g (f members) := by
  simp only [changeScope, modifyPackage_comp, changeAt_comp]

theorem extend_extend (t : Tree) (scope : Scope) (first second : List Declaration) :
    (t.extend scope first).extend scope second = t.extend scope (first ++ second) := by
  simp only [extend_eq_changeScope, changeScope_comp, List.append_assoc]

theorem changeScope_id (t : Tree) (scope : Scope) : t.changeScope scope (fun members => members) = t := by
  simp only [changeScope, modifyPackage, changeAt_id]
  rw [show (fun entry : String × Package =>
    if entry.1 = scope.package then (entry.1, ({ entry.2 with units := entry.2.units } : Package))
    else (entry.1, entry.2)) = id from funext fun entry => by split <;> rfl]
  simp

theorem extend_nil (t : Tree) (scope : Scope) : t.extend scope [] = t := by
  simp only [extend_eq_changeScope, List.append_nil, changeScope_id]

theorem package?_eq_of_mem (hn : t.names.Nodup) {name : String} {p : Package}
    (hp : (name, p) ∈ t.packages) : t.package? name = some p :=
  Entries.lookup_of_mem hn hp

theorem members_eq_of_mem (hn : t.names.Nodup) {p : Package} (hp : (scope.package, p) ∈ t.packages) :
    t.members scope = membersAt scope.path p.units := by
  simp only [members, package?_eq_of_mem hn hp]

theorem members_package_of_mem {package : String} (hn : t.names.Nodup) {p : Package}
    (hp : (package, p) ∈ t.packages) : t.members (.ofPackage package) = p.units :=
  members_eq_of_mem hn hp

theorem modifyPackage_congr {name : String} {f g : Package → Package}
    (h : ∀ p, (name, p) ∈ t.packages → f p = g p) : t.modifyPackage name f = t.modifyPackage name g := by
  simp only [modifyPackage]
  congr 1
  refine List.map_congr_left fun entry hm => ?_
  obtain ⟨n, p⟩ := entry
  by_cases hn : n = name
  · subst hn
    simp [h p hm]
  · simp [hn]

/-- What is done in the scope of a type that was just declared makes it the type with these members. -/
theorem changeScope_child (hn : t.names.Nodup) {name : String}
    (hfree : some name ∉ (t.members scope).map memberName?) (doc : Doc) (shape : Shape)
    (f : List Declaration → List Declaration) :
    (t.extend scope [.type (scope.nameOf name) doc shape []]).changeScope (scope.child name) f =
      t.extend scope [.type (scope.nameOf name) doc shape (f [])] := by
  simp only [extend, changeScope, Scope.child, modifyPackage_comp, changeAt_child, changeAt_comp]
  refine modifyPackage_congr fun p hp => ?_
  rw [members_eq_of_mem hn hp] at hfree
  have hfree' : some (scope.nameOf name).name ∉ (membersAt scope.path p.units).map memberName? := hfree
  congr 1
  apply changeAt_congr
  exact changeMembersOf_append_type hfree' f doc shape []

theorem extend_child (hn : t.names.Nodup) {name : String}
    (hfree : some name ∉ (t.members scope).map memberName?) (doc : Doc) (shape : Shape)
    (inner : List Declaration) :
    (t.extend scope [.type (scope.nameOf name) doc shape []]).extend (scope.child name) inner =
      t.extend scope [.type (scope.nameOf name) doc shape inner] :=
  changeScope_child hn hfree doc shape (· ++ inner)

end Tree

end TopicBindings.Declaration
