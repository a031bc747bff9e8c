import TopicBindings.Proofs.Declaration.Growth

/-!
New names for packages and for the types at the top of them. A tree and its renamed image grow alike: what can
be declared in the one can be declared in the other, and what fails in the one fails in the other for the same
reason. For that no two names in use may become one.
-/

namespace TopicBindings.Declaration

open Binding (QualifiedName TypeExpression)

/-- A new name for each package and for each type at the top of it, and new texts about types. The packages
`Known` and the types that they may hold (`Admits`) keep apart. -/
structure Renaming where
  package : String → String
  outermost : String → String → String
  about : QualifiedName → Doc → Doc
  Known : String → Prop
  Admits : String → String → Prop
  package_inj : ∀ {p q}, Known p → Known q → package p = package q → p = q
  outermost_inj : ∀ {p n m}, Admits p n → Admits p m → outermost p n = outermost p m → n = m

namespace Renaming

/-- The new name of something declared in a scope. Inside a type all names stay. -/
def own (ρ : Renaming) (s : Scope) (name : String) : String :=
  if s.path = [] then ρ.outermost s.package name else name

def steps (ρ : Renaming) (s : Scope) : List String → List String
  | [] => []
  | step :: rest => ρ.own s step :: rest

def scope (ρ : Renaming) (s : Scope) : Scope :=
  ⟨ρ.package s.package, ρ.steps (.ofPackage s.package) s.path⟩

def name (ρ : Renaming) (n : QualifiedName) : QualifiedName :=
  if n.importedFrom = none then (ρ.scope ⟨n.package, n.enclosing⟩).nameOf (ρ.own ⟨n.package, n.enclosing⟩ n.name)
  else n

mutual

def expression (ρ : Renaming) : TypeExpression → TypeExpression
  | .apply target arguments => .apply (ρ.name target) (ρ.expressions arguments)

def expressions (ρ : Renaming) : List TypeExpression → List TypeExpression
  | [] => []
  | e :: rest => ρ.expression e :: ρ.expressions rest

end

def decorator (ρ : Renaming) (d : Decorator) : Decorator :=
  { d with target := ρ.name d.target }

def shape (ρ : Renaming) (s : Shape) : Shape :=
  { s with bases := s.bases.map ρ.expression, decorators := s.decorators.map ρ.decorator }

def method (ρ : Renaming) (m : Method) : Method :=
  { m with
    returns := m.returns.map ρ.expression
    parameters := m.parameters.map fun p => { p with type := ρ.expression p.type }
    decorators := m.decorators.map ρ.decorator }

mutual

def declaration (ρ : Renaming) : Declaration → Declaration
  | .type n doc shape members => .type (ρ.name n) (ρ.about n doc) (ρ.shape shape) (ρ.declarations members)
  | .enumeration n doc literals => .enumeration (ρ.name n) (ρ.about n doc) literals
  | .field f => .field { f with type := ρ.expression f.type }
  | .method m => .method (ρ.method m)
  | .raw content => .raw { content with references := content.references.map ρ.name }

def declarations (ρ : Renaming) : List Declaration → List Declaration
  | [] => []
  | d :: rest => ρ.declaration d :: ρ.declarations rest

end

def content (ρ : Renaming) (p : Package) : Package :=
  { p with units := ρ.declarations p.units }

def tree (ρ : Renaming) (t : Tree) : Tree :=
  ⟨t.packages.map fun entry => (ρ.package entry.1, ρ.content entry.2)⟩

def fault (ρ : Renaming) : Fault → Fault
  | .duplicate name scope => .duplicate (ρ.own scope name) (ρ.scope scope)
  | .literalCollision literal owner constant => .literalCollision literal (ρ.name owner) constant
  | .fieldInPackage name package => .fieldInPackage name (ρ.package package)
  | .contentInPackage package => .contentInPackage (ρ.package package)

variable (ρ : Renaming)

section Scopes

@[simp]
theorem own_ofPackage (package name : String) : ρ.own (.ofPackage package) name = ρ.outermost package name :=
  rfl

@[simp]
theorem own_child (s : Scope) (step name : String) : ρ.own (s.child step) name = name := by
  simp [own, Scope.child]

@[simp]
theorem steps_child (s : Scope) (step : String) (path : List String) : ρ.steps (s.child step) path = path := by
  cases path with
  | nil => rfl
  | cons first rest => simp [steps]

theorem scope_child (s : Scope) (name : String) : ρ.scope (s.child name) = (ρ.scope s).child (ρ.own s name) := by
  obtain ⟨package, path⟩ := s
  cases path with
  | nil => rfl
  | cons first rest => rfl

theorem name_nameOf (s : Scope) (name : String) : ρ.name (s.nameOf name) = (ρ.scope s).nameOf (ρ.own s name) :=
  rfl

theorem name_inPackage (package name : String) :
    ρ.name (.inPackage package name) = .inPackage (ρ.package package) (ρ.outermost package name) :=
  rfl

theorem scope_ofPackage (package : String) : ρ.scope (.ofPackage package) = .ofPackage (ρ.package package) :=
  rfl

theorem expression_plain (n : QualifiedName) : ρ.expression (.plain n) = .plain (ρ.name n) :=
  rfl

theorem expression_external (origin name : String) (arguments : List TypeExpression) :
    ρ.expression (.apply (.external origin name) arguments) =
      .apply (.external origin name) (ρ.expressions arguments) :=
  rfl

theorem shape_protocol : ρ.shape Shape.protocol = Shape.protocol :=
  rfl

theorem path_scope_eq_nil {s : Scope} : (ρ.scope s).path = [] ↔ s.path = [] := by
  obtain ⟨package, path⟩ := s
  cases path <;> simp [scope, steps]

end Scopes

section Members

theorem declarations_append (ds es : List Declaration) :
    ρ.declarations (ds ++ es) = ρ.declarations ds ++ ρ.declarations es := by
  induction ds with
  | nil => rfl
  | cons d rest ih => simp [declarations, ih]

/-- Declarations that stand in a scope. At the top of a package they are types whose names are in use. -/
structure Stands (s : Scope) (ds : List Declaration) : Prop where
  orderly : OrderlyAll s.package s.path ds
  top : s.path = [] → ∀ d ∈ ds, ∃ name, d.qualifiedName? = some (s.nameOf name) ∧ ρ.Admits s.package name

variable {ρ} {s : Scope} {ds : List Declaration} {step : String}

theorem own_inj {name other : String} (h : s.path = [] → ρ.Admits s.package name)
    (h' : s.path = [] → ρ.Admits s.package other) : ρ.own s name = ρ.own s other ↔ name = other := by
  refine ⟨fun heq => ?_, fun heq => heq ▸ rfl⟩
  by_cases hpath : s.path = []
  · simp only [own, hpath, if_true] at heq
    exact ρ.outermost_inj (h hpath) (h' hpath) heq
  · simpa [own, hpath] using heq

theorem Stands.tail {d : Declaration} (h : ρ.Stands s (d :: ds)) : ρ.Stands s ds :=
  ⟨h.orderly.2.2, fun hpath e he => h.top hpath e (.tail _ he)⟩

theorem Stands.admits {d : Declaration} (h : ρ.Stands s ds) (hd : d ∈ ds) {name : String}
    (hname : d.memberName? = some name) (hpath : s.path = []) : ρ.Admits s.package name := by
  obtain ⟨own, hq, hadmits⟩ := h.top hpath d hd
  obtain rfl : name = own := Option.some.inj (hname.symm.trans (memberName?_of_qualifiedName? hq))
  exact hadmits

theorem name_of_orderly {n : QualifiedName} (h : n = ⟨s.package, n.name, s.path, none⟩) :
    ρ.name n = (ρ.scope s).nameOf (ρ.own s n.name) := by
  rw [h]
  rfl

theorem Stands.memberName? (h : ρ.Stands s ds) {d : Declaration} (hd : d ∈ ds) :
    (ρ.declaration d).memberName? = d.memberName?.map (ρ.own s) := by
  have horderly := orderly_of_mem h.orderly hd
  cases d with
  | type n doc shape members =>
      simp only [declaration, Declaration.memberName?, name_of_orderly horderly.1, Option.map_some]
      rfl
  | enumeration n doc literals =>
      simp only [declaration, Declaration.memberName?, name_of_orderly horderly, Option.map_some]
      rfl
  | field f =>
      have hpath : s.path ≠ [] := fun hpath => by
        obtain ⟨name, hq, -⟩ := h.top hpath _ hd
        cases hq
      simp [declaration, Declaration.memberName?, own, hpath]
  | method m =>
      have hpath : s.path ≠ [] := fun hpath => by
        obtain ⟨name, hq, -⟩ := h.top hpath _ hd
        cases hq
      simp [declaration, Declaration.memberName?, own, hpath, method]
  | raw content => rfl

theorem Stands.inner {n : QualifiedName} {doc : Doc} {shape : Shape} {members : List Declaration}
    (h : ρ.Stands s (.type n doc shape members :: ds)) : ρ.Stands (s.child n.name) members where
  orderly := h.orderly.1.2
  top hpath := by simp [Scope.child] at hpath

theorem Stands.own_eq_iff {n : QualifiedName} {doc : Doc} {shape : Shape} {members : List Declaration}
    (h : ρ.Stands s (.type n doc shape members :: ds)) (hstep : s.path = [] → ρ.Admits s.package step) :
    (ρ.name n).name = ρ.own s step ↔ n.name = step := by
  rw [name_of_orderly h.orderly.1.1]
  exact own_inj (h.admits (.head _) rfl) hstep

theorem membersOf_declarations (h : ρ.Stands s ds) (hstep : s.path = [] → ρ.Admits s.package step) :
    membersOf (ρ.own s step) (ρ.declarations ds) = ρ.declarations (membersOf step ds) ∧
      ρ.Stands (s.child step) (membersOf step ds) := by
  induction ds with
  | nil => exact ⟨rfl, trivial, fun hpath => by simp [Scope.child] at hpath⟩
  | cons d rest ih =>
      cases d with
      | type n doc shape members =>
          simp only [declarations, declaration, membersOf, h.own_eq_iff hstep]
          by_cases hn : n.name = step
          · subst hn
            simpa using h.inner
          · simpa [hn] using ih h.tail
      | _ => simpa only [declarations, declaration, membersOf] using ih h.tail

theorem membersAt_declarations {path : List String} (h : ρ.Stands s ds)
    (hpath : s.path = [] → ∀ first ∈ path.head?, ρ.Admits s.package first) :
    membersAt (ρ.steps s path) (ρ.declarations ds) = ρ.declarations (membersAt path ds) ∧
      ρ.Stands ⟨s.package, s.path ++ path⟩ (membersAt path ds) := by
  induction path generalizing s ds with
  | nil =>
      rw [List.append_nil]
      exact ⟨rfl, h⟩
  | cons step rest ih =>
      obtain ⟨hmembers, hstands⟩ := membersOf_declarations h fun hs => hpath hs step rfl
      obtain ⟨hinner, hstands'⟩ := ih hstands fun hs => by simp [Scope.child] at hs
      rw [steps_child] at hinner
      refine ⟨?_, by simpa [Scope.child, membersAt] using hstands'⟩
      rw [steps, membersAt, hmembers, hinner, membersAt]

theorem changeMembersOf_declarations {f f' : List Declaration → List Declaration} (h : ρ.Stands s ds)
    (hstep : s.path = [] → ρ.Admits s.package step)
    (hf : ∀ inner, ρ.Stands (s.child step) inner → f' (ρ.declarations inner) = ρ.declarations (f inner)) :
    changeMembersOf (ρ.own s step) f' (ρ.declarations ds) = ρ.declarations (changeMembersOf step f ds) := by
  induction ds with
  | nil => rfl
  | cons d rest ih =>
      cases d with
      | type n doc shape members =>
          simp only [declarations, declaration, changeMembersOf, h.own_eq_iff hstep]
          by_cases hn : n.name = step
          · subst hn
            simp [declarations, declaration, hf members h.inner]
          · simp [hn, declarations, declaration, ih h.tail]
      | _ => simp [declarations, declaration, changeMembersOf, ih h.tail]

theorem appendAt_declarations (new : Declaration) {path : List String} (h : ρ.Stands s ds)
    (hpath : s.path = [] → ∀ first ∈ path.head?, ρ.Admits s.package first) :
    appendAt (ρ.declaration new) (ρ.steps s path) (ρ.declarations ds) =
      ρ.declarations (appendAt new path ds) := by
  induction path generalizing s ds with
  | nil => simp [steps, appendAt, declarations_append, declarations]
  | cons step rest ih =>
      refine changeMembersOf_declarations h (fun hs => hpath hs step rfl) fun inner hinner => ?_
      have happend := ih hinner fun hs => by simp [Scope.child] at hs
      rwa [steps_child] at happend

theorem mem_memberNames {name : String} (h : ρ.Stands s ds) (hname : s.path = [] → ρ.Admits s.package name) :
    some (ρ.own s name) ∈ (ρ.declarations ds).map Declaration.memberName? ↔
      some name ∈ ds.map Declaration.memberName? := by
  induction ds with
  | nil => simp [declarations]
  | cons d rest ih =>
      have hhead : some (ρ.own s name) = (ρ.declaration d).memberName? ↔ some name = d.memberName? := by
        rw [h.memberName? (.head _)]
        cases hd : d.memberName? with
        | none => simp
        | some own =>
            rw [Option.map_some, Option.some_inj, Option.some_inj]
            exact own_inj hname fun hpath => h.admits (.head _) hd hpath
      simp only [declarations, List.map_cons, List.mem_cons, hhead, ih h.tail]

end Members

section Trees

structure Fits (t : Tree) : Prop where
  sound : t.Sound
  known : ∀ entry ∈ t.packages, ρ.Known entry.1
  top : ∀ entry ∈ t.packages, ∀ d ∈ entry.2.units, ∃ name,
    d.qualifiedName? = some (.inPackage entry.1 name) ∧ ρ.Admits entry.1 name

structure Reaches (s : Scope) : Prop where
  known : ρ.Known s.package
  admits : ∀ first ∈ s.path.head?, ρ.Admits s.package first

variable {ρ} {t t' : Tree} {s : Scope}

theorem Fits.empty : ρ.Fits .empty :=
  ⟨Tree.Sound.empty, by simp [Tree.empty], by simp [Tree.empty]⟩

theorem Fits.stands (h : ρ.Fits t) {entry : String × Package} (hentry : entry ∈ t.packages) :
    ρ.Stands (.ofPackage entry.1) entry.2.units :=
  ⟨h.sound.orderly entry hentry, fun _ => h.top entry hentry⟩

theorem Reaches.child (h : ρ.Reaches s) {name : String} (hname : s.path = [] → ρ.Admits s.package name) :
    ρ.Reaches (s.child name) := by
  refine ⟨h.known, fun first hfirst => ?_⟩
  obtain ⟨package, path⟩ := s
  cases path with
  | nil =>
      obtain rfl := Option.some.inj hfirst
      exact hname rfl
  | cons step rest => exact h.admits first hfirst

theorem package_apart (h : ρ.Fits t) {package : String} (hp : ρ.Known package) :
    ∀ entry ∈ t.packages, ρ.package package = ρ.package entry.1 → package = entry.1 :=
  fun entry hentry => ρ.package_inj hp (h.known entry hentry)

theorem package?_tree (h : ρ.Fits t) {package : String} (hp : ρ.Known package) :
    (ρ.tree t).package? (ρ.package package) = (t.package? package).map ρ.content :=
  Tree.package?_mapPackages (package_apart h hp)

theorem members_tree (h : ρ.Fits t) (hs : ρ.Reaches s) :
    (ρ.tree t).members (ρ.scope s) = ρ.declarations (t.members s) ∧ ρ.Stands s (t.members s) := by
  have hpackage := package?_tree h hs.known
  rw [Tree.members, Tree.members, show (ρ.scope s).package = ρ.package s.package from rfl, hpackage]
  cases hp : t.package? s.package with
  | none => exact ⟨rfl, trivial, fun _ _ hd => by cases hd⟩
  | some p => exact membersAt_declarations (h.stands (Entries.mem_of_lookup hp)) fun _ => hs.admits

theorem append_tree (h : ρ.Fits t) (hs : ρ.Reaches s) (new : Declaration) :
    (ρ.tree t).append (ρ.scope s) (ρ.declaration new) = ρ.tree (t.append s new) := by
  refine Tree.modifyPackage_mapPackages (package_apart h hs.known) fun entry hentry hn => ?_
  have happend := appendAt_declarations new (h.stands hentry) fun _ => hn ▸ hs.admits
  simp only [content, ← happend]
  rw [hn]
  rfl

theorem openPackage_tree (h : ρ.Fits t) {package : String} (hp : ρ.Known package) :
    (ρ.tree t).openPackage (ρ.package package) = ρ.tree (t.openPackage package) :=
  Tree.openPackage_mapPackages (package_apart h hp) rfl

theorem Fits.openPackage (h : ρ.Fits t) {package : String} (hp : ρ.Known package) :
    ρ.Fits (t.openPackage package) := by
  refine ⟨h.sound.openPackage package, ?_, ?_⟩
  · rw [Tree.openPackage]
    split
    · exact h.known
    · exact List.forall_mem_append.2 ⟨h.known, by simpa using hp⟩
  · rw [Tree.openPackage]
    split
    · exact h.top
    · exact List.forall_mem_append.2 ⟨h.top, by simp⟩

theorem Fits.append (h : ρ.Fits t) {new : Declaration} (hnew : ρ.Stands s [new]) (hsound : (t.append s new).Sound) :
    ρ.Fits (t.append s new) := by
  have hunits : ∀ entry ∈ t.packages, entry.1 = s.package → ∀ d ∈ appendAt new s.path entry.2.units, ∃ name,
      d.qualifiedName? = some (.inPackage entry.1 name) ∧ ρ.Admits entry.1 name := by
    intro entry hentry hn d hd
    obtain ⟨package, path⟩ := s
    -- At the top of the package the new declaration is one of its types; inside a type it changes no name at the top.
    cases path with
    | nil =>
        obtain rfl := hn
        rcases List.mem_append.1 hd with hd | hd
        · exact h.top entry hentry d hd
        · exact hnew.top rfl d hd
    | cons step rest =>
        have hnames := List.mem_map_of_mem (f := qualifiedName?) hd
        rw [appendAt, qualifiedName?_changeMembersOf] at hnames
        obtain ⟨e, he, hq⟩ := List.mem_map.1 hnames
        rw [← hq]
        exact h.top entry hentry e he
  refine ⟨hsound, fun entry hentry => ?_, fun entry hentry => ?_⟩
  · obtain ⟨p, hp, -⟩ := Tree.mem_modifyPackage.1 hentry
    exact h.known (entry.1, p) hp
  · obtain ⟨p, hp, hchanged⟩ := Tree.mem_modifyPackage.1 hentry
    rw [hchanged]
    split
    next hn => exact hunits (entry.1, p) hp hn
    · exact h.top _ hp

theorem declare_tree (h : ρ.Fits t) (hs : ρ.Reaches s) {new : Declaration} (hnew : ρ.Stands s [new]) :
    (ρ.tree t).declare (ρ.scope s) (ρ.declaration new) = ((t.declare s new).map ρ.tree).mapError ρ.fault := by
  rw [Tree.declare, Tree.declare, hnew.memberName? (.head _), append_tree h hs]
  cases hname : new.memberName? with
  | none => rfl
  | some name =>
      obtain ⟨hmembers, hstands⟩ := members_tree h hs
      simp only [Option.map_some, hmembers, mem_memberNames hstands (hnew.admits (.head _) hname)]
      split <;> rfl

theorem Fits.declare (h : ρ.Fits t) {new : Declaration} (hnew : ρ.Stands s [new])
    (hd : t.declare s new = .ok t') : ρ.Fits t' := by
  obtain ⟨heq, hsound, -⟩ := h.sound.declare new (orderly_of_mem hnew.orderly (.head _)) hd
  rw [← Tree.append_eq_extend] at heq
  subst heq
  exact h.append hnew hsound

end Trees

end Renaming

end TopicBindings.Declaration
