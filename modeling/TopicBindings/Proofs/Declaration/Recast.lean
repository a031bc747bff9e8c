import TopicBindings.Proofs.Declaration.Growth

/-!
New packages, new qualified names and new literals for a tree in which everything keeps its own name. A name is taken
in a scope of the image if and only if it is taken in the scope itself, so that a tree and its image grow alike and fail
alike, as long as no two packages in use become one.
-/

namespace TopicBindings.Declaration

open Binding (QualifiedName TypeExpression)

/-- What becomes of packages, of qualified names and of literals. Packages in use (`Known`) keep apart. -/
structure Recast where
  package : String → String
  name : QualifiedName → QualifiedName
  literal : EnumLiteral → EnumLiteral
  Known : String → Prop
  package_inj : ∀ {p q}, Known p → Known q → package p = package q → p = q
  name_own : ∀ n, (name n).name = n.name
  name_external : ∀ origin own, name (.external origin own) = .external origin own

namespace Recast

def scope (ρ : Recast) (s : Scope) : Scope :=
  ⟨ρ.package s.package, s.path⟩

mutual

def expression (ρ : Recast) : TypeExpression → TypeExpression
  | .apply target arguments => .apply (ρ.name target) (ρ.expressions arguments)

def expressions (ρ : Recast) : List TypeExpression → List TypeExpression
  | [] => []
  | e :: rest => ρ.expression e :: ρ.expressions rest

end

def decorator (ρ : Recast) (d : Decorator) : Decorator :=
  { d with target := ρ.name d.target }

def shape (ρ : Recast) (s : Shape) : Shape :=
  { s with bases := s.bases.map ρ.expression, decorators := s.decorators.map ρ.decorator }

def field (ρ : Recast) (f : Field) : Field :=
  { f with type := ρ.expression f.type }

def method (ρ : Recast) (m : Method) : Method :=
  { m with
    returns := m.returns.map ρ.expression
    parameters := m.parameters.map fun p => { p with type := ρ.expression p.type }
    decorators := m.decorators.map ρ.decorator }

mutual

def declaration (ρ : Recast) : Declaration → Declaration
  | .type n doc shape members => .type (ρ.name n) doc (ρ.shape shape) (ρ.declarations members)
  | .enumeration n doc literals => .enumeration (ρ.name n) doc (literals.map ρ.literal)
  | .field f => .field (ρ.field f)
  | .method m => .method (ρ.method m)
  | .raw content => .raw { content with references := content.references.map ρ.name }

def declarations (ρ : Recast) : List Declaration → List Declaration
  | [] => []
  | d :: rest => ρ.declaration d :: ρ.declarations rest

end

def content (ρ : Recast) (p : Package) : Package :=
  { p with units := ρ.declarations p.units }

def tree (ρ : Recast) (t : Tree) : Tree :=
  ⟨t.packages.map fun entry => (ρ.package entry.1, ρ.content entry.2)⟩

def fault (ρ : Recast) : Fault → Fault
  | .duplicate name scope => .duplicate name (ρ.scope scope)
  | .literalCollision literal owner constant => .literalCollision literal (ρ.name owner) constant
  | .fieldInPackage name package => .fieldInPackage name (ρ.package package)
  | .contentInPackage package => .contentInPackage (ρ.package package)

variable (ρ : Recast)

theorem expression_plain (n : QualifiedName) : ρ.expression (.plain n) = .plain (ρ.name n) :=
  rfl

theorem expression_external (origin own : String) (arguments : List TypeExpression) :
    ρ.expression (.apply (.external origin own) arguments) =
      .apply (.external origin own) (ρ.expressions arguments) := by
  rw [expression, ρ.name_external]

theorem shape_dataClass : ρ.shape Shape.dataClass = Shape.dataClass := by
  simp [shape, Shape.dataClass, decorator, ρ.name_external]

theorem shape_protocol : ρ.shape Shape.protocol = Shape.protocol := by
  simp [shape, Shape.protocol, TypeExpression.plain, expression_external, expressions]

section Members

theorem declarations_append (ds es : List Declaration) :
    ρ.declarations (ds ++ es) = ρ.declarations ds ++ ρ.declarations es := by
  induction ds with
  | nil => rfl
  | cons d rest ih => simp [declarations, ih]

theorem memberName?_declaration (d : Declaration) : (ρ.declaration d).memberName? = d.memberName? := by
  cases d <;> simp [declaration, memberName?, ρ.name_own, field, method]

theorem memberNames_declarations (ds : List Declaration) :
    (ρ.declarations ds).map memberName? = ds.map memberName? := by
  induction ds with
  | nil => rfl
  | cons d rest ih => rw [declarations, List.map_cons, memberName?_declaration, ih, List.map_cons]

theorem membersOf_declarations (step : String) (ds : List Declaration) :
    membersOf step (ρ.declarations ds) = ρ.declarations (membersOf step ds) := by
  induction ds with
  | nil => rfl
  | cons d rest ih =>
      cases d with
      | type n doc shape members =>
          simp only [declarations, declaration, membersOf, ρ.name_own]
          split
          · rfl
          · exact ih
      | _ => simpa only [declarations, declaration, membersOf] using ih

theorem membersAt_declarations (path : List String) (ds : List Declaration) :
    membersAt path (ρ.declarations ds) = ρ.declarations (membersAt path ds) := by
  induction path generalizing ds with
  | nil => rfl
  | cons step path ih => rw [membersAt, membersOf_declarations, ih, membersAt]

theorem changeMembersOf_declarations {f f' : List Declaration → List Declaration}
    (hf : ∀ inner, f' (ρ.declarations inner) = ρ.declarations (f inner)) (step : String)
    (ds : List Declaration) :
    changeMembersOf step f' (ρ.declarations ds) = ρ.declarations (changeMembersOf step f ds) := by
  induction ds with
  | nil => rfl
  | cons d rest ih =>
      cases d with
      | type n doc shape members =>
          simp only [declarations, declaration, changeMembersOf, ρ.name_own]
          split
          · simp [declarations, declaration, hf]
          · simp [declarations, declaration, ih]
      | _ => simp [declarations, declaration, changeMembersOf, ih]

theorem appendAt_declarations (new : Declaration) (path : List String) (ds : List Declaration) :
    appendAt (ρ.declaration new) path (ρ.declarations ds) = ρ.declarations (appendAt new path ds) := by
  induction path generalizing ds with
  | nil => simp [appendAt, declarations_append, declarations]
  | cons step path ih => exact changeMembersOf_declarations ρ ih step ds

end Members

section Trees

def Fits (t : Tree) : Prop :=
  ∀ entry ∈ t.packages, ρ.Known entry.1

variable {ρ} {t t' : Tree} {s : Scope} {package : String}

theorem Fits.empty : ρ.Fits .empty := by
  simp [Fits, Tree.empty]

theorem package_apart (h : ρ.Fits t) (hp : ρ.Known package) :
    ∀ entry ∈ t.packages, ρ.package package = ρ.package entry.1 → package = entry.1 :=
  fun entry hentry => ρ.package_inj hp (h entry hentry)

theorem package?_tree (h : ρ.Fits t) (hp : ρ.Known package) :
    (ρ.tree t).package? (ρ.package package) = (t.package? package).map ρ.content :=
  Tree.package?_mapPackages (package_apart h hp)

theorem members_tree (h : ρ.Fits t) (hs : ρ.Known s.package) :
    (ρ.tree t).members (ρ.scope s) = ρ.declarations (t.members s) := by
  rw [Tree.members, Tree.members, show (ρ.scope s).package = ρ.package s.package from rfl, package?_tree h hs]
  cases t.package? s.package with
  | none => rfl
  | some p => exact membersAt_declarations ρ s.path p.units

theorem modifyPackage_tree (h : ρ.Fits t) (hp : ρ.Known package) {change change' : Package → Package}
    (hchange : ∀ p, change' (ρ.content p) = ρ.content (change p)) :
    (ρ.tree t).modifyPackage (ρ.package package) change' = ρ.tree (t.modifyPackage package change) :=
  Tree.modifyPackage_mapPackages (package_apart h hp) fun entry _ _ => hchange entry.2

theorem append_tree (h : ρ.Fits t) (hs : ρ.Known s.package) (new : Declaration) :
    (ρ.tree t).append (ρ.scope s) (ρ.declaration new) = ρ.tree (t.append s new) := by
  refine modifyPackage_tree h hs fun p => ?_
  simp only [content, ← appendAt_declarations]
  rfl

theorem noteMetadata_tree (h : ρ.Fits t) (hp : ρ.Known package) (entries : Entries String String) :
    (ρ.tree t).noteMetadata (ρ.package package) entries = ρ.tree (t.noteMetadata package entries) :=
  modifyPackage_tree h hp fun _ => rfl

theorem openPackage_tree (h : ρ.Fits t) (hp : ρ.Known package) :
    (ρ.tree t).openPackage (ρ.package package) = ρ.tree (t.openPackage package) :=
  Tree.openPackage_mapPackages (package_apart h hp) rfl

/-- What is declared in the tree is declared in its image, and what clashes in the one clashes in the other. -/
theorem declare_tree (h : ρ.Fits t) (hs : ρ.Known s.package) (new : Declaration) :
    (ρ.tree t).declare (ρ.scope s) (ρ.declaration new) = ((t.declare s new).map ρ.tree).mapError ρ.fault := by
  rw [Tree.declare, Tree.declare, memberName?_declaration, append_tree h hs]
  cases hname : new.memberName? with
  | none => rfl
  | some name =>
      simp only [members_tree h hs, memberNames_declarations]
      split <;> rfl

theorem Fits.modifyPackage (h : ρ.Fits t) (package : String) (change : Package → Package) :
    ρ.Fits (t.modifyPackage package change) := by
  intro entry hentry
  obtain ⟨p, hp, -⟩ := Tree.mem_modifyPackage.1 hentry
  exact h (entry.1, p) hp

theorem Fits.openPackage (h : ρ.Fits t) (hp : ρ.Known package) : ρ.Fits (t.openPackage package) := by
  rw [Tree.openPackage]
  split
  · exact h
  · exact List.forall_mem_append.2 ⟨h, by simpa using hp⟩

theorem Fits.declare (h : ρ.Fits t) {new : Declaration} (hd : t.declare s new = .ok t') : ρ.Fits t' := by
  rw [Tree.declare] at hd
  split at hd
  · obtain rfl := Except.ok.inj hd
    exact h.modifyPackage _ _
  · split at hd
    · cases hd
    · obtain rfl := Except.ok.inj hd
      exact h.modifyPackage _ _

end Trees

/-- A package in which the image of a name is the name at the image of its place. -/
structure Fills (package : String) : Prop where
  known : ρ.Known package
  named : ∀ own path, ρ.name ⟨package, own, path, none⟩ = ⟨ρ.package package, own, path, none⟩

end Recast

end TopicBindings.Declaration
