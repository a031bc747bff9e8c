import TopicBindings.Proofs.Declaration.Recast
import TopicBindings.Proofs.Declaration.Steps

/-!
Additions to a finished tree: new packages, declarations in packages, and declarations inside types that were added
themselves. They come behind what the tree holds and leave it as it is.
-/

namespace TopicBindings.Declaration

def EnumLiteral.bare (l : EnumLiteral) : EnumLiteral :=
  { l with metadata := [] }

/-- Everything stays but the notes on literals, which go. -/
def Recast.unannotated : Recast where
  package := id
  name := id
  literal := EnumLiteral.bare
  Known _ := True
  package_inj _ _ h := h
  name_own _ := rfl
  name_external _ _ := rfl

theorem changeMembersOf_append_of_not_mem {step : String} {ds : List Declaration}
    (h : some step ∉ ds.map memberName?) (f : List Declaration → List Declaration) (es : List Declaration) :
    changeMembersOf step f (ds ++ es) = ds ++ changeMembersOf step f es := by
  induction ds with
  | nil => rfl
  | cons d rest ih =>
      simp only [List.map_cons, List.mem_cons, not_or] at h
      cases d with
      | type n doc shape members =>
          have hn : n.name ≠ step := by simpa [memberName?, eq_comm] using h.1
          simp [changeMembersOf, hn, ih h.2]
      | _ => simp [changeMembersOf, ih h.2]

namespace Tree

variable {core t t' : Tree} {scope : Scope}

/-- A scope that is a package, or stands in a type that the tree does not have. -/
def Lacks (core : Tree) (scope : Scope) : Prop :=
  ∀ step ∈ scope.path.head?, some step ∉ (core.members (.ofPackage scope.package)).map memberName?

inductive Addition (core : Tree) (t : Tree) : Tree → Prop where
  | openPackage (name : String) : Addition core t (t.openPackage name)
  | declare {t' : Tree} {scope : Scope} {new : Declaration} (hscope : core.Lacks scope)
      (h : t.declare scope new = .ok t') : Addition core t t'

abbrev Added (core : Tree) : Tree → Tree → Prop :=
  Relation.ReflTransGen (Addition core)

/-- The packages of the first tree come first in the second one, each with the same notes and with its declarations in
front of all others. -/
def Heads (core t : Tree) : Prop :=
  ∀ (i : Nat) (name : String) (p : Package), core.packages[i]? = some (name, p) →
    ∃ p', t.packages[i]? = some (name, p') ∧ p'.metadata = p.metadata ∧ p.units <+: p'.units

theorem Heads.refl (t : Tree) : t.Heads t :=
  fun _ _ p hp => ⟨p, hp, rfl, List.prefix_rfl⟩

theorem Heads.members (h : core.Heads t) (ht : t.names.Nodup) (package : String) :
    core.members (.ofPackage package) <+: t.members (.ofPackage package) := by
  cases hp : core.package? package with
  | none =>
      rw [Tree.members, show (Scope.ofPackage package).package = package from rfl, hp]
      exact List.nil_prefix
  | some p =>
      obtain ⟨i, hi⟩ := List.mem_iff_getElem?.1 (Entries.mem_of_lookup hp)
      obtain ⟨p', hp', -, hunits⟩ := h i package p hi
      rw [members_package_of_mem ht (List.mem_of_getElem? hp'), Tree.members,
        show (Scope.ofPackage package).package = package from rfl, hp]
      exact hunits

theorem Heads.lacks (h : core.Heads t) (ht : t.names.Nodup) (hscope : t.Lacks scope) : core.Lacks scope := by
  intro step hstep hmem
  have hbefore := (h.members ht scope.package).map memberName?
  exact hscope step hstep (hbefore.subset hmem)

theorem Addition.names_nodup (h : Addition core t t') (ht : t.names.Nodup) : t'.names.Nodup := by
  cases h with
  | openPackage name =>
      rw [names_openPackage]
      split
      · exact ht
      next hname => simpa [List.nodup_append] using ⟨ht, fun n hn heq => hname (heq ▸ hn)⟩
  | declare _ hd =>
      rw [eq_of_declare hd, names_extend]
      exact ht

theorem Added.names_nodup (h : Added core t t') (ht : t.names.Nodup) : t'.names.Nodup := by
  induction h with
  | refl => exact ht
  | tail _ hstep ih => exact hstep.names_nodup ih

/-- What is added at the end of a scope that a tree lacks comes behind the declarations of the tree. -/
theorem prefix_changeAt {ds es : List Declaration} {path : List String} (h : ds <+: es)
    (hpath : ∀ step ∈ path.head?, some step ∉ ds.map memberName?) (new : List Declaration) :
    ds <+: changeAt (· ++ new) path es := by
  obtain ⟨more, rfl⟩ := h
  cases path with
  | nil => exact ⟨more ++ new, (List.append_assoc ..).symm⟩
  | cons step path =>
      rw [changeAt, changeMembersOf_append_of_not_mem (hpath step rfl)]
      exact List.prefix_append _ _

theorem Addition.heads (h : Addition core t t') (hcore : core.names.Nodup) (ht : core.Heads t) : core.Heads t' := by
  intro i name p hp
  obtain ⟨p', hp', hmetadata, hunits⟩ := ht i name p hp
  cases h with
  | openPackage other =>
      refine ⟨p', ?_, hmetadata, hunits⟩
      rw [Tree.openPackage]
      split
      · exact hp'
      · rw [List.getElem?_append_left (List.getElem?_eq_some_iff.1 hp').1, hp']
  | @declare _ scope new hscope hd =>
      rw [eq_of_declare hd, extend, modifyPackage, List.getElem?_map, hp', Option.map_some]
      dsimp only
      by_cases hname : name = scope.package
      · subst hname
        rw [if_pos rfl]
        refine ⟨_, rfl, hmetadata, prefix_changeAt hunits (fun step hstep => ?_) [new]⟩
        have hmissing := hscope step hstep
        rwa [members_package_of_mem hcore (List.mem_of_getElem? hp)] at hmissing
      · rw [if_neg hname]
        exact ⟨p', rfl, hmetadata, hunits⟩

theorem Added.heads (h : Added core t t') (hcore : core.names.Nodup) (ht : core.Heads t) : core.Heads t' := by
  induction h with
  | refl => exact ht
  | tail _ hstep ih => exact hstep.heads hcore ih

theorem Added.of_heads (h : Added t t t') (hcore : core.Heads t) (ht : t.names.Nodup) : Added core t t' := by
  refine Relation.ReflTransGen.mono (fun _ _ hstep => ?_) _ _ h
  cases hstep with
  | openPackage name => exact .openPackage name
  | declare hscope hd => exact .declare (hcore.lacks ht hscope) hd

end Tree

end TopicBindings.Declaration
