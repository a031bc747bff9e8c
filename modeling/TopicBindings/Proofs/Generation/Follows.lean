import TopicBindings.Proofs.Declaration.Renaming
import TopicBindings.Proofs.Generation.Parallel

/-!
Runs on a tree and on its renamed image. A run follows another one if it does to the image what the other does
to the tree and fails just when that one fails, for the renamed reason; the steps of a run follow one by one.
-/

namespace TopicBindings.Generation

open Declaration (Doc Method Renaming Scope Shape Tree)

/-- The class of a failure stays; only the names in it are new. -/
def renamedFailure (ρ : Renaming) : Failure → Failure
  | .declaration fault => .declaration (ρ.fault fault)
  | failure => failure

structure Images (ρ : Renaming) (w w' : Workspace) : Prop where
  fits : ρ.Fits w.tree
  tree : w'.tree = ρ.tree w.tree

def Follows {α β : Type} (ρ : Renaming) (b : Build α) (b' : Build β) : Prop :=
  ∀ w w', Images ρ w w' → Images ρ (b.runOn w).2 (b'.runOn w').2 ∧
    verdict (b'.runOn w').1 = (verdict (b.runOn w).1).mapError (renamedFailure ρ)

namespace Follows

variable {α α' β β' : Type} {ρ : Renaming}

theorem onTrees_images : OnTrees (Images ρ) :=
  fun hw _ _ => ⟨hw.fits, hw.tree⟩

theorem done (a : α) (a' : α') : Follows ρ (pure a) (pure a') :=
  Parallel.done a a'

theorem note (notice notice' : Notice) : Follows ρ (Build.note notice) (Build.note notice') :=
  Parallel.note onTrees_images notice notice'

theorem seq {x : Build α} {x' : Build α'} {f : α → Build β} {f' : α' → Build β'} (h : Follows ρ x x')
    (hf : ∀ a a', Follows ρ (f a) (f' a')) : Follows ρ (x >>= f) (x' >>= f') :=
  Parallel.seq h hf

theorem ofExcept_bind {ε : Type} {wrap : ε → Failure} {e : Except ε α} {f : α → Build β} {f' : α → Build β'}
    (hwrap : ∀ fault, renamedFailure ρ (wrap fault) = wrap fault)
    (h : ∀ a, e = .ok a → Follows ρ (f a) (f' a)) :
    Follows ρ (Build.ofExcept wrap e >>= f) (Build.ofExcept wrap e >>= f') :=
  Parallel.ofExcept_bind (fun a ha => ⟨a, ha, h a ha⟩) fun fault hfault => ⟨fault, hfault, (hwrap fault).symm⟩

theorem openPackage_bind {package : String} {f : Scope → Build α} {f' : Scope → Build α'}
    (hp : ρ.Known package) (h : Follows ρ (f (.ofPackage package)) (f' (.ofPackage (ρ.package package)))) :
    Follows ρ (Build.openPackage package >>= f) (Build.openPackage (ρ.package package) >>= f') := by
  refine Parallel.openPackage_bind (fun {w w'} hw => ⟨hw.fits.openPackage hp, ?_⟩) h
  show w'.tree.openPackage _ = _
  rw [hw.tree, ρ.openPackage_tree hw.fits hp]

theorem edit {change change' : Tree → Except Declaration.Fault Tree}
    (h : ∀ t, ρ.Fits t → change' (ρ.tree t) = ((change t).map ρ.tree).mapError ρ.fault ∧
      ∀ t', change t = .ok t' → ρ.Fits t') : Follows ρ (Build.edit change) (Build.edit change') := by
  refine Parallel.edit (fun {w w' t} hw hchange => ?_) fun {w w' fault} hw hchange => ?_
  · obtain ⟨himage, hfits⟩ := h w.tree hw.fits
    rw [hchange, ← hw.tree] at himage
    exact ⟨ρ.tree t, himage, hfits t hchange, rfl⟩
  · obtain ⟨himage, -⟩ := h w.tree hw.fits
    rw [hchange, ← hw.tree] at himage
    exact ⟨ρ.fault fault, himage, rfl⟩

theorem forM {ι ι' : Type} {f : ι → Build PUnit} {f' : ι' → Build PUnit} {items : List ι} {items' : List ι'}
    (h : List.Forall₂ (fun item item' => Follows ρ (f item) (f' item')) items items') :
    Follows ρ (items.forM f) (items'.forM f') :=
  Parallel.forM h

section Declaring

variable {s : Scope}

theorem createMethod (hs : ρ.Reaches s) (m : Method) :
    Follows ρ (Build.createMethod s m) (Build.createMethod (ρ.scope s) (ρ.method m)) := by
  refine edit fun t ht => ?_
  have hempty : (ρ.scope s).path.isEmpty = s.path.isEmpty := by
    rw [Bool.eq_iff_iff, List.isEmpty_iff, List.isEmpty_iff, ρ.path_scope_eq_nil]
  rw [Tree.declareMethod, Tree.declareMethod, hempty]
  by_cases hpath : s.path = []
  · rw [if_pos (by simp [hpath]), if_pos (by simp [hpath])]
    exact ⟨rfl, fun t' hd => by cases hd⟩
  · have hnew : ρ.Stands s [.method m] :=
      ⟨⟨trivial, by simp, trivial⟩, fun h => absurd h hpath⟩
    rw [if_neg (by simp [hpath]), if_neg (by simp [hpath])]
    exact ⟨Renaming.declare_tree ht hs hnew, fun t' hd => ht.declare hnew hd⟩

theorem createType {name : String} {doc : Doc} {shape : Shape} {body body' : Scope → Build Unit}
    (hs : ρ.Reaches s) (hname : s.path = [] → ρ.Admits s.package name)
    (hbody : Follows ρ (body (s.child name)) (body' (ρ.scope (s.child name)))) :
    Follows ρ (Build.createType s name doc shape body)
      (Build.createType (ρ.scope s) (ρ.own s name) (ρ.about (s.nameOf name) doc) (ρ.shape shape) body') := by
  have hnew : ρ.Stands s [.type (s.nameOf name) doc shape []] :=
    ⟨⟨⟨rfl, trivial⟩, by simp, trivial⟩, fun hpath d hd => by
      obtain rfl := List.mem_singleton.1 hd
      exact ⟨name, rfl, hname hpath⟩⟩
  have hdeclare : Follows ρ (Build.edit fun t => t.declareType s name doc shape)
      (Build.edit fun t => t.declareType (ρ.scope s) (ρ.own s name) (ρ.about (s.nameOf name) doc)
        (ρ.shape shape)) :=
    edit fun t ht => ⟨Renaming.declare_tree ht hs hnew, fun t' hd => ht.declare hnew hd⟩
  rw [ρ.scope_child] at hbody
  exact seq hdeclare fun _ _ => seq hbody fun _ _ => done _ _

theorem createType_of_fixed {name : String} {doc : Doc} {shape : Shape} {body body' : Scope → Build Unit}
    (hs : ρ.Reaches s) (hname : s.path = [] → ρ.Admits s.package name) (hown : ρ.own s name = name)
    (habout : ρ.about (s.nameOf name) doc = doc) (hshape : ρ.shape shape = shape)
    (hbody : Follows ρ (body (s.child name)) (body' (ρ.scope (s.child name)))) :
    Follows ρ (Build.createType s name doc shape body) (Build.createType (ρ.scope s) name doc shape body') := by
  have htype : Follows ρ (Build.createType s name doc shape body)
      (Build.createType (ρ.scope s) (ρ.own s name) (ρ.about (s.nameOf name) doc) (ρ.shape shape) body') :=
    createType hs hname hbody
  rwa [hown, habout, hshape] at htype

end Declaring

end Follows

end TopicBindings.Generation
