import Mathlib.Data.List.Infix
import TopicBindings.Proofs.Declaration.Extension

/-!
The types and enumerations of a tree at any depth. In a sound tree each of them carries the name of the
place where it is declared, and no two declarations of a scope share a name; therefore no qualified name
occurs twice.
-/

namespace TopicBindings.Declaration

open Binding (QualifiedName)

mutual

def nodes : Declaration → List Declaration
  | .type name doc shape members => .type name doc shape members :: nodesAll members
  | .enumeration name doc literals => [.enumeration name doc literals]
  | .field _ | .method _ | .raw _ => []

def nodesAll : List Declaration → List Declaration
  | [] => []
  | d :: rest => nodes d ++ nodesAll rest

end

theorem memberName?_of_qualifiedName? {d : Declaration} {n : QualifiedName}
    (h : d.qualifiedName? = some n) : d.memberName? = some n.name := by
  cases d with
  | type name doc shape members => exact congrArg (Option.map QualifiedName.name) h
  | enumeration name doc literals => exact congrArg (Option.map QualifiedName.name) h
  | field f => cases h
  | method m => cases h
  | raw content => cases h

theorem mem_nodes_self {d : Declaration} {n : QualifiedName} (h : d.qualifiedName? = some n) : d ∈ nodes d := by
  cases d with
  | type name doc shape members => exact .head _
  | enumeration name doc literals => exact .head _
  | field f => cases h
  | method m => cases h
  | raw content => cases h

def Compatible (d e : Declaration) : Prop :=
  d.memberName? = none ∨ d.memberName? ≠ e.memberName?

mutual

/-- Every name below a declaration in a package, under a path of types, is that of its place. -/
def Orderly (package : String) (path : List String) : Declaration → Prop
  | .type name _ _ members =>
      name = ⟨package, name.name, path, none⟩ ∧ OrderlyAll package (path ++ [name.name]) members
  | .enumeration name _ _ => name = ⟨package, name.name, path, none⟩
  | .field _ | .method _ | .raw _ => True

def OrderlyAll (package : String) (path : List String) : List Declaration → Prop
  | [] => True
  | d :: rest => Orderly package path d ∧ (∀ e ∈ rest, Compatible d e) ∧ OrderlyAll package path rest

end

theorem name_of_orderly {package own : String} {path : List String} {d : Declaration}
    (h : Orderly package path d) (hown : d.memberName? = some own) (hsome : d.qualifiedName?.isSome) :
    d.qualifiedName? = some ⟨package, own, path, none⟩ := by
  cases d with
  | type name doc shape members =>
      obtain rfl := Option.some.inj hown
      exact congrArg some h.1
  | enumeration name doc literals =>
      obtain rfl := Option.some.inj hown
      exact congrArg some h
  | field f => cases hsome
  | method m => cases hsome
  | raw content => cases hsome

theorem nodesAll_append (ds es : List Declaration) : nodesAll (ds ++ es) = nodesAll ds ++ nodesAll es := by
  induction ds with
  | nil => rfl
  | cons d rest ih => simp [nodesAll, ih]

theorem nodesAll_singleton (d : Declaration) : nodesAll [d] = nodes d := by
  simp [nodesAll]

theorem mem_nodesAll {d : Declaration} {ds : List Declaration} :
    d ∈ nodesAll ds ↔ ∃ e ∈ ds, d ∈ nodes e := by
  induction ds with
  | nil => simp [nodesAll]
  | cons e rest ih => simp [nodesAll, ih]

theorem orderly_of_mem {package : String} {path : List String} {d : Declaration} {ds : List Declaration}
    (h : OrderlyAll package path ds) (hd : d ∈ ds) : Orderly package path d := by
  induction ds with
  | nil => cases hd
  | cons e rest ih =>
      rcases List.mem_cons.1 hd with rfl | hd
      · exact h.1
      · exact ih h.2.2 hd

theorem orderlyAll_append_singleton {package : String} {path : List String} {ds : List Declaration}
    {new : Declaration} :
    OrderlyAll package path (ds ++ [new]) ↔
      OrderlyAll package path ds ∧ Orderly package path new ∧ ∀ d ∈ ds, Compatible d new := by
  induction ds with
  | nil => simp [OrderlyAll]
  | cons d rest ih =>
      simp only [List.cons_append, OrderlyAll, ih, List.mem_append, List.mem_cons, List.not_mem_nil,
        or_false]
      constructor
      · rintro ⟨hd, hc, hrest, hnew, hall⟩
        refine ⟨⟨hd, fun e he => hc e (.inl he), hrest⟩, hnew, ?_⟩
        rintro e (rfl | he)
        · exact hc new (.inr rfl)
        · exact hall e he
      · rintro ⟨⟨hd, hc, hrest⟩, hnew, hall⟩
        refine ⟨hd, ?_, hrest, hnew, fun e he => hall e (.inr he)⟩
        rintro e (he | rfl)
        · exact hc e he
        · exact hall d (.inl rfl)

theorem compatible_of_map_eq {ds es : List Declaration} {d : Declaration}
    (hmap : ds.map memberName? = es.map memberName?) (h : ∀ e ∈ es, Compatible d e) :
    ∀ e ∈ ds, Compatible d e := by
  intro e he
  have : e.memberName? ∈ es.map memberName? := hmap ▸ List.mem_map_of_mem he
  obtain ⟨f, hf, hfe⟩ := List.mem_map.1 this
  simpa [Compatible, hfe] using h f hf

theorem orderlyAll_changeMembersOf {package : String} {path : List String} {step : String}
    {f : List Declaration → List Declaration} {ds : List Declaration}
    (h : OrderlyAll package path ds)
    (hf : OrderlyAll package (path ++ [step]) (membersOf step ds) →
      OrderlyAll package (path ++ [step]) (f (membersOf step ds))) :
    OrderlyAll package path (changeMembersOf step f ds) := by
  induction ds with
  | nil => trivial
  | cons d rest ih =>
      obtain ⟨hd, hc, hrest⟩ := h
      have hothers := compatible_of_map_eq (memberName?_changeMembersOf step f rest) hc
      cases d with
      | type name doc shape members =>
          -- Only the first type of the name changes; behind it the declarations stay.
          by_cases hn : name.name = step
          · simp only [changeMembersOf, hn, if_true]
            simp only [membersOf, hn, if_true] at hf
            obtain ⟨hname, hmembers⟩ := hd
            exact ⟨⟨hname, hn ▸ hf (hn ▸ hmembers)⟩, hc, hrest⟩
          · simp only [changeMembersOf, hn, if_false]
            simp only [membersOf, hn, if_false] at hf
            exact ⟨hd, hothers, ih hrest hf⟩
      | _ => exact ⟨hd, hothers, ih hrest hf⟩

/-- A declaration added at the end of a path keeps the order if its name is free there. -/
theorem orderlyAll_changeAt {package : String} {outer path : List String} {ds : List Declaration}
    {new : Declaration} (h : OrderlyAll package outer ds) (hnew : Orderly package (outer ++ path) new)
    (hfree : ∀ d ∈ membersAt path ds, Compatible d new) :
    OrderlyAll package outer (changeAt (· ++ [new]) path ds) := by
  induction path generalizing outer ds with
  | nil =>
      rw [List.append_nil] at hnew
      exact orderlyAll_append_singleton.2 ⟨h, hnew, hfree⟩
  | cons step path ih =>
      exact orderlyAll_changeMembersOf h fun hinner => ih hinner (by simpa using hnew) hfree

mutual

theorem names_of_mem_nodes {package : String} : ∀ {path : List String} (d : Declaration),
    Orderly package path d → ∀ e ∈ nodes d, ∃ name own, e.qualifiedName? = some name ∧
      name.package = package ∧ name.importedFrom = none ∧ d.memberName? = some own ∧
        path ++ [own] <+: name.path
  | path, .type name doc shape members, h, e, he => by
      rcases List.mem_cons.1 he with rfl | he
      · refine ⟨name, name.name, rfl, ?_, ?_, rfl, ?_⟩
        · rw [h.1]
        · rw [h.1]
        · rw [h.1]
          exact List.prefix_rfl
      · obtain ⟨n, own, hq, hp, hi, hm⟩ := names_of_mem_nodesAll members h.2 e he
        exact ⟨n, name.name, hq, hp, hi, rfl, (List.prefix_append _ _).trans hm.2⟩
  | path, .enumeration name doc literals, h, e, he => by
      obtain rfl := List.mem_singleton.1 he
      refine ⟨name, name.name, rfl, ?_, ?_, rfl, ?_⟩
      · rw [h]
      · rw [h]
      · rw [h]
        exact List.prefix_rfl
  | _, .field _, _, e, he => by simp [nodes] at he
  | _, .method _, _, e, he => by simp [nodes] at he
  | _, .raw _, _, e, he => by simp [nodes] at he

theorem names_of_mem_nodesAll {package : String} : ∀ {path : List String} (ds : List Declaration),
    OrderlyAll package path ds → ∀ e ∈ nodesAll ds, ∃ name own, e.qualifiedName? = some name ∧
      name.package = package ∧ name.importedFrom = none ∧ some own ∈ ds.map memberName? ∧
        path ++ [own] <+: name.path
  | _, [], _, e, he => by simp [nodesAll] at he
  | _, d :: rest, h, e, he => by
      rcases List.mem_append.1 he with he | he
      · obtain ⟨n, own, hq, hp, hi, hd, hpre⟩ := names_of_mem_nodes d h.1 e he
        exact ⟨n, own, hq, hp, hi, by simp [hd], hpre⟩
      · obtain ⟨n, own, hq, hp, hi, hm, hpre⟩ := names_of_mem_nodesAll rest h.2.2 e he
        exact ⟨n, own, hq, hp, hi, List.mem_cons_of_mem _ hm, hpre⟩

end

theorem own_eq_of_prefix {path whole : List String} {own other : String}
    (h : path ++ [own] <+: whole) (h' : path ++ [other] <+: whole) : own = other := by
  have := List.prefix_of_prefix_length_le h h' (by simp)
  simpa using this.eq_of_length (by simp)

mutual

theorem nodup_names {package : String} : ∀ {path : List String} (d : Declaration),
    Orderly package path d → ((nodes d).filterMap qualifiedName?).Nodup
  | path, .type name doc shape members, h => by
      simp only [nodes, List.filterMap_cons, qualifiedName?, List.nodup_cons]
      refine ⟨fun hm => ?_, nodup_namesAll members h.2⟩
      obtain ⟨e, he, hq⟩ := List.mem_filterMap.1 hm
      obtain ⟨n, own, hq', -, -, -, hpre⟩ := names_of_mem_nodesAll members h.2 e he
      obtain rfl : n = name := Option.some.inj (hq'.symm.trans hq)
      -- The path of an inner name is longer than that of the type around it.
      have hlen := hpre.length_le
      rw [h.1] at hlen
      simp [QualifiedName.path] at hlen
  | _, .enumeration name doc literals, _ => by simp [nodes, qualifiedName?]
  | _, .field _, _ => by simp [nodes]
  | _, .method _, _ => by simp [nodes]
  | _, .raw _, _ => by simp [nodes]

theorem nodup_namesAll {package : String} : ∀ {path : List String} (ds : List Declaration),
    OrderlyAll package path ds → ((nodesAll ds).filterMap qualifiedName?).Nodup
  | _, [], _ => by simp [nodesAll]
  | path, d :: rest, h => by
      rw [nodesAll, List.filterMap_append, List.nodup_append]
      refine ⟨nodup_names d h.1, nodup_namesAll rest h.2.2, ?_⟩
      rintro n hn m hm rfl
      obtain ⟨e, he, hq⟩ := List.mem_filterMap.1 hn
      obtain ⟨f, hf, hq'⟩ := List.mem_filterMap.1 hm
      obtain ⟨n₁, own, h₁, -, -, hd, hpre⟩ := names_of_mem_nodes d h.1 e he
      obtain ⟨n₂, other, h₂, -, -, hrest, hpre'⟩ := names_of_mem_nodesAll rest h.2.2 f hf
      obtain rfl : n₁ = n := Option.some.inj (h₁.symm.trans hq)
      obtain rfl : n₂ = n₁ := Option.some.inj (h₂.symm.trans hq')
      obtain ⟨g, hg, hgn⟩ := List.mem_map.1 hrest
      have hsame : d.memberName? = g.memberName? := by
        rw [hd, hgn, own_eq_of_prefix hpre hpre']
      rcases h.2.1 g hg with hnone | hne
      · rw [hd] at hnone
        cases hnone
      · exact hne hsame

end

theorem nodup_memberNames {package : String} {path : List String} {ds : List Declaration}
    (h : OrderlyAll package path ds) : (ds.filterMap memberName?).Nodup := by
  induction ds with
  | nil => exact List.nodup_nil
  | cons d rest ih =>
      obtain ⟨-, hothers, hrest⟩ := h
      rw [List.filterMap_cons]
      split
      · exact ih hrest
      next name hname =>
        refine List.nodup_cons.2 ⟨fun hmem => ?_, ih hrest⟩
        obtain ⟨e, he, hsame⟩ := List.mem_filterMap.1 hmem
        rcases hothers e he with hnone | hne
        · rw [hname] at hnone
          cases hnone
        · exact hne (hname.trans hsame.symm)

theorem filter_eq_singleton {α β : Type} [DecidableEq β] {f : α → Option β} {l : List α} {a : α} {b : β}
    (hn : (l.filterMap f).Nodup) (ha : a ∈ l) (hab : f a = some b) :
    l.filter (fun x => f x = some b) = [a] := by
  obtain ⟨before, after, rfl⟩ := List.append_of_mem ha
  simp only [List.filterMap_append, List.filterMap_cons, hab, List.nodup_append, List.nodup_cons,
    List.mem_cons, List.mem_filterMap, not_exists, not_and] at hn
  obtain ⟨-, ⟨hafter, -⟩, hbefore⟩ := hn
  have hnone : before.filter (fun x => f x = some b) = [] := by
    refine List.filter_eq_nil_iff.2 fun x hx => ?_
    simpa using fun hxb => hbefore b ⟨x, hx, hxb⟩ b (.inl rfl) rfl
  have hnone' : after.filter (fun x => f x = some b) = [] := by
    refine List.filter_eq_nil_iff.2 fun x hx => ?_
    simpa using hafter x hx
  simp [List.filter_append, hab, hnone, hnone']

namespace Tree

def nodes (t : Tree) : List Declaration :=
  t.packages.flatMap fun entry => nodesAll entry.2.units

/-- What building keeps: packages are distinct, names are those of their places, scopes have no name
twice. -/
structure Sound (t : Tree) : Prop where
  distinct : t.names.Nodup
  orderly : ∀ entry ∈ t.packages, OrderlyAll entry.1 [] entry.2.units

theorem Sound.nodup_names {t : Tree} (h : t.Sound) : (t.nodes.filterMap qualifiedName?).Nodup := by
  obtain ⟨packages⟩ := t
  have hd := h.distinct
  have ho := h.orderly
  simp only [names, nodes] at hd ho ⊢
  induction packages with
  | nil => simp
  | cons entry rest ih =>
      simp only [List.map_cons, List.nodup_cons] at hd
      rw [List.flatMap_cons, List.filterMap_append, List.nodup_append]
      refine ⟨nodup_namesAll _ (ho entry (.head _)), ih ⟨hd.2, fun e he => ho e (.tail _ he)⟩ hd.2
        fun e he => ho e (.tail _ he), ?_⟩
      rintro n hn m hm rfl
      obtain ⟨d, hdn, hq⟩ := List.mem_filterMap.1 hn
      obtain ⟨e, hen, hq'⟩ := List.mem_filterMap.1 hm
      obtain ⟨other, hother, hen⟩ := List.mem_flatMap.1 hen
      obtain ⟨n₁, -, h₁, hp₁, -⟩ := names_of_mem_nodesAll _ (ho entry (.head _)) d hdn
      obtain ⟨n₂, -, h₂, hp₂, -⟩ := names_of_mem_nodesAll _ (ho other (.tail _ hother)) e hen
      obtain rfl : n₁ = n := Option.some.inj (h₁.symm.trans hq)
      obtain rfl : n₂ = n₁ := Option.some.inj (h₂.symm.trans hq')
      exact hd.1 (hp₁ ▸ hp₂ ▸ List.mem_map_of_mem hother)

theorem Sound.filter_nodes {t : Tree} (h : t.Sound) {d : Declaration} (hd : d ∈ t.nodes)
    {name : QualifiedName} (hn : d.qualifiedName? = some name) :
    t.nodes.filter (fun e => e.qualifiedName? = some name) = [d] :=
  filter_eq_singleton h.nodup_names hd hn

end Tree

end TopicBindings.Declaration
