import TopicBindings.Proofs.Declaration.Nodes

/-!
What the operations on a tree add to it. Each of them keeps a sound tree sound, and what a package holds
after it is what the package held before with the new declarations behind.
-/

namespace TopicBindings.Declaration.Tree

open Binding (QualifiedName)

variable {t t' : Tree} {scope : Scope}

theorem Sound.empty : Tree.empty.Sound :=
  ⟨List.nodup_nil, by simp [Tree.empty]⟩

theorem names_openPackage (t : Tree) (name : String) :
    (t.openPackage name).names = if name ∈ t.names then t.names else t.names ++ [name] := by
  have hiff : (t.packages.lookup name).isSome ↔ name ∈ t.names := Entries.isSome_lookup_iff
  by_cases h : name ∈ t.names
  · rw [openPackage, if_pos (hiff.2 h), if_pos h]
  · rw [openPackage, if_neg (mt hiff.1 h), if_neg h]
    simp [names]

theorem mem_names_openPackage (t : Tree) (name : String) : name ∈ (t.openPackage name).names := by
  rw [names_openPackage]
  split <;> simp_all

theorem Sound.openPackage (h : t.Sound) (name : String) : (t.openPackage name).Sound := by
  by_cases hm : (t.packages.lookup name).isSome
  · rwa [Tree.openPackage, if_pos hm]
  · have hfree : name ∉ t.names := fun hin => hm (Entries.isSome_lookup_iff.2 hin)
    refine ⟨?_, ?_⟩
    · rw [names_openPackage, if_neg hfree]
      simpa [List.nodup_append] using ⟨h.distinct, fun n hn => fun heq => hfree (heq ▸ hn)⟩
    · rw [Tree.openPackage, if_neg hm]
      intro entry hentry
      rcases List.mem_append.1 hentry with hentry | hentry
      · exact h.orderly entry hentry
      · obtain rfl := List.mem_singleton.1 hentry
        trivial

theorem mem_modifyPackage {name : String} {change : Package → Package} {entry : String × Package} :
    entry ∈ (t.modifyPackage name change).packages ↔
      ∃ p, (entry.1, p) ∈ t.packages ∧ entry.2 = if entry.1 = name then change p else p := by
  simp only [modifyPackage, List.mem_map]
  constructor
  · rintro ⟨⟨n, p⟩, hp, rfl⟩
    by_cases hn : n = name
    · exact ⟨p, by simpa [hn] using hp, by simp [hn]⟩
    · exact ⟨p, by simpa [hn] using hp, by simp [hn]⟩
  · obtain ⟨n, q⟩ := entry
    rintro ⟨p, hp, hq⟩
    refine ⟨(n, p), hp, ?_⟩
    by_cases hn : n = name <;> simpa [hn] using hq.symm

theorem Sound.noteMetadata (h : t.Sound) (package : String) (entries : Entries String String) :
    (t.noteMetadata package entries).Sound := by
  refine ⟨by rw [names_noteMetadata]; exact h.distinct, fun entry hentry => ?_⟩
  obtain ⟨p, hp, hchanged⟩ := mem_modifyPackage.1 hentry
  have hunits : entry.2.units = p.units := by
    rw [hchanged]
    split <;> rfl
  rw [hunits]
  exact h.orderly _ hp

theorem Sound.extend_singleton (h : t.Sound) {new : Declaration}
    (hnew : Orderly scope.package scope.path new)
    (hfree : ∀ d ∈ t.members scope, Compatible d new) : (t.extend scope [new]).Sound := by
  refine ⟨by rw [names_extend]; exact h.distinct, fun entry hentry => ?_⟩
  obtain ⟨p, hp, hchanged⟩ := mem_modifyPackage.1 hentry
  by_cases hn : entry.1 = scope.package
  · rw [if_pos hn] at hchanged
    rw [hn] at hp
    rw [members_eq_of_mem h.distinct hp] at hfree
    rw [hchanged, hn]
    exact orderlyAll_changeAt (h.orderly _ hp) hnew hfree
  · rw [if_neg hn] at hchanged
    rw [hchanged]
    exact h.orderly _ hp

theorem Sound.declare (h : t.Sound) (new : Declaration)
    (hnew : Orderly scope.package scope.path new)
    (hd : t.declare scope new = .ok t') :
    t' = t.extend scope [new] ∧ t'.Sound ∧
      ∀ name, new.memberName? = some name → some name ∉ (t.members scope).map memberName? := by
  cases hm : new.memberName? with
  | none =>
      obtain rfl : t.append scope new = t' := by simpa [Tree.declare, hm] using hd
      rw [append_eq_extend]
      exact ⟨rfl, h.extend_singleton hnew fun d _ => by
        by_cases hd' : d.memberName? = none
        · exact .inl hd'
        · exact .inr (by rwa [hm]), fun name hname => by cases hname⟩
  | some name =>
      -- What takes a name is only added where the name is free, so no two declarations of the scope share one.
      by_cases hmem : some name ∈ (t.members scope).map memberName?
      · simp only [Tree.declare, hm, if_pos hmem] at hd
        cases hd
      · obtain rfl : t.append scope new = t' := by simpa [Tree.declare, hm, hmem] using hd
        rw [append_eq_extend]
        refine ⟨rfl, h.extend_singleton hnew fun d hdm => .inr ?_, ?_⟩
        · rw [hm]
          exact fun heq => hmem (heq ▸ List.mem_map_of_mem hdm)
        · rintro n hn
          obtain rfl := Option.some.inj hn
          exact hmem

theorem lookup_modifyPackage (t : Tree) (name other : String) (change : Package → Package) :
    (t.modifyPackage name change).package? other =
      (t.package? other).map fun p => if other = name then change p else p := by
  obtain ⟨packages⟩ := t
  simp only [package?, modifyPackage]
  induction packages with
  | nil => rfl
  | cons entry rest ih =>
      obtain ⟨n, p⟩ := entry
      by_cases ho : other = n
      · subst ho
        by_cases hn : other = name <;> simp [hn]
      · have hne : (other == n) = false := beq_eq_false_iff_ne.2 ho
        by_cases hn : n = name
        · simpa [List.lookup_cons, hn, hn ▸ hne] using ih
        · simpa [List.lookup_cons, hn, hne] using ih

theorem members_openPackage (t : Tree) (name package : String) :
    (t.openPackage name).members (.ofPackage package) = t.members (.ofPackage package) := by
  by_cases hm : (t.packages.lookup name).isSome
  · rw [Tree.openPackage, if_pos hm]
  · rw [Tree.openPackage, if_neg hm]
    simp only [members, Scope.ofPackage, package?]
    cases hl : t.packages.lookup package with
    | some p => simp [List.lookup_append, hl]
    | none =>
        rw [List.lookup_append, hl, Option.none_or]
        by_cases hp : package = name
        · simp [hp, membersAt]
        · simp [List.lookup_cons, beq_eq_false_iff_ne.2 hp]

theorem members_noteMetadata (t : Tree) (name package : String) (entries : Entries String String) :
    (t.noteMetadata name entries).members (.ofPackage package) = t.members (.ofPackage package) := by
  simp only [members, noteMetadata, lookup_modifyPackage, Scope.ofPackage]
  cases t.package? package with
  | none => rfl
  | some p => by_cases h : package = name <;> simp [h, membersAt]

theorem members_extend_package {package : String} (hp : package ∈ t.names) (new : List Declaration) :
    (t.extend (.ofPackage package) new).members (.ofPackage package) =
      t.members (.ofPackage package) ++ new := by
  obtain ⟨p, hp⟩ := Option.isSome_iff_exists.1 (Entries.isSome_lookup_iff.2 hp)
  have hp : t.package? package = some p := hp
  simp [members, Tree.extend, lookup_modifyPackage, Scope.ofPackage, hp, membersAt, changeAt]

theorem members_extend_other {package other : String} (h : other ≠ package) (new : List Declaration) :
    (t.extend (.ofPackage package) new).members (.ofPackage other) = t.members (.ofPackage other) := by
  simp only [members, Tree.extend, lookup_modifyPackage, Scope.ofPackage, if_neg h, Option.map_id_fun', id]

theorem Sound.mem_units (h : t.Sound) {package : String} {d : Declaration} :
    (package, d) ∈ t.units ↔ d ∈ t.members (.ofPackage package) := by
  simp only [units, List.mem_flatMap, List.mem_map]
  constructor
  · rintro ⟨⟨n, p⟩, hp, e, he, heq⟩
    obtain ⟨rfl, rfl⟩ := Prod.mk.inj heq
    have hp' : ((Scope.ofPackage n).package, p) ∈ t.packages := hp
    rw [members_eq_of_mem h.distinct hp']
    exact he
  · intro hd
    simp only [members, Scope.ofPackage] at hd
    cases hp : t.package? package with
    | none => simp [hp] at hd
    | some p =>
        rw [hp] at hd
        exact ⟨(package, p), Entries.mem_of_lookup hp, d, hd, rfl⟩

theorem Sound.orderly_of_mem_units (h : t.Sound) {unit : String × Declaration} (hu : unit ∈ t.units) :
    Orderly unit.1 [] unit.2 := by
  obtain ⟨entry, hentry, hu⟩ := List.mem_flatMap.1 hu
  obtain ⟨d, hd, rfl⟩ := List.mem_map.1 hu
  exact orderly_of_mem (h.orderly entry hentry) hd

theorem Sound.orderly_members (h : t.Sound) (package : String) :
    OrderlyAll package [] (t.members (.ofPackage package)) := by
  simp only [members, Scope.ofPackage]
  cases hp : t.package? package with
  | none => trivial
  | some p => exact h.orderly (package, p) (Entries.mem_of_lookup hp)

theorem mem_nodes_iff {d : Declaration} : d ∈ t.nodes ↔ ∃ unit ∈ t.units, d ∈ Declaration.nodes unit.2 := by
  simp only [nodes, units, List.mem_flatMap, List.mem_map, mem_nodesAll]
  constructor
  · rintro ⟨entry, hentry, e, he, hd⟩
    exact ⟨(entry.1, e), ⟨entry, hentry, e, he, rfl⟩, hd⟩
  · rintro ⟨unit, ⟨entry, hentry, e, he, rfl⟩, hd⟩
    exact ⟨entry, hentry, e, he, hd⟩

theorem Sound.mem_nodes_of_members (h : t.Sound) {package : String} {d e : Declaration}
    (hd : d ∈ t.members (.ofPackage package)) (he : e ∈ Declaration.nodes d) : e ∈ t.nodes :=
  mem_nodes_iff.2 ⟨(package, d), h.mem_units.2 hd, he⟩

/-- The tree with other names for its packages and other contents in them. -/
def mapPackages (f : String → String) (g : Package → Package) (t : Tree) : Tree :=
  ⟨t.packages.map fun entry => (f entry.1, g entry.2)⟩

section Mapped

variable {f : String → String} {g : Package → Package} {package : String}
  (hf : ∀ entry ∈ t.packages, f package = f entry.1 → package = entry.1)

include hf

theorem package?_mapPackages : (t.mapPackages f g).package? (f package) = (t.package? package).map g := by
  refine Entries.lookup_map fun name hname heq => ?_
  obtain ⟨entry, hentry, rfl⟩ := List.mem_map.1 hname
  exact hf entry hentry heq

theorem modifyPackage_mapPackages {change change' : Package → Package}
    (hchange : ∀ entry ∈ t.packages, entry.1 = package → change' (g entry.2) = g (change entry.2)) :
    (t.mapPackages f g).modifyPackage (f package) change' = (t.modifyPackage package change).mapPackages f g := by
  simp only [modifyPackage, mapPackages, List.map_map]
  congr 1
  refine List.map_congr_left fun entry hentry => ?_
  by_cases hn : entry.1 = package
  · have hchanged := hchange entry hentry hn
    simp [hn, hchanged]
  · have hne : f entry.1 ≠ f package := fun he => hn (hf entry hentry he.symm).symm
    simp [hn, hne]

theorem openPackage_mapPackages (hg : g ⟨[], []⟩ = ⟨[], []⟩) :
    (t.mapPackages f g).openPackage (f package) = (t.openPackage package).mapPackages f g := by
  have hsome : ((t.mapPackages f g).packages.lookup (f package)).isSome = (t.packages.lookup package).isSome := by
    have hpackage := package?_mapPackages hf (g := g)
    rw [package?, package?] at hpackage
    rw [hpackage, Option.isSome_map]
  rw [openPackage, openPackage, hsome]
  split
  · rfl
  · simp [mapPackages, hg]

end Mapped

end TopicBindings.Declaration.Tree
