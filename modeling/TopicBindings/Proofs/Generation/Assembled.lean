import TopicBindings.Proofs.Generation.Built
import TopicBindings.Proofs.Service.Grouping

/-!
The interfaces of some roles, assembled one role after the other. What is laid down for different roles, and
for different versions of a role, goes to different packages.
-/

namespace TopicBindings.Generation

open Build (Stage Stages Yields chained_stages under)
open Declaration (Scope Tree)
open Service (Dotted Role)

namespace Each

variable {ι β : Type} {P : ι → List β → Prop} {items : List ι} {out : List β}

theorem mono_of_subset {Q : ι → List β → Prop} (h : Each P items out)
    (hPQ : ∀ item ∈ items, ∀ part, part ⊆ out → P item part → Q item part) : Each Q items out := by
  obtain ⟨parts, hparts, rfl⟩ := h
  refine ⟨parts, ?_, rfl⟩
  have hsub : ∀ part ∈ parts, part ⊆ parts.flatten := fun part hp x hx =>
    List.mem_flatten.2 ⟨part, hp, hx⟩
  generalize parts.flatten = out at hPQ hsub
  induction hparts with
  | nil => exact .nil
  | cons hp _ ih =>
      refine .cons (hPQ _ (.head _) _ (hsub _ (.head _)) hp) (ih ?_ ?_)
      · exact fun item hi => hPQ item (.tail _ hi)
      · exact fun part hp => hsub part (.tail _ hp)

theorem forall₂_of_singletons {R : ι → β → Prop}
    (h : Each (fun item part => ∃ x, R item x ∧ part = [x]) items out) : List.Forall₂ R items out := by
  obtain ⟨parts, hparts, rfl⟩ := h
  induction hparts with
  | nil => exact .nil
  | cons hp _ ih =>
      obtain ⟨x, hx, rfl⟩ := hp
      exact .cons hx ih

/-- The stages of one item alone reach a package that no other item has stages for. -/
theorem under_part {P : ι → List Stage → Prop} {stages : List Stage} {package : String} {item : ι}
    (h : Each P items stages) (hn : items.Nodup) (hitem : item ∈ items)
    (hothers : ∀ other ∈ items, other ≠ item → ∀ part, P other part → under package part = []) :
    ∃ part, P item part ∧ under package stages = under package part := by
  obtain ⟨parts, hparts, rfl⟩ := h
  induction hparts with
  | nil => cases hitem
  | @cons first part rest parts hp hrest ih =>
      rw [List.nodup_cons] at hn
      rw [List.flatten_cons, Build.under_append]
      rcases List.mem_cons.1 hitem with rfl | hitem
      · have hnone : under package parts.flatten = [] := by
          refine List.flatMap_eq_nil_iff.2 fun stage hs => ?_
          obtain ⟨other, hother, part, hpart, hs⟩ := Each.exists_of_mem ⟨parts, hrest, rfl⟩ hs
          have hne : other ≠ item := fun he => hn.1 (he ▸ hother)
          exact List.flatMap_eq_nil_iff.1 (hothers other (.tail _ hother) hne part hpart) stage hs
        exact ⟨part, hp, by rw [hnone, List.append_nil]⟩
      · have hne : first ≠ item := fun he => hn.1 (he ▸ hitem)
        obtain ⟨own, hown, heq⟩ := ih hn.2 hitem fun other ho => hothers other (.tail _ ho)
        exact ⟨own, hown, by rw [hothers first (.head _) hne part hp, List.nil_append, heq]⟩

end Each

namespace Connector

variable {c : Connector}

section Packages

theorem versionPackage_inj {role other : Role} {label label' : String} (h : Dotted label)
    (h' : Dotted label') (heq : c.versionPackage role label = c.versionPackage other label') :
    role = other ∧ label = label' := by
  rw [versionPackage_eq, versionPackage_eq] at heq
  have hname := c.resolver.packageName_inj (by cases role <;> simp [Role.packageName])
    (by cases other <;> simp [Role.packageName]) heq
  have hlist := congrArg String.toList hname
  simp only [String.toList_append] at hlist
  obtain rfl : role = other := by
    cases role <;> cases other <;> first | rfl | simp [Role.packageName] at hlist
  refine ⟨rfl, h.versionIdentifier_inj h' (String.toList_injective ?_)⟩
  simpa using hlist

theorem versionPackage_ne_rolePackage (role other : Role) (label : String) :
    c.versionPackage role label ≠ c.rolePackage other := by
  rw [versionPackage_eq]
  intro heq
  have hname := c.resolver.packageName_inj (by cases role <;> simp [Role.packageName])
    (by cases other <;> decide) heq
  have hdot : '.' ∈ other.packageName.toList := by
    rw [← hname]
    simp
  cases other <;> exact absurd hdot (by decide)

theorem rolePackage_inj {role other : Role} (heq : c.rolePackage role = c.rolePackage other) :
    role = other := by
  have hname := c.resolver.packageName_inj (by cases role <;> decide) (by cases other <;> decide) heq
  cases role <;> cases other <;> first | rfl | exact absurd hname (by decide)

end Packages

theorem under_versions_rolePackage {role other : Role} {stages : List Stage}
    {versions : Entries String (Entries String (List Topic))} (h : Each (c.VersionPackage role) versions stages) :
    under (c.rolePackage other) stages = [] := by
  refine Build.under_of_ne fun stage hs => ?_
  obtain ⟨version, -, part, ⟨interfaces, -, rfl⟩, hs⟩ := h.exists_of_mem hs
  obtain rfl := List.mem_singleton.1 hs
  exact versionPackage_ne_rolePackage role other version.1

theorem under_rolePackage {role other : Role} {stages : List Stage} (h : c.RolePackages other stages) :
    under (c.rolePackage role) stages = if other = role then [c.entryPoint role] else [] := by
  obtain ⟨versions, hversions, rfl⟩ := h
  rw [Build.under_append, under_versions_rolePackage hversions, List.nil_append, Build.under_cons]
  by_cases hrole : other = role
  · subst hrole
    simp [under]
  · have hne : c.rolePackage other ≠ c.rolePackage role := fun he => hrole (rolePackage_inj he)
    simp [under, hne, hrole]

theorem under_versionPackage {role : Role} {stages : List Stage} (h : c.RolePackages role stages)
    (hdistinct : c.definitions.versions.keys.Nodup) (hdotted : ∀ version ∈ c.definitions.versions, Dotted version.1)
    {version : String × Entries String (List Topic)} (hversion : version ∈ c.definitions.versions) :
    Each (c.ServiceInterface role (.ofPackage (c.versionPackage role version.1))) version.2
      (under (c.versionPackage role version.1) stages) := by
  obtain ⟨versions, hversions, rfl⟩ := h
  have hentry : under (c.versionPackage role version.1) [(c.rolePackage role, [c.entryPoint role])] = [] :=
    Build.under_of_ne fun stage hs => by
      obtain rfl := List.mem_singleton.1 hs
      exact (versionPackage_ne_rolePackage role role version.1).symm
  have hothers : ∀ other ∈ c.definitions.versions, other ≠ version → ∀ part,
      c.VersionPackage role other part → under (c.versionPackage role version.1) part = [] := by
    rintro other hother hne part ⟨interfaces, -, rfl⟩
    refine Build.under_of_ne fun stage hs heq => hne ?_
    obtain rfl := List.mem_singleton.1 hs
    have hlabel := (versionPackage_inj (hdotted other hother) (hdotted version hversion) heq).2
    exact List.inj_on_of_nodup_map hdistinct hother hversion hlabel
  obtain ⟨part, ⟨interfaces, hinterfaces, rfl⟩, hunder⟩ :=
    hversions.under_part hdistinct.of_map hversion hothers
  rw [Build.under_append, hentry, List.append_nil, hunder, Build.under_cons, if_pos rfl]
  simpa [under] using hinterfaces

theorem under_versionPackage_other {role other : Role} {stages : List Stage} (hne : other ≠ role)
    (h : c.RolePackages other stages) (hdotted : ∀ version ∈ c.definitions.versions, Dotted version.1)
    {label : String} (hlabel : Dotted label) : under (c.versionPackage role label) stages = [] := by
  refine Build.under_of_ne fun stage hs heq => ?_
  rcases List.mem_append.1 (mem_packages_of_rolePackages h hs) with hversion | hrole
  · obtain ⟨key, hkey, hpackage⟩ := List.mem_map.1 hversion
    obtain ⟨version, hversion, rfl⟩ := List.mem_map.1 hkey
    exact hne (versionPackage_inj (hdotted version hversion) hlabel (hpackage.trans heq)).1
  · exact versionPackage_ne_rolePackage role other label (heq.symm.trans (List.mem_singleton.1 hrole))

section Run

variable {roles : List Role} {w v : Workspace}

theorem stages_of_run (hw : w.tree.Sound) (h : (roles.forM c.assemble).runOn w = (.ok (), v)) :
    ∃ stages, Each c.RolePackages roles stages ∧ Stages w.tree stages v.tree ∧ v.tree.Sound :=
  Yields.forM chained_stages (fun role _ => c.lays_assemble role) w () v hw h

theorem mem_nodes_of_stages {t t' : Tree} {stages : List Stage} (ht' : t'.Sound) (h : Stages t stages t')
    {stage : Stage} (hs : stage ∈ stages) {d : Declaration} (hd : d ∈ Declaration.nodesAll stage.2) :
    d ∈ t'.nodes := by
  obtain ⟨e, he, hd⟩ := Declaration.mem_nodesAll.1 hd
  have hunit : e ∈ t'.members (.ofPackage stage.1) := by
    rw [h stage.1]
    exact List.mem_append_right _ (Build.mem_under.2 ⟨stage.2, hs, he⟩)
  exact ht'.mem_nodes_of_members hunit hd

theorem entryPoints_of_stages {stages : List Stage} (h : Each c.RolePackages roles stages) (role : Role) :
    under (c.rolePackage role) stages = List.replicate (roles.count role) (c.entryPoint role) := by
  obtain ⟨parts, hparts, rfl⟩ := h
  induction hparts with
  | nil => rfl
  | @cons first part rest parts hp _ ih =>
      rw [List.flatten_cons, Build.under_append, under_rolePackage hp, ih, List.count_cons]
      by_cases hfirst : first = role
      · simp [hfirst, List.replicate_succ]
      · simp [hfirst]

theorem nodup_of_stages {stages : List Stage} {t : Tree} (ht : t.Sound)
    (h : Each c.RolePackages roles stages)
    (hmembers : ∀ package, t.members (.ofPackage package) = under package stages) : roles.Nodup := by
  refine List.nodup_iff_count_le_one.2 fun role => ?_
  have hnames := Declaration.nodup_memberNames (ht.orderly_members (c.rolePackage role))
  have hname : (c.entryPoint role).memberName? = some role.typeName := rfl
  rw [hmembers, entryPoints_of_stages h, List.filterMap_replicate_of_some hname] at hnames
  exact List.nodup_replicate.1 hnames

structure RoleTree (c : Connector) (role : Role) (t : Tree) : Prop where
  entry : t.members (.ofPackage (c.rolePackage role)) = [c.entryPoint role]
  services : ∀ version ∈ c.definitions.versions,
    Each (c.ServiceInterface role (.ofPackage (c.versionPackage role version.1))) version.2
      (t.members (.ofPackage (c.versionPackage role version.1)))

theorem roleTree_of_run {topics : List Topic} {validate : Bool}
    (haggregated : Service.aggregate topics validate = .ok c.definitions)
    (h : (roles.forM c.assemble).runOn .empty = (.ok (), v)) :
    v.tree.Sound ∧ roles.Nodup ∧ ∀ role ∈ roles, c.RoleTree role v.tree := by
  obtain ⟨stages, hstages, hlaid, hsound⟩ := stages_of_run Tree.Sound.empty h
  have hmembers : ∀ package, v.tree.members (.ofPackage package) = under package stages := hlaid
  have hnodup := nodup_of_stages hsound hstages hmembers
  have hdistinct := (Service.distinct_versions haggregated).versions
  have hdotted := fun version (hv : version ∈ c.definitions.versions) =>
    Service.dotted_of_mem haggregated hv
  refine ⟨hsound, hnodup, fun role hrole => ⟨?_, fun version hversion => ?_⟩⟩
  · rw [hmembers, entryPoints_of_stages hstages, List.count_eq_one_of_mem hnodup hrole]
    rfl
  · have hothers : ∀ other ∈ roles, other ≠ role → ∀ part, c.RolePackages other part →
        under (c.versionPackage role version.1) part = [] := fun other _ hne part hpart =>
      under_versionPackage_other hne hpart hdotted (hdotted version hversion)
    obtain ⟨part, hpart, hunder⟩ := hstages.under_part hnodup hrole hothers
    rw [hmembers, hunder]
    exact under_versionPackage hpart hdistinct hdotted hversion

end Run

section Sample

open Service (versionOf)

def sampleResolver : Binding.Resolver :=
  ⟨⟨[], [("M", ⟨"M", .reference ⟨Schema.typesSpace, "A"⟩, none, none, false⟩)]⟩, "base", .standard⟩

def sampleEarlier : List Topic :=
  [⟨"s.1.event.r.b.done", none, some (.named "M")⟩, ⟨"s.1.t.r.a", none, none⟩]

def sampleLater : List Topic :=
  [⟨"s.2.t.r.a", some (.named "M"), none⟩,
    ⟨"s.2.t.r.b", some (.inline ⟨"N", .reference ⟨Schema.typesSpace, "A"⟩, none, none, false⟩),
      some (.named "M")⟩]

def sampleOdd : Topic :=
  ⟨"odd", some (.named "M"), none⟩

/-- A service at two versions and a topic outside the grammar. -/
def sampleTopics : List Topic :=
  sampleEarlier ++ [sampleOdd] ++ sampleLater

def sampleVersions : Service.Groups :=
  [("1", [("s", sampleEarlier), ("Topics", [sampleOdd])]), ("2", [("s", sampleLater)])]

def sampleLatest : Entries String Service.Latest :=
  [("S", ⟨⟨[2], by decide⟩, "2", "s"⟩), ("Topics", ⟨⟨[1], by decide⟩, "1", "Topics"⟩)]

theorem sampleVersions_apart : versionOf "1" = ⟨[1], by decide⟩ ∧ versionOf "2" = ⟨[2], by decide⟩ ∧
    (versionOf "1").compare (versionOf "2") = .lt ∧ (versionOf "2").compare (versionOf "1") = .gt := by
  have hearlier : versionOf "1" = ⟨[1], by decide⟩ := by decide +kernel
  have hlater : versionOf "2" = ⟨[2], by decide⟩ := by decide +kernel
  rw [hearlier, hlater]
  simp only [Version.compare, Version.compareSegments]
  decide

theorem sampleVersions_eq : Service.sortedVersions (Service.groupsOf sampleTopics []) = sampleVersions := by
  have hgroups : Service.groupsOf sampleTopics [] = sampleVersions := by decide +kernel
  have hle : Service.labelLE "1" "2" = true := by
    rw [Service.labelLE, sampleVersions_apart.2.2.1]
    rfl
  rw [hgroups]
  exact List.mergeSort_of_pairwise (by simpa [sampleVersions] using hle)

theorem sampleLatest_eq : Service.latestOf sampleVersions = sampleLatest := by
  have hservice : Service.typeName "s" = "S" := by decide +kernel
  have htopics : Service.typeName "Topics" = "Topics" := by decide +kernel
  obtain ⟨hearlier, hlater, -, hgt⟩ := sampleVersions_apart
  rw [hearlier, hlater] at hgt
  simp [Service.latestOf, sampleVersions, sampleLatest, Entries.keys, Service.noteLatest, Entries.set,
    List.lookup_cons, hservice, htopics, hearlier, hlater, hgt]

theorem exists_sample_assembled : ∃ d w, Service.aggregate sampleTopics false = .ok d ∧
    ([Role.server, .client].forM (Connector.mk sampleResolver d).assemble).runOn .empty = (.ok (), w) := by
  have hd : Service.aggregate sampleTopics false = .ok (Service.definitionsOf sampleTopics) :=
    Service.aggregate_ok.2 ⟨by simp, rfl⟩
  have hrun : (([Role.server, .client].forM (Connector.mk sampleResolver
      ⟨(Service.definitionsOf sampleTopics).topics, sampleVersions, sampleLatest,
        (Service.definitionsOf sampleTopics).diagnostics⟩).assemble).runOn .empty).1.toOption.isSome = true := by
    decide +kernel
  rw [← sampleLatest_eq, ← sampleVersions_eq] at hrun
  obtain ⟨_, hok⟩ := Outcome.exists_ok_of_isSome hrun
  exact ⟨_, _, hd, Prod.ext hok rfl⟩

end Sample

end Connector

end TopicBindings.Generation
