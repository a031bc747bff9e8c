import TopicBindings.Proofs.Service.Filing
import TopicBindings.Proofs.Topic.Grammar

/-!
What an aggregation holds. Every version and every service in it is listed once, and under a service stand
the topics classified so, in the order of the description.
-/

namespace TopicBindings

def Topic.belongsTo (label service : String) (t : Topic) : Bool :=
  t.classification.version = label ∧ t.classification.service = service

namespace Service

theorem lookup_foldl_set {topics : List Topic} {known : Entries Topic Topic.Information} {t : Topic}
    (h : t ∈ topics ∨ known.lookup t = some t.classification) :
    (topics.foldl (fun known t => Entries.set t t.classification known) known).lookup t =
      some t.classification := by
  induction topics generalizing known with
  | nil => simpa using h
  | cons first rest ih =>
      refine ih ?_
      by_cases hfirst : t = first
      · subst hfirst
        exact .inr (Entries.lookup_set_self ..)
      · rw [Entries.lookup_set_other hfirst]
        simpa [hfirst] using h

theorem information_of_mem {topics : List Topic} {validate : Bool} {d : Definitions}
    (h : aggregate topics validate = .ok d) {t : Topic} (ht : t ∈ topics) :
    d.information t = some t.classification := by
  rw [(aggregate_ok.1 h).2, Definitions.information]
  exact lookup_foldl_set (.inl ht)

section Groups

def group (groups : Groups) (label service : String) : List Topic :=
  ((groups.lookup label).bind (·.lookup service)).getD []

theorem group_file (groups : Groups) (i : Topic.Information) (t : Topic) (label service : String) :
    group (file groups i t) label service =
      group groups label service ++ if i.version = label ∧ i.service = service then [t] else [] := by
  rw [file, group, group]
  by_cases hlabel : label = i.version
  · subst hlabel
    rw [Entries.lookup_alter_self]
    by_cases hservice : service = i.service
    · subst hservice
      cases groups.lookup i.version with
      | none => simp
      | some services =>
          simp only [Option.map_some, Option.getD_some, Option.bind_some, Entries.lookup_alter_self]
          cases services.lookup i.service <;> simp
    · cases groups.lookup i.version with
      | none => simp [List.lookup_cons, beq_eq_false_iff_ne.2 hservice, Ne.symm hservice]
      | some services => simp [Entries.lookup_alter_other hservice, Ne.symm hservice]
  · rw [Entries.lookup_alter_other hlabel]
    simp [Ne.symm hlabel]

/-- Filing topics puts each of them behind those that its service at its version had before. -/
theorem group_groupsOf (topics : List Topic) (groups : Groups) (label service : String) :
    group (groupsOf topics groups) label service =
      group groups label service ++ topics.filter (Topic.belongsTo label service) := by
  induction topics generalizing groups with
  | nil => simp [groupsOf]
  | cons t rest ih =>
      have hrest : groupsOf (t :: rest) groups = groupsOf rest (file groups t.classification t) := rfl
      rw [hrest, ih, group_file, List.append_assoc, List.filter_cons]
      by_cases h : t.classification.version = label ∧ t.classification.service = service
      · simp [Topic.belongsTo, h]
      · simp [Topic.belongsTo, h]

structure Distinct (groups : Groups) : Prop where
  versions : groups.keys.Nodup
  services : ∀ version ∈ groups, version.2.keys.Nodup

theorem Distinct.file {groups : Groups} (h : Distinct groups) (i : Topic.Information) (t : Topic) :
    Distinct (file groups i t) where
  versions := Entries.nodup_keys_alter h.versions _ _ _
  services :=
    Entries.forall_mem_alter (P := fun _ services => Entries.keys services |>.Nodup) h.services
      (List.nodup_singleton _) fun _ hservices => Entries.nodup_keys_alter hservices _ _ _

theorem Distinct.groupsOf {groups : Groups} (h : Distinct groups) (topics : List Topic) :
    Distinct (groupsOf topics groups) := by
  induction topics generalizing groups with
  | nil => exact h
  | cons t rest ih => exact ih (h.file t.classification t)

theorem mem_sortedVersions {groups : Groups} {version : String × Entries String (List Topic)} :
    version ∈ sortedVersions groups ↔ version ∈ groups :=
  List.mem_mergeSort

theorem Distinct.sortedVersions {groups : Groups} (h : Distinct groups) :
    Distinct (sortedVersions groups) where
  versions := ((List.mergeSort_perm groups _).map Prod.fst).nodup_iff.2 h.versions
  services version hversion := h.services version (mem_sortedVersions.1 hversion)

theorem Distinct.group_of_mem {groups : Groups} (h : Distinct groups)
    {version : String × Entries String (List Topic)} (hversion : version ∈ groups)
    {service : String × List Topic} (hservice : service ∈ version.2) :
    group groups version.1 service.1 = service.2 := by
  rw [group, Entries.lookup_of_mem h.versions hversion, Option.bind_some,
    Entries.lookup_of_mem (h.services version hversion) hservice, Option.getD_some]

theorem distinct_nil : Distinct [] :=
  ⟨List.nodup_nil, by simp⟩

variable {topics : List Topic} {validate : Bool} {d : Definitions}

theorem distinct_versions (h : aggregate topics validate = .ok d) : Distinct d.versions := by
  rw [(aggregate_ok.1 h).2]
  exact (distinct_nil.groupsOf topics).sortedVersions

theorem topics_of_service (h : aggregate topics validate = .ok d)
    {version : String × Entries String (List Topic)} (hversion : version ∈ d.versions)
    {service : String × List Topic} (hservice : service ∈ version.2) :
    service.2 = topics.filter (Topic.belongsTo version.1 service.1) := by
  rw [(aggregate_ok.1 h).2] at hversion
  rw [← (distinct_nil.groupsOf topics).group_of_mem (mem_sortedVersions.1 hversion) hservice,
    group_groupsOf]
  rfl

/-- Topics grouped by version and service: no group is listed twice, every topic is in one, and each of them
has the topics that belong to it in their order. -/
structure Grouped (topics : List Topic) (groups : Groups) : Prop where
  distinct : Distinct groups
  covered : ∀ t ∈ topics, Filed groups t
  members : ∀ version ∈ groups, ∀ service ∈ version.2,
    service.2 = topics.filter (Topic.belongsTo version.1 service.1)

theorem grouped_versions (h : aggregate topics validate = .ok d) : Grouped topics d.versions where
  distinct := distinct_versions h
  covered _ := (filed_iff h).2
  members _ hversion _ hservice := topics_of_service h hversion hservice

end Groups

section Labels

def Dotted (label : String) : Prop :=
  ∀ token ∈ Text.splitAt '.' label, Topic.isNumeral token = true

theorem dotted_one : Dotted "1" := by
  have hfields : Text.splitAt '.' "1" = ["1"] := Text.splitAt_of_not_mem (by decide)
  intro token htoken
  rw [hfields, List.mem_singleton] at htoken
  rw [htoken]
  decide

theorem dotted_classification (t : Topic) : Dotted t.classification.version := by
  rw [Topic.classification]
  split
  next information hparse => exact (Topic.parse_ok_iff.1 hparse).1.version
  · exact dotted_one

theorem dotted_keys_groupsOf {topics : List Topic} {groups : Groups}
    (h : ∀ label ∈ groups.keys, Dotted label) : ∀ label ∈ (groupsOf topics groups).keys, Dotted label := by
  induction topics generalizing groups with
  | nil => exact h
  | cons t rest ih =>
      refine ih fun label hlabel => ?_
      have hkeys : label ∈ (Entries.alter t.classification.version _ _ groups).keys := hlabel
      rw [Entries.keys_alter] at hkeys
      split at hkeys
      · exact h label hkeys
      · rcases List.mem_append.1 hkeys with hkeys | hkeys
        · exact h label hkeys
        · obtain rfl := List.mem_singleton.1 hkeys
          exact dotted_classification t

theorem dotted_of_mem {topics : List Topic} {validate : Bool} {d : Definitions}
    (h : aggregate topics validate = .ok d) {version : String × Entries String (List Topic)}
    (hversion : version ∈ d.versions) : Dotted version.1 := by
  rw [(aggregate_ok.1 h).2] at hversion
  have hversion := mem_sortedVersions.1 hversion
  exact dotted_keys_groupsOf (by simp [Entries.keys]) version.1 (List.mem_map_of_mem hversion)

theorem Dotted.isDigit_of_mem {label : String} (h : Dotted label) {c : Char} (hmem : c ∈ label.toList) (hne : c ≠ '.') :
    c.isDigit = true := by
  obtain ⟨token, htoken, hmem⟩ := Text.exists_mem_splitAt hmem hne
  exact Topic.isDigit_of_isNumeral (h token htoken) c hmem

theorem Dotted.underscore_not_mem {label : String} (h : Dotted label) : '_' ∉ label.toList := fun hmem =>
  absurd (h.isDigit_of_mem hmem (by decide)) (by decide)

theorem toList_versionIdentifier (label : String) : (Naming.versionIdentifier label).toList =
    'v' :: label.toList.map fun c => if c = '.' then '_' else c := by
  rw [Naming.versionIdentifier, String.toList_ofList]

theorem Dotted.versionIdentifier_inj {label other : String} (h : Dotted label) (h' : Dotted other)
    (heq : Naming.versionIdentifier label = Naming.versionIdentifier other) : label = other := by
  have hback : ∀ l : List Char, '_' ∉ l →
      (l.map fun c => if c = '.' then '_' else c).map (fun c => if c = '_' then '.' else c) = l := by
    intro l hl
    rw [List.map_map]
    refine (List.map_congr_left fun c hc => ?_).trans (List.map_id l)
    have hne : c ≠ '_' := fun he => hl (he ▸ hc)
    by_cases hdot : c = '.' <;> simp [hdot, hne]
  have hlist := congrArg String.toList heq
  rw [toList_versionIdentifier, toList_versionIdentifier] at hlist
  have hmap := congrArg (List.map fun c => if c = '_' then '.' else c) (List.cons.inj hlist).2
  rw [hback _ h.underscore_not_mem, hback _ h'.underscore_not_mem] at hmap
  exact String.toList_injective hmap

end Labels

end Service

end TopicBindings
