import TopicBindings.Proofs.Service.Order

/-!
Aggregating divides the topics among the services of the versions: every occurrence of a topic stands in one group,
the groups of a version stand in the order in which its services occur, and the versions stand in ascending order.
-/

namespace TopicBindings.Service

def contents (groups : Groups) : List Topic :=
  groups.flatMap fun version => version.2.flatMap fun service => service.2

def servicesAt (topics : List Topic) (label : String) : List String :=
  ((topics.filter fun t => t.classification.version = label).map fun t => t.classification.service).eraseDups

theorem mem_servicesAt {topics : List Topic} {label service : String} : service ∈ servicesAt topics label ↔
    ∃ t ∈ topics, t.classification.version = label ∧ t.classification.service = service := by
  simp [servicesAt, and_assoc]

section Filing

variable (topics : List Topic)

theorem groupsOf_concat (t : Topic) (groups : Groups) :
    groupsOf (topics ++ [t]) groups = file (groupsOf topics groups) t.classification t :=
  List.foldl_concat ..

theorem contents_file (groups : Groups) (i : Topic.Information) (t : Topic) :
    (contents (file groups i t)).Perm (contents groups ++ [t]) := by
  have hservices : ∀ services : Entries String (List Topic),
      ((services.alter i.service [t] (· ++ [t])).flatMap fun service => service.2).Perm
        (services.flatMap (fun service => service.2) ++ [t]) := fun services =>
    Entries.flatMap_alter_perm (g := fun topics => topics) (.refl _) (fun _ => .refl _) services
  refine Entries.flatMap_alter_perm (g := fun services => List.flatMap (fun service => service.2) services) ?_
    hservices groups
  simp

theorem contents_groupsOf : (contents (groupsOf topics [])).Perm topics := by
  induction topics using List.reverseRecOn with
  | nil => exact .refl _
  | append_singleton rest t ih =>
      rw [groupsOf_concat]
      exact (contents_file _ _ t).trans (ih.append_right [t])

theorem keys_groupsOf :
    (groupsOf topics []).keys = (topics.map fun t => t.classification.version).eraseDups := by
  induction topics using List.reverseRecOn with
  | nil => rfl
  | append_singleton rest t ih =>
      rw [groupsOf_concat, List.map_append]
      exact Entries.keys_alter_of_eq ih _ _ _

theorem keys_lookup_groupsOf (label : String) :
    (((groupsOf topics []).lookup label).getD []).keys = servicesAt topics label := by
  induction topics using List.reverseRecOn with
  | nil => rfl
  | append_singleton rest t ih =>
      rw [groupsOf_concat, file, servicesAt, List.filter_append, List.map_append]
      by_cases hlabel : label = t.classification.version
      · subst hlabel
        have hservices : ∀ services : Option (Entries String (List Topic)),
            (services.map fun services => services.alter t.classification.service [t] (· ++ [t])).getD
                [(t.classification.service, [t])] =
              (services.getD []).alter t.classification.service [t] (· ++ [t]) := fun services => by
          cases services <;> rfl
        rw [Entries.lookup_alter_self, Option.getD_some, hservices, Entries.keys_alter_of_eq ih]
        simp
      · rw [Entries.lookup_alter_other hlabel, ih, servicesAt]
        simp [Ne.symm hlabel]

theorem foldl_set_eq : topics.foldl (fun known t => Entries.set t t.classification known) [] =
    topics.eraseDups.map fun t => (t, t.classification) := by
  induction topics using List.reverseRecOn with
  | nil => rfl
  | append_singleton rest t ih =>
      rw [List.foldl_concat, ih]
      exact Entries.set_map_eraseDups Topic.classification rest t

end Filing

/-- Topics and what they are grouped to, with nothing lost, doubled or moved. -/
structure Partitions (topics : List Topic) (d : Definitions) : Prop where
  classified : d.topics = topics.eraseDups.map fun t => (t, t.classification)
  labels : ∀ label, label ∈ d.versions.keys ↔ ∃ t ∈ topics, t.classification.version = label
  numeric : ∀ label ∈ d.versions.keys, Version.parse label = .ok (versionOf label)
  ascending : d.versions.keys.Pairwise Precedes
  distinct : d.versions.keys.Nodup
  services : ∀ version ∈ d.versions, version.2.keys = servicesAt topics version.1
  inhabited : ∀ version ∈ d.versions, ∀ service ∈ version.2, service.2 ≠ []
  groups : ∀ version ∈ d.versions, ∀ service ∈ version.2,
    service.2 = topics.filter (Topic.belongsTo version.1 service.1)
  whole : (contents d.versions).Perm topics

section Aggregation

variable {topics : List Topic} {validate : Bool} {d : Definitions}

theorem mem_keys_versions (h : aggregate topics validate = .ok d) {label : String} :
    label ∈ d.versions.keys ↔ ∃ t ∈ topics, t.classification.version = label := by
  have hperm : d.versions.keys.Perm (groupsOf topics []).keys := by
    rw [(aggregate_ok.1 h).2]
    exact (List.mergeSort_perm _ _).map Prod.fst
  rw [hperm.mem_iff, keys_groupsOf, List.mem_eraseDups, List.mem_map]

theorem keys_services (h : aggregate topics validate = .ok d) {version : String × Entries String (List Topic)}
    (hversion : version ∈ d.versions) : version.2.keys = servicesAt topics version.1 := by
  rw [(aggregate_ok.1 h).2] at hversion
  have hlookup := Entries.lookup_of_mem (distinct_nil.groupsOf topics).versions (mem_sortedVersions.1 hversion)
  rw [← keys_lookup_groupsOf, hlookup, Option.getD_some]

theorem ne_nil_of_service (h : aggregate topics validate = .ok d)
    {version : String × Entries String (List Topic)} (hversion : version ∈ d.versions)
    {service : String × List Topic} (hservice : service ∈ version.2) : service.2 ≠ [] := by
  have hkey : service.1 ∈ version.2.keys := List.mem_map_of_mem hservice
  rw [keys_services h hversion, mem_servicesAt] at hkey
  obtain ⟨t, ht, hbelongs⟩ := hkey
  rw [topics_of_service h hversion hservice]
  exact List.ne_nil_of_mem (List.mem_filter.2 ⟨ht, decide_eq_true hbelongs⟩)

theorem contents_versions (h : aggregate topics validate = .ok d) : (contents d.versions).Perm topics := by
  rw [(aggregate_ok.1 h).2]
  exact ((List.mergeSort_perm _ _).flatMap_right _).trans (contents_groupsOf topics)

theorem keys_topics (h : aggregate topics validate = .ok d) : d.topics.keys = topics.eraseDups := by
  rw [(aggregate_ok.1 h).2, definitionsOf, foldl_set_eq, Entries.keys, List.map_map]
  exact List.map_id' _

theorem ascending_versions (h : aggregate topics validate = .ok d) : d.versions.keys.Pairwise Precedes := by
  rw [(aggregate_ok.1 h).2]
  exact pairwise_precedes (distinct_nil.groupsOf topics)

theorem aggregate_partitions (h : aggregate topics validate = .ok d) : Partitions topics d where
  classified := by
    rw [(aggregate_ok.1 h).2]
    exact foldl_set_eq topics
  labels _ := mem_keys_versions h
  numeric label hlabel := by
    obtain ⟨version, hversion, rfl⟩ := List.mem_map.1 hlabel
    exact (dotted_of_mem h hversion).parse_eq
  ascending := ascending_versions h
  distinct := (distinct_versions h).versions
  services _ hversion := keys_services h hversion
  inhabited _ hversion _ hservice := ne_nil_of_service h hversion hservice
  groups _ hversion _ hservice := topics_of_service h hversion hservice
  whole := contents_versions h

/-- Three spellings of one version in turn, a topic that occurs twice, and one outside the grammar. -/
def interleaved : List Topic :=
  [⟨"s.1.0.event.r.a", none, none⟩, ⟨"u.1.event.r.a", none, none⟩, ⟨"odd", none, none⟩,
    ⟨"u.01.event.r.a", none, none⟩, ⟨"s.1.0.event.r.a", none, none⟩, ⟨"s.1.event.r.a", none, none⟩]

theorem aggregate_partitions_interleaved : ∃ d, aggregate interleaved false = .ok d ∧ d.topics.length = 5 ∧
    servicesAt interleaved "1" = ["u", "Topics", "s"] ∧ Partitions interleaved d := by
  have hd : aggregate interleaved false = .ok (definitionsOf interleaved) := aggregate_ok.2 ⟨by simp, rfl⟩
  exact ⟨_, hd, by decide +kernel, by decide +kernel, aggregate_partitions hd⟩

end Aggregation

end TopicBindings.Service
