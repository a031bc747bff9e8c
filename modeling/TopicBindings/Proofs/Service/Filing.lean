import TopicBindings.Proofs.Entries
import TopicBindings.Proofs.Service.Aggregation

/-!
Which topics and services the groups of an aggregation hold.
-/

namespace TopicBindings

namespace Service

def Filed (groups : Groups) (t : Topic) : Prop :=
  ∃ version ∈ groups, ∃ service ∈ version.2, t ∈ service.2

theorem filed_file (groups : Groups) (i : Topic.Information) (t new : Topic) :
    Filed (file groups i new) t ↔ Filed groups t ∨ t = new := by
  refine Entries.exists_mem_alter (fun services => ∃ service ∈ services, t ∈ service.2) ?_
    (fun services => ?_) groups
  · simp
  · exact Entries.exists_mem_alter (fun topics => t ∈ topics) (by simp) (fun topics => by simp) services

theorem filed_groupsOf (topics : List Topic) (groups : Groups) (t : Topic) :
    Filed (groupsOf topics groups) t ↔ Filed groups t ∨ t ∈ topics := by
  induction topics generalizing groups with
  | nil => simp [groupsOf]
  | cons new rest ih =>
      have hrest : groupsOf (new :: rest) groups = groupsOf rest (file groups new.classification new) := rfl
      rw [hrest, ih, filed_file, List.mem_cons, or_assoc]

theorem filed_sortedVersions (groups : Groups) (t : Topic) :
    Filed (sortedVersions groups) t ↔ Filed groups t := by
  simp only [Filed, sortedVersions, List.mem_mergeSort]

theorem filed_iff {topics : List Topic} {validate : Bool} {d : Definitions}
    (h : aggregate topics validate = .ok d) {t : Topic} : Filed d.versions t ↔ t ∈ topics := by
  obtain ⟨-, rfl⟩ := aggregate_ok.1 h
  rw [definitionsOf, filed_sortedVersions, filed_groupsOf]
  simp [Filed]

theorem keys_of_foldl (topics : List Topic) (known : Entries Topic Topic.Information) {t : Topic}
    (h : t ∈ (topics.foldl (fun known t => Entries.set t t.classification known) known).keys) :
    t ∈ known.keys ∨ t ∈ topics := by
  induction topics generalizing known with
  | nil => exact .inl h
  | cons new rest ih =>
      rcases ih _ h with h | h
      · rw [Entries.keys_set] at h
        split at h
        · exact .inl h
        · rcases List.mem_append.1 h with h | h
          · exact .inl h
          · obtain rfl := List.mem_singleton.1 h
            exact .inr (.head _)
      · exact .inr (.tail _ h)

theorem mem_of_classified {topics : List Topic} {validate : Bool} {d : Definitions}
    (h : aggregate topics validate = .ok d) {t : Topic} (ht : t ∈ d.topics.keys) : t ∈ topics := by
  obtain ⟨-, rfl⟩ := aggregate_ok.1 h
  rcases keys_of_foldl topics [] ht with ht | ht
  · cases ht
  · exact ht

def Offered (groups : Groups) (label service : String) : Prop :=
  ∃ version ∈ groups, version.1 = label ∧ service ∈ version.2.keys

theorem latest_noteLatest {groups : Groups} {label service : String} {known : Entries String Latest}
    (hknown : ∀ entry ∈ known, Offered groups entry.2.label entry.2.service)
    (h : Offered groups label service) :
    ∀ entry ∈ noteLatest label known service, Offered groups entry.2.label entry.2.service := by
  have hset : ∀ entry ∈ known.set (typeName service) ⟨versionOf label, label, service⟩,
      Offered groups entry.2.label entry.2.service := by
    intro entry hentry
    rcases Entries.mem_of_mem_set hentry with rfl | hentry
    · exact h
    · exact hknown entry hentry
  rw [noteLatest]
  split
  · split
    · exact hset
    · exact hknown
  · exact hset

theorem latest_foldl {groups : Groups} {label : String} {services : List String}
    (h : ∀ service ∈ services, Offered groups label service) {known : Entries String Latest}
    (hknown : ∀ entry ∈ known, Offered groups entry.2.label entry.2.service) :
    ∀ entry ∈ services.foldl (noteLatest label) known,
      Offered groups entry.2.label entry.2.service := by
  induction services generalizing known with
  | nil => exact hknown
  | cons service rest ih =>
      exact ih (fun s hs => h s (.tail _ hs)) (latest_noteLatest hknown (h service (.head _)))

theorem latest_latestOf {groups versions : Groups} (h : ∀ version ∈ versions, version ∈ groups)
    {known : Entries String Latest}
    (hknown : ∀ entry ∈ known, Offered groups entry.2.label entry.2.service) :
    ∀ entry ∈ versions.foldl (fun known (label, services) =>
      services.keys.foldl (noteLatest label) known) known,
      Offered groups entry.2.label entry.2.service := by
  induction versions generalizing known with
  | nil => exact hknown
  | cons version rest ih =>
      refine ih (fun v hv => h v (.tail _ hv)) ?_
      exact latest_foldl (fun service hs => ⟨version, h version (.head _), rfl, hs⟩) hknown

theorem offered_of_latest {topics : List Topic} {validate : Bool} {d : Definitions}
    (h : aggregate topics validate = .ok d) :
    ∀ entry ∈ d.latest, Offered d.versions entry.2.label entry.2.service := by
  obtain ⟨-, rfl⟩ := aggregate_ok.1 h
  exact latest_latestOf (fun version hv => hv) (by simp)

end Service

end TopicBindings
