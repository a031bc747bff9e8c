import TopicBindings.Proofs.Outcome
import TopicBindings.Service.Definitions

/-!
What topics are grouped to, as a function of their classifications alone. Aggregating succeeds with it, unless a
topic outside the grammar is to be refused.
-/

namespace TopicBindings

/-- What a topic counts as: what its name says or, outside the grammar, the fallback. -/
def Topic.classification (t : Topic) : Topic.Information :=
  match Topic.parse t.name with
  | .ok information => information
  | .error _ => .fallback t.name

def Topic.fault? (t : Topic) : Option Topic.GrammarFault :=
  match Topic.parse t.name with
  | .ok _ => none
  | .error fault => some fault

namespace Service

theorem classify_ok {validate : Bool} {t : Topic} {entry : Topic.Information × Option Topic.GrammarFault} :
    classify validate t = .ok entry ↔
      (validate = true → t.fault? = none) ∧ (t.classification, t.fault?) = entry := by
  rw [classify, Topic.classification, Topic.fault?]
  cases Topic.parse t.name with
  | ok information => simp
  | error fault => cases validate <;> simp

def groupsOf (topics : List Topic) (groups : Groups) : Groups :=
  topics.foldl (fun groups t => file groups t.classification t) groups

def definitionsOf (topics : List Topic) : Definitions where
  topics := topics.foldl (fun known t => Entries.set t t.classification known) []
  versions := sortedVersions (groupsOf topics [])
  latest := latestOf (sortedVersions (groupsOf topics []))
  diagnostics := topics.filterMap Topic.fault?

theorem mapM_classify_ok {topics : List Topic} {validate : Bool}
    {classified : List (Topic × Topic.Information × Option Topic.GrammarFault)} :
    (topics.mapM fun t => do
      let (information, fault) ← classify validate t
      return (t, information, fault)) = Except.ok classified ↔
        (validate = true → ∀ t ∈ topics, t.fault? = none) ∧
          classified = topics.map fun t => (t, t.classification, t.fault?) := by
  have hentry : ∀ t : Topic, ∀ entry : Topic × Topic.Information × Option Topic.GrammarFault, (do
      let (information, fault) ← classify validate t
      return (t, information, fault)) = Except.ok entry ↔
        (validate = true → t.fault? = none) ∧ (t, t.classification, t.fault?) = entry := by
    intro t entry
    rw [Outcome.bind_ok]
    simp only [classify_ok, Outcome.pure_ok]
    constructor
    · rintro ⟨_, ⟨hvalid, rfl⟩, rfl⟩
      exact ⟨hvalid, rfl⟩
    · rintro ⟨hvalid, rfl⟩
      exact ⟨_, ⟨hvalid, rfl⟩, rfl⟩
  rw [Outcome.mapM_ok]
  simp only [hentry]
  rw [List.forall₂_and_left, ← List.forall₂_map_left_iff, List.forall₂_eq_eq_eq]
  constructor
  · rintro ⟨hvalid, rfl⟩
    exact ⟨fun hv t ht => hvalid t ht hv, rfl⟩
  · rintro ⟨hvalid, rfl⟩
    exact ⟨fun t ht hv => hvalid hv t ht, rfl⟩

theorem aggregate_ok {topics : List Topic} {validate : Bool} {d : Definitions} :
    aggregate topics validate = .ok d ↔
      (validate = true → ∀ t ∈ topics, t.fault? = none) ∧ d = definitionsOf topics := by
  rw [aggregate, Outcome.bind_ok]
  simp only [mapM_classify_ok, Outcome.pure_ok]
  constructor
  · rintro ⟨_, ⟨hvalid, rfl⟩, rfl⟩
    exact ⟨hvalid, by simp [definitionsOf, groupsOf, List.foldl_map, List.filterMap_map]⟩
  · rintro ⟨hvalid, rfl⟩
    refine ⟨_, ⟨hvalid, rfl⟩, ?_⟩
    simp [definitionsOf, groupsOf, List.foldl_map, List.filterMap_map]

end Service

end TopicBindings
