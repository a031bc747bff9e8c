import TopicBindings.Proofs.Service.Partition

/-!
Topics outside the grammar. The fallback takes them in and reports each of them; without it the first of them is why
aggregating fails. On topics inside the grammar both ways come to the same.
-/

namespace TopicBindings

namespace Topic

theorem fault?_eq_some_iff {t : Topic} {fault : GrammarFault} :
    t.fault? = some fault ↔ parse t.name = .error fault := by
  rw [fault?]
  cases parse t.name <;> simp

theorem fault?_eq_none_iff {t : Topic} : t.fault? = none ↔ ∃ i, parse t.name = .ok i := by
  rw [fault?]
  cases parse t.name <;> simp

theorem classification_of_parse {t : Topic} {i : Information} (h : parse t.name = .ok i) : t.classification = i := by
  rw [classification, h]

theorem classification_of_fault {t : Topic} {fault : GrammarFault} (h : parse t.name = .error fault) :
    t.classification = .fallback t.name := by
  rw [classification, h]

theorem topic_of_fault {name : String} {fault : GrammarFault} (h : parse name = .error fault) :
    fault.topic = name := by
  rw [parse] at h
  cases htokens : parseTokens (Text.splitAt '.' name) with
  | ok i => simp [htokens, Except.mapError] at h
  | error gap =>
      rw [htokens] at h
      exact (congrArg GrammarFault.topic (Except.error.inj h)).symm

end Topic

namespace Service

theorem classify_error {t : Topic} {fault : Topic.GrammarFault} :
    classify true t = .error fault ↔ t.fault? = some fault := by
  rw [classify, Topic.fault?]
  cases Topic.parse t.name <;> simp

theorem aggregate_error {topics : List Topic} {fault : Topic.GrammarFault} :
    aggregate topics true = .error fault ↔ topics.findSome? Topic.fault? = some fault := by
  rw [aggregate, Outcome.bind_error]
  have hentry : ∀ (t : Topic) (fault : Topic.GrammarFault),
      (classify true t >>= fun entry => pure (t, entry.1, entry.2)) = Except.error fault ↔ t.fault? = some fault := by
    intro t fault
    rw [Outcome.bind_error, classify_error]
    simp [pure, Except.pure]
  rw [Outcome.mapM_error hentry]
  simp [pure, Except.pure]

variable {topics : List Topic} {validate : Bool} {d : Definitions}

theorem mem_group (h : aggregate topics validate = .ok d) {t : Topic} (ht : t ∈ topics) :
    t ∈ group d.versions t.classification.version t.classification.service := by
  obtain ⟨version, hversion, service, hservice, hmem⟩ := (filed_iff h).2 ht
  have hbelongs := hmem
  rw [topics_of_service h hversion hservice, List.mem_filter] at hbelongs
  obtain ⟨hlabel, hname⟩ := of_decide_eq_true hbelongs.2
  rwa [hlabel, hname, (distinct_versions h).group_of_mem hversion hservice]

theorem exists_aggregate_error_iff :
    (∃ fault, aggregate topics true = .error fault) ↔ ∃ t ∈ topics, ∃ fault, Topic.parse t.name = .error fault := by
  simp only [aggregate_error, ← Option.isSome_iff_exists, List.findSome?_isSome_iff]
  simp only [Option.isSome_iff_exists, Topic.fault?_eq_some_iff]

theorem first_of_aggregate_error {fault : Topic.GrammarFault} (h : aggregate topics true = .error fault) :
    ∃ before t behind, topics = before ++ t :: behind ∧ (∀ s ∈ before, ∃ i, Topic.parse s.name = .ok i) ∧
      Topic.parse t.name = .error fault := by
  obtain ⟨before, t, behind, htopics, hfault, hbefore⟩ := List.findSome?_eq_some_iff.1 (aggregate_error.1 h)
  refine ⟨before, t, behind, htopics, fun s hs => ?_, Topic.fault?_eq_some_iff.1 hfault⟩
  exact Topic.fault?_eq_none_iff.1 (hbefore s hs)

/-- Topics that are taken in, whatever their names: one outside the grammar stands under the fallback and is reported
with the text of its fault, and all others are what their names say. -/
structure TakenIn (topics : List Topic) (d : Definitions) : Prop where
  reported : d.diagnostics.map (fun fault => (fault.topic, fault.message)) = topics.filterMap fun t =>
    match Topic.parse t.name with
    | .ok _ => none
    | .error fault => some (t.name, fault.message)
  parsed : ∀ t ∈ topics, ∀ i, Topic.parse t.name = .ok i →
    d.information t = some i ∧ t ∈ group d.versions i.version i.service
  rejected : ∀ t ∈ topics, ∀ fault, Topic.parse t.name = .error fault →
    t ∈ group d.versions "1" "Topics" ∧ ∃ i, d.information t = some i ∧ i.version = "1" ∧ i.service = "Topics" ∧
      i.resources = Text.splitAt '.' t.name ∧ Text.join "." i.resources = t.name

theorem reported_diagnostics (h : aggregate topics validate = .ok d) :
    d.diagnostics.map (fun fault => (fault.topic, fault.message)) = topics.filterMap fun t =>
      match Topic.parse t.name with
      | .ok _ => none
      | .error fault => some (t.name, fault.message) := by
  rw [(aggregate_ok.1 h).2, definitionsOf, List.map_filterMap]
  refine List.filterMap_congr fun t _ => ?_
  rw [Topic.fault?]
  cases hparse : Topic.parse t.name with
  | ok i => rfl
  | error fault => exact congrArg (fun name => some (name, fault.message)) (Topic.topic_of_fault hparse)

theorem takenIn_of_aggregate (h : aggregate topics validate = .ok d) : TakenIn topics d where
  reported := reported_diagnostics h
  parsed t ht i hparse := by
    rw [← Topic.classification_of_parse hparse]
    exact ⟨information_of_mem h ht, mem_group h ht⟩
  rejected t ht fault hparse := by
    have hgroup := mem_group h ht
    have hinformation := information_of_mem h ht
    rw [Topic.classification_of_fault hparse] at hgroup hinformation
    exact ⟨hgroup, _, hinformation, rfl, rfl, rfl, Text.join_splitAt '.' t.name⟩

theorem aggregate_of_grammatical (h : ∀ t ∈ topics, ∃ i, Topic.parse t.name = .ok i) :
    ∃ d, aggregate topics true = .ok d ∧ aggregate topics false = .ok d ∧ d.diagnostics = [] := by
  have hfault : ∀ t ∈ topics, t.fault? = none := fun t ht => Topic.fault?_eq_none_iff.2 (h t ht)
  refine ⟨definitionsOf topics, aggregate_ok.2 ⟨fun _ => hfault, rfl⟩, aggregate_ok.2 ⟨by simp, rfl⟩, ?_⟩
  exact List.filterMap_eq_nil_iff.2 hfault

end Service

end TopicBindings
