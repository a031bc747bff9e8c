import Mathlib.Data.List.MinMax
import TopicBindings.Proofs.Service.Partition

/-!
The latest version of a service. The services are offered version by version in ascending order, and the first offer
of the greatest version counts; which one that is does not hang on the order of the topics.
-/

namespace TopicBindings.Service

def offers (versions : Groups) : List (String × String) :=
  versions.flatMap fun version => version.2.keys.map fun service => (version.1, service)

def latestAt (offer : String × String) : Latest :=
  ⟨versionOf offer.1, offer.1, offer.2⟩

def offersOf (type : String) (offered : List (String × String)) : List (String × String) :=
  offered.filter fun offer => typeName offer.2 = type

/-- The first offer of the greatest version. -/
noncomputable def best (offered : List (String × String)) : Option (String × String) :=
  offered.argmax fun offer => (versionOf offer.1).value

section Fold

theorem latestOf_eq_foldl (versions : Groups) :
    latestOf versions = (offers versions).foldl (fun known offer => noteLatest offer.1 known offer.2) [] := by
  simp only [latestOf, offers, List.foldl_flatMap, List.foldl_map]

theorem best_concat (offered : List (String × String)) (offer : String × String) :
    best (offered ++ [offer]) = match best offered with
      | some current =>
          if (versionOf offer.1).compare (versionOf current.1) = .gt then some offer else some current
      | none => some offer := by
  simp only [Version.compare_eq, compare_gt_iff_gt]
  rw [best, List.argmax_concat, ← best]
  cases best offered with
  | none => rfl
  | some current => rfl

theorem lookup_noteLatest_self {known : Entries String Latest} {offered : List (String × String)}
    {label service : String} (h : known.lookup (typeName service) = (best offered).map latestAt) :
    (noteLatest label known service).lookup (typeName service) =
      (best (offered ++ [(label, service)])).map latestAt := by
  have hset : ∀ latest : Latest, (known.set (typeName service) latest).lookup (typeName service) = some latest :=
    fun latest => Entries.lookup_set_self (typeName service) latest known
  rw [noteLatest, h, best_concat]
  cases hbest : best offered with
  | none => exact hset _
  | some current =>
      by_cases hgt : (versionOf label).compare (versionOf current.1) = .gt
      · simp [latestAt, hgt, hset]
      · simp [latestAt, hgt, h, hbest]

theorem lookup_noteLatest_other {known : Entries String Latest} {type label service : String}
    (h : type ≠ typeName service) : (noteLatest label known service).lookup type = known.lookup type := by
  have hset : ∀ latest : Latest, (known.set (typeName service) latest).lookup type = known.lookup type :=
    fun latest => Entries.lookup_set_other h latest known
  rw [noteLatest]
  split
  · split
    · exact hset _
    · rfl
  · exact hset _

/-- What is noted as the latest version of a type is the best of its offers. -/
theorem lookup_foldl_noteLatest (type : String) (offered : List (String × String)) :
    (offered.foldl (fun known offer => noteLatest offer.1 known offer.2) []).lookup type =
      (best (offersOf type offered)).map latestAt := by
  induction offered using List.reverseRecOn with
  | nil => rfl
  | append_singleton rest offer ih =>
      rw [List.foldl_concat, offersOf, List.filter_append, ← offersOf]
      by_cases htype : typeName offer.2 = type
      · subst htype
        rw [lookup_noteLatest_self ih]
        simp
      · rw [lookup_noteLatest_other (Ne.symm htype), ih]
        simp [htype]

end Fold

/-- The first of the greatest has smaller ones before it and none that is greater behind it. -/
theorem exists_append_of_argmax {α β : Type} [LinearOrder β] {f : α → β} {l : List α} {a : α}
    (h : l.argmax f = some a) : ∃ before behind, l = before ++ a :: behind ∧
      (∀ b ∈ before, f b < f a) ∧ ∀ b ∈ behind, f b ≤ f a := by
  classical
  obtain ⟨before, behind, rfl, hfirst⟩ := List.eq_append_cons_of_mem (List.argmax_mem h)
  refine ⟨before, behind, rfl, fun b hb => lt_of_not_ge fun hle => ?_, fun b hb =>
    List.le_of_mem_argmax (List.mem_append_right _ (.tail _ hb)) h⟩
  have hindex := List.index_of_argmax h (List.mem_append_left _ hb) hle
  rw [List.idxOf_append_of_mem hb, List.idxOf_append_of_notMem hfirst] at hindex
  have hlt := List.idxOf_lt_length_of_mem hb
  omega

section Offers

variable {topics : List Topic} {validate : Bool} {d : Definitions}

theorem mem_offers (h : aggregate topics validate = .ok d) {offer : String × String} : offer ∈ offers d.versions ↔
    ∃ t ∈ topics, t.classification.version = offer.1 ∧ t.classification.service = offer.2 := by
  obtain ⟨label, service⟩ := offer
  simp only [offers, List.mem_flatMap, List.mem_map, Prod.mk.injEq]
  constructor
  · rintro ⟨version, hversion, _, hservice, rfl, rfl⟩
    rwa [keys_services h hversion, mem_servicesAt] at hservice
  · rintro ⟨t, ht, rfl, rfl⟩
    obtain ⟨version, hversion, hlabel⟩ := List.mem_map.1 ((mem_keys_versions h).2 ⟨t, ht, rfl⟩)
    refine ⟨version, hversion, _, ?_, hlabel, rfl⟩
    rw [keys_services h hversion, mem_servicesAt]
    exact ⟨t, ht, hlabel.symm, rfl⟩

theorem pairwise_offers {versions : Groups} (h : versions.keys.Pairwise fun a b => rank a ≤ rank b) :
    (offers versions).Pairwise fun a b => rank a.1 ≤ rank b.1 := by
  refine List.pairwise_flatMap.2 ⟨fun version _ => ?_, (List.pairwise_map.1 h).imp fun hle a ha b hb => ?_⟩
  · exact List.pairwise_map.2 (List.pairwise_of_forall fun _ _ => le_rfl)
  · obtain ⟨_, -, rfl⟩ := List.mem_map.1 ha
    obtain ⟨_, -, rfl⟩ := List.mem_map.1 hb
    exact hle

theorem filter_offers {versions : Groups} (hn : versions.keys.Nodup)
    {version : String × Entries String (List Topic)} (h : version ∈ versions) :
    (offers versions).filter (fun offer => offer.1 = version.1) =
      version.2.keys.map fun service => (version.1, service) := by
  -- A label is listed once, so nothing that stands under another entry is offered with it.
  have hnone : ∀ others : Groups, version.1 ∉ others.keys →
      (offers others).filter (fun offer => offer.1 = version.1) = [] := by
    intro others hothers
    refine List.filter_eq_nil_iff.2 fun offer hoffer => ?_
    obtain ⟨other, hother, hoffer⟩ := List.mem_flatMap.1 hoffer
    obtain ⟨_, -, rfl⟩ := List.mem_map.1 hoffer
    exact fun heq => hothers (of_decide_eq_true heq ▸ List.mem_map_of_mem hother)
  obtain ⟨before, behind, rfl⟩ := List.append_of_mem h
  have hself : (version.2.keys.map fun service => (version.1, service)).filter
      (fun offer => offer.1 = version.1) = version.2.keys.map fun service => (version.1, service) := by
    refine List.filter_eq_self.2 fun offer hoffer => ?_
    obtain ⟨_, -, rfl⟩ := List.mem_map.1 hoffer
    simp
  have hsplit : offers (before ++ version :: behind) =
      offers before ++ (version.2.keys.map (fun service => (version.1, service)) ++ offers behind) := by
    simp only [offers, List.flatMap_append, List.flatMap_cons]
  rw [Entries.keys, List.map_append, List.map_cons, List.nodup_middle, List.nodup_cons, List.mem_append,
    not_or] at hn
  rw [hsplit, List.filter_append, List.filter_append, hself, hnone before hn.1.1, hnone behind hn.1.2,
    List.nil_append, List.append_nil]

end Offers

section Latest

/-- The latest version of the services that are generated as one type: of the labels that they occur with it is the
smallest one of the greatest version, and the service is the first one that occurs with it. -/
structure LatestAmong (topics : List Topic) (type : String) (latest : Latest) : Prop where
  numeric : Version.parse latest.label = .ok latest.version
  greatest : ∀ t ∈ topics, typeName t.classification.service = type →
    ∃ v, Version.parse t.classification.version = .ok v ∧ v.compare latest.version ≠ .gt ∧
      (v.compare latest.version = .eq → latest.label ≤ t.classification.version)
  first : (topics.find? fun t =>
      t.classification.version = latest.label ∧ typeName t.classification.service = type).map
    (fun t => t.classification.service) = some latest.service

variable {topics : List Topic} {validate : Bool} {d : Definitions} {type : String} {latest : Latest}

theorem lookup_latest (h : aggregate topics validate = .ok d) (type : String) :
    d.latest.lookup type = (best (offersOf type (offers d.versions))).map latestAt := by
  rw [(aggregate_ok.1 h).2, definitionsOf, latestOf_eq_foldl]
  exact lookup_foldl_noteLatest type _

theorem mem_offersOf (h : aggregate topics validate = .ok d) {offer : String × String} :
    offer ∈ offersOf type (offers d.versions) ↔ typeName offer.2 = type ∧
      ∃ t ∈ topics, t.classification.version = offer.1 ∧ t.classification.service = offer.2 := by
  rw [offersOf, List.mem_filter, mem_offers h, decide_eq_true_iff, and_comm]

theorem exists_latest_iff (h : aggregate topics validate = .ok d) :
    (∃ latest, d.latest.lookup type = some latest) ↔ ∃ t ∈ topics, typeName t.classification.service = type := by
  rw [← Option.isSome_iff_exists, lookup_latest h, Option.isSome_map, ← Option.ne_none_iff_isSome, best, ne_eq,
    List.argmax_eq_none]
  constructor
  · intro hne
    obtain ⟨offer, hoffer⟩ := List.exists_mem_of_ne_nil _ hne
    obtain ⟨htype, t, ht, -, hservice⟩ := (mem_offersOf h).1 hoffer
    exact ⟨t, ht, hservice ▸ htype⟩
  · rintro ⟨t, ht, htype⟩
    have hoffer : (t.classification.version, t.classification.service) ∈ offersOf type (offers d.versions) :=
      (mem_offersOf h).2 ⟨htype, t, ht, rfl, rfl⟩
    exact List.ne_nil_of_mem hoffer

/-- The first service of a type that is offered with a label is the first one that occurs with it. -/
theorem find?_of_head_offers (h : aggregate topics validate = .ok d) {label service : String}
    (hhead : ((offersOf type (offers d.versions)).filter fun offer => offer.1 = label).head? =
      some (label, service)) :
    (topics.find? fun t => t.classification.version = label ∧ typeName t.classification.service = type).map
      (fun t => t.classification.service) = some service := by
  have hoffer := (mem_offersOf h).1 (List.mem_filter.1 (List.mem_of_head? hhead)).1
  obtain ⟨-, t, ht, hlabel, -⟩ := hoffer
  obtain ⟨version, hversion, rfl⟩ := List.mem_map.1 ((mem_keys_versions h).2 ⟨t, ht, hlabel⟩)
  rw [offersOf, List.filter_comm, filter_offers (distinct_versions h).versions hversion, List.head?_filter,
    List.find?_map, keys_services h hversion, servicesAt, Entries.find?_eraseDups, List.find?_map,
    List.find?_filter] at hhead
  obtain ⟨found, hfound, hpair⟩ := Option.map_eq_some_iff.1 hhead
  obtain rfl : found = service := (Prod.mk.inj hpair).2
  simpa only [decide_eq_true_eq, Function.comp_apply] using hfound

theorem label_le_of_rank_le {a b : String} (h : rank a ≤ rank b) (heq : (versionOf a).value = (versionOf b).value) :
    a ≤ b := by
  rcases Prod.Lex.toLex_le_toLex.1 h with hlt | ⟨-, hle⟩
  · exact absurd heq hlt.ne
  · exact hle

theorem greatest_of_best {offered : List (String × String)} {offer other : String × String}
    (hordered : offered.Pairwise fun a b => rank a.1 ≤ rank b.1) (h : best offered = some offer)
    (hother : other ∈ offered) : (versionOf other.1).value ≤ (versionOf offer.1).value ∧
      ((versionOf other.1).value = (versionOf offer.1).value → offer.1 ≤ other.1) := by
  obtain ⟨before, behind, rfl, hlower, hupper⟩ := exists_append_of_argmax h
  have hbehind := (List.pairwise_cons.1 (List.pairwise_append.1 hordered).2.1).1
  rcases List.mem_append.1 hother with hbefore | hrest
  · exact ⟨(hlower other hbefore).le, fun heq => absurd heq (hlower other hbefore).ne⟩
  · rcases List.mem_cons.1 hrest with rfl | hrest
    · exact ⟨le_rfl, fun _ => le_rfl⟩
    · exact ⟨hupper other hrest, fun heq => label_le_of_rank_le (hbehind other hrest) heq.symm⟩

theorem head_of_best {offered : List (String × String)} {offer : String × String} (h : best offered = some offer) :
    (offered.filter fun other => other.1 = offer.1).head? = some offer := by
  obtain ⟨before, behind, rfl, hlower, -⟩ := exists_append_of_argmax h
  have hnone : before.filter (fun other => other.1 = offer.1) = [] :=
    List.filter_eq_nil_iff.2 fun other hother heq => by
      have hlt := hlower other hother
      rw [of_decide_eq_true heq] at hlt
      exact lt_irrefl _ hlt
  rw [List.filter_append, hnone]
  simp

theorem pairwise_offersOf (h : aggregate topics validate = .ok d) (type : String) :
    (offersOf type (offers d.versions)).Pairwise fun a b => rank a.1 ≤ rank b.1 := by
  refine List.Pairwise.filter _ (pairwise_offers ?_)
  rw [(aggregate_ok.1 h).2]
  exact pairwise_sortedVersions _

theorem latestAmong_of_lookup (h : aggregate topics validate = .ok d)
    (hlatest : d.latest.lookup type = some latest) : LatestAmong topics type latest := by
  rw [lookup_latest h] at hlatest
  obtain ⟨offer, hbest, rfl⟩ := Option.map_eq_some_iff.1 hlatest
  obtain ⟨-, t, ht, hlabel, -⟩ := (mem_offersOf h).1 (List.argmax_mem hbest)
  refine ⟨?_, fun t ht htype => ?_, find?_of_head_offers h (head_of_best hbest)⟩
  · rw [latestAt, ← hlabel]
    exact (dotted_classification t).parse_eq
  · have hother : (t.classification.version, t.classification.service) ∈ offersOf type (offers d.versions) :=
      (mem_offersOf h).2 ⟨htype, t, ht, rfl, rfl⟩
    obtain ⟨hle, hsmallest⟩ := greatest_of_best (pairwise_offersOf h type) hbest hother
    rw [← compare_le_iff_le, ← Version.compare_eq] at hle
    rw [← compare_eq_iff_eq, ← Version.compare_eq] at hsmallest
    exact ⟨_, (dotted_classification t).parse_eq, hle, hsmallest⟩

theorem nodup_keys_latest (h : aggregate topics validate = .ok d) : d.latest.keys.Nodup := by
  rw [(aggregate_ok.1 h).2, definitionsOf, latestOf_eq_foldl]
  refine List.foldlRecOn (motive := fun known => (Entries.keys known).Nodup) _ _ List.nodup_nil
    fun known hknown offer _ => ?_
  rw [noteLatest]
  split
  · split
    · exact Entries.nodup_keys_set hknown _ _
    · exact hknown
  · exact Entries.nodup_keys_set hknown _ _

end Latest

section Order

variable {topics topics' : List Topic} {validate : Bool} {d d' : Definitions} {type : String}
  {latest latest' : Latest}

theorem LatestAmong.exists_mem (h : LatestAmong topics type latest) :
    ∃ t ∈ topics, t.classification.version = latest.label ∧ typeName t.classification.service = type := by
  obtain ⟨t, hfound, -⟩ := Option.map_eq_some_iff.1 h.first
  have hp := List.find?_some hfound
  exact ⟨t, List.mem_of_find?_eq_some hfound, of_decide_eq_true hp⟩

theorem LatestAmong.le (h : LatestAmong topics type latest) (h' : LatestAmong topics' type latest')
    (hsub : topics' ⊆ topics) : latest'.version.value ≤ latest.version.value ∧
      (latest'.version.value = latest.version.value → latest.label ≤ latest'.label) := by
  obtain ⟨t, ht, hlabel, htype⟩ := h'.exists_mem
  obtain ⟨v, hv, hle, hsmallest⟩ := h.greatest t (hsub ht) htype
  rw [hlabel, h'.numeric] at hv
  obtain rfl := Except.ok.inj hv
  rw [Version.compare_eq, compare_le_iff_le] at hle
  rw [Version.compare_eq, compare_eq_iff_eq, hlabel] at hsmallest
  exact ⟨hle, hsmallest⟩

/-- Which version is the latest one depends on the topics alone and not on their order. -/
theorem LatestAmong.unique (h : LatestAmong topics type latest) (h' : LatestAmong topics' type latest')
    (hperm : topics.Perm topics') : latest.version = latest'.version ∧ latest.label = latest'.label := by
  obtain ⟨hle, hsmallest⟩ := h.le h' hperm.symm.subset
  obtain ⟨hge, hsmallest'⟩ := h'.le h hperm.subset
  have hlabel : latest.label = latest'.label :=
    le_antisymm (hsmallest (le_antisymm hle hge)) (hsmallest' (le_antisymm hge hle))
  refine ⟨?_, hlabel⟩
  have hnumeric := h.numeric
  rw [hlabel, h'.numeric] at hnumeric
  exact (Except.ok.inj hnumeric).symm

theorem keys_versions_of_perm (h : aggregate topics validate = .ok d) (h' : aggregate topics' validate = .ok d')
    (hperm : topics.Perm topics') : d.versions.keys = d'.versions.keys := by
  have hkeys : d.versions.keys.Perm d'.versions.keys := by
    refine (List.perm_ext_iff_of_nodup (distinct_versions h).versions (distinct_versions h').versions).2
      fun label => ?_
    simp only [mem_keys_versions h, mem_keys_versions h', hperm.mem_iff]
  refine hkeys.eq_of_pairwise (fun a b _ _ hab hba => ?_) (ascending_versions h) (ascending_versions h')
  exact absurd (precedes_iff.1 hab) (precedes_iff.1 hba).asymm

theorem latest_of_perm (h : aggregate topics validate = .ok d) (h' : aggregate topics' validate = .ok d')
    (hperm : topics.Perm topics') (type : String) :
    (d.latest.lookup type).map (fun latest => (latest.version, latest.label)) =
      (d'.latest.lookup type).map fun latest => (latest.version, latest.label) := by
  have hexists : (∃ latest, d.latest.lookup type = some latest) ↔ ∃ latest, d'.latest.lookup type = some latest := by
    simp only [exists_latest_iff h, exists_latest_iff h', hperm.mem_iff]
  cases hl : d.latest.lookup type with
  | none =>
      have hnone : d'.latest.lookup type = none := by
        rw [← Option.not_isSome_iff_eq_none, Option.isSome_iff_exists, ← hexists, hl]
        simp
      rw [hnone]
  | some latest =>
      obtain ⟨latest', hl'⟩ := hexists.1 ⟨latest, hl⟩
      obtain ⟨hversion, hlabel⟩ := (latestAmong_of_lookup h hl).unique (latestAmong_of_lookup h' hl') hperm
      rw [hl', Option.map_some, Option.map_some, hversion, hlabel]

theorem exists_aggregate_iff_of_perm (hperm : topics.Perm topics') (validate : Bool) :
    (∃ d, aggregate topics validate = .ok d) ↔ ∃ d, aggregate topics' validate = .ok d := by
  simp only [aggregate_ok, exists_and_left, exists_eq, and_true, hperm.mem_iff]

end Order

theorem latest_settled (topics : List Topic) (validate : Bool) :
    (∀ d, aggregate topics validate = .ok d → d.latest.keys.Nodup ∧ ∀ type,
      ((∃ latest, d.latest.lookup type = some latest) ↔ ∃ t ∈ topics, typeName t.classification.service = type) ∧
      ∀ latest, d.latest.lookup type = some latest → LatestAmong topics type latest) ∧
    ∀ topics', topics.Perm topics' →
      ((∃ d, aggregate topics validate = .ok d) ↔ ∃ d, aggregate topics' validate = .ok d) ∧
      ∀ d d', aggregate topics validate = .ok d → aggregate topics' validate = .ok d' →
        d.versions.keys = d'.versions.keys ∧
        ∀ type, (d.latest.lookup type).map (fun latest => (latest.version, latest.label)) =
          (d'.latest.lookup type).map fun latest => (latest.version, latest.label) := by
  refine ⟨fun d h => ⟨nodup_keys_latest h, fun type => ?_⟩, fun topics' hperm => ?_⟩
  · exact ⟨exists_latest_iff h, fun _ hlatest => latestAmong_of_lookup h hlatest⟩
  · refine ⟨exists_aggregate_iff_of_perm hperm validate, fun d d' h h' => ?_⟩
    exact ⟨keys_versions_of_perm h h' hperm, latest_of_perm h h' hperm⟩

theorem latest_settled_interleaved : ∃ d d' latest, aggregate interleaved false = .ok d ∧
    aggregate interleaved.reverse false = .ok d' ∧ d.versions.keys = d'.versions.keys ∧
    d.latest.lookup "U" = some latest ∧ LatestAmong interleaved "U" latest ∧
    (d'.latest.lookup "U").map (fun latest => (latest.version, latest.label)) =
      some (latest.version, latest.label) := by
  have hd : aggregate interleaved false = .ok (definitionsOf interleaved) := aggregate_ok.2 ⟨by simp, rfl⟩
  have hd' : aggregate interleaved.reverse false = .ok (definitionsOf interleaved.reverse) :=
    aggregate_ok.2 ⟨by simp, rfl⟩
  obtain ⟨hlatest, horder⟩ := latest_settled interleaved false
  obtain ⟨hexists, hamong⟩ := (hlatest _ hd).2 "U"
  obtain ⟨latest, hl⟩ := hexists.2 (by decide +kernel)
  obtain ⟨hkeys, hsame⟩ := (horder _ (List.reverse_perm interleaved).symm).2 _ _ hd hd'
  refine ⟨_, _, latest, hd, hd', hkeys, hl, hamong latest hl, ?_⟩
  rw [← hsame "U", hl, Option.map_some]

end TopicBindings.Service
