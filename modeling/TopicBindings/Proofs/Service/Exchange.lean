import TopicBindings.Proofs.Service.Grouping
import TopicBindings.Service.Role

/-!
Topics with their two messages exchanged. A topic is classified by its name alone, so they are grouped as the
topics themselves are, and the services have the same latest versions.
-/

namespace TopicBindings

theorem Topic.swap_injective : Function.Injective Topic.swap := by
  rintro ⟨name, publish, subscribe⟩ ⟨name', publish', subscribe'⟩ h
  simp only [Topic.swap, Topic.mk.injEq] at h ⊢
  exact ⟨h.1, h.2.2, h.2.1⟩

namespace Service

def swapServices (services : Entries String (List Topic)) : Entries String (List Topic) :=
  services.map fun service => (service.1, service.2.map Topic.swap)

def swapGroups (groups : Groups) : Groups :=
  groups.map fun version => (version.1, swapServices version.2)

def Definitions.swap (d : Definitions) : Definitions where
  topics := d.topics.map fun entry => (entry.1.swap, entry.2)
  versions := swapGroups d.versions
  latest := d.latest
  diagnostics := d.diagnostics

theorem information_swap (d : Definitions) (t : Topic) : d.swap.information t.swap = d.information t := by
  have hlookup : (d.topics.map fun entry => (entry.1.swap, id entry.2)).lookup t.swap =
      (d.topics.lookup t).map id := Entries.lookup_map fun k _ heq => Topic.swap_injective heq
  rwa [Option.map_id] at hlookup

@[simp]
theorem keys_swapServices (services : Entries String (List Topic)) :
    (swapServices services).keys = services.keys := by
  simp [swapServices, Entries.keys, Function.comp_def]

theorem swapGroups_file (groups : Groups) (i : Topic.Information) (t : Topic) :
    swapGroups (file groups i t) = file (swapGroups groups) i t.swap := by
  have hservices : ∀ services, swapServices (services.alter i.service [t] (· ++ [t])) =
      (swapServices services).alter i.service [t.swap] (· ++ [t.swap]) :=
    Entries.map_alter (fun topics => by simp) i.service [t]
  exact Entries.map_alter hservices i.version [(i.service, [t])] groups

theorem swapGroups_groupsOf (topics : List Topic) (groups : Groups) :
    swapGroups (groupsOf topics groups) = groupsOf (topics.map Topic.swap) (swapGroups groups) := by
  induction topics generalizing groups with
  | nil => rfl
  | cons t rest ih =>
      rw [groupsOf, List.foldl_cons, ← groupsOf, ih, swapGroups_file]
      rfl

theorem swapGroups_sortedVersions (groups : Groups) :
    swapGroups (sortedVersions groups) = sortedVersions (swapGroups groups) :=
  List.map_mergeSort fun _ _ _ _ => rfl

theorem latestOf_swapGroups (versions : Groups) : latestOf (swapGroups versions) = latestOf versions := by
  simp [latestOf, swapGroups, List.foldl_map]

theorem swap_foldl_set (topics : List Topic) (known : Entries Topic Topic.Information) :
    (topics.foldl (fun known t => Entries.set t t.classification known) known).map
        (fun entry => (entry.1.swap, entry.2)) =
      (topics.map Topic.swap).foldl (fun known t => Entries.set t t.classification known)
        (known.map fun entry => (entry.1.swap, entry.2)) := by
  induction topics generalizing known with
  | nil => rfl
  | cons t rest ih =>
      rw [List.foldl_cons, ih, List.map_cons, List.foldl_cons]
      congr 1
      exact Entries.map_set Topic.swap_injective id t t.classification known

theorem definitionsOf_swap (topics : List Topic) :
    definitionsOf (topics.map Topic.swap) = (definitionsOf topics).swap := by
  have hversions : sortedVersions (groupsOf (topics.map Topic.swap) []) =
      swapGroups (sortedVersions (groupsOf topics [])) := by
    rw [swapGroups_sortedVersions, swapGroups_groupsOf]
    rfl
  have hfaults : (topics.map Topic.swap).filterMap Topic.fault? = topics.filterMap Topic.fault? :=
    List.filterMap_map
  have htopics := swap_foldl_set topics []
  rw [List.map_nil] at htopics
  rw [definitionsOf, hversions, latestOf_swapGroups, hfaults, ← htopics]
  rfl

theorem aggregate_swap {topics : List Topic} {validate : Bool} {d : Definitions}
    (h : aggregate topics validate = .ok d) : aggregate (topics.map Topic.swap) validate = .ok d.swap := by
  obtain ⟨hvalid, rfl⟩ := aggregate_ok.1 h
  refine aggregate_ok.2 ⟨fun hv t ht => ?_, (definitionsOf_swap topics).symm⟩
  obtain ⟨original, horiginal, rfl⟩ := List.mem_map.1 ht
  exact hvalid hv original horiginal

end Service

end TopicBindings
