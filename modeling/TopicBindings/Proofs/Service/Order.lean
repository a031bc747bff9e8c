import Mathlib.Data.Prod.Lex
import Mathlib.Data.String.Basic
import TopicBindings.Proofs.Service.Grouping
import TopicBindings.Proofs.Version.Text

/-!
The order of version labels. It is linear: by version first and, among labels of equal versions, by the text. The
versions of an aggregation stand in this order, each of them once.
-/

namespace TopicBindings.Service

/-- One label comes before another: it has the lower version or, of equal versions, it is the smaller text. -/
def Precedes (a b : String) : Prop :=
  (versionOf a).compare (versionOf b) = .lt ∨ (versionOf a).compare (versionOf b) = .eq ∧ a < b

def rank (label : String) : Lex (Nat → Nat) ×ₗ String :=
  toLex ((versionOf label).value, label)

theorem Dotted.parse_eq {label : String} (h : Dotted label) : Version.parse label = .ok (versionOf label) := by
  have hnumerals : ∀ field ∈ Text.fields '.' label.toList, Version.isNumeral field = true := by
    intro field hfield
    have htoken := h (String.ofList field) (List.mem_map_of_mem hfield)
    rwa [Topic.isNumeral, String.toList_ofList] at htoken
  obtain ⟨v, hv⟩ := Version.exists_parse_iff.2 (Version.dottedNumerals_iff.2 hnumerals)
  rw [versionOf, hv]

variable {a b : String}

theorem precedes_iff : Precedes a b ↔ rank a < rank b := by
  rw [Precedes, Version.compare_eq, compare_lt_iff_lt, compare_eq_iff_eq, rank, rank, Prod.Lex.toLex_lt_toLex]
  exact Iff.rfl

theorem rank_injective : Function.Injective rank := fun _ _ h =>
  congrArg (fun r => (ofLex r).2) h

theorem labelLE_iff : labelLE a b = true ↔ rank a ≤ rank b := by
  rw [labelLE, Version.compare_eq, Ordering.isLE_then_iff_or, compare_lt_iff_lt, compare_eq_iff_eq,
    ← Ordering.ne_gt_iff_isLE, ← ne_eq, compare_le_iff_le, rank, rank, Prod.Lex.toLex_le_toLex]
  exact Iff.rfl

theorem pairwise_sortedVersions (groups : Groups) :
    (sortedVersions groups).keys.Pairwise fun a b => rank a ≤ rank b := by
  refine List.pairwise_map.2 ?_
  have htrans : ∀ a b c : String × Entries String (List Topic),
      labelLE a.1 b.1 = true → labelLE b.1 c.1 = true → labelLE a.1 c.1 = true := fun _ _ _ hab hbc =>
    labelLE_iff.2 ((labelLE_iff.1 hab).trans (labelLE_iff.1 hbc))
  have htotal : ∀ a b : String × Entries String (List Topic), (labelLE a.1 b.1 || labelLE b.1 a.1) = true := by
    intro a b
    rw [Bool.or_eq_true, labelLE_iff, labelLE_iff]
    exact le_total _ _
  exact (List.pairwise_mergeSort htrans htotal groups).imp labelLE_iff.1

theorem pairwise_precedes {groups : Groups} (h : Distinct groups) :
    (sortedVersions groups).keys.Pairwise Precedes :=
  ((pairwise_sortedVersions groups).and h.sortedVersions.versions).imp fun ⟨hle, hne⟩ =>
    precedes_iff.2 (lt_of_le_of_ne hle (rank_injective.ne hne))

end TopicBindings.Service
