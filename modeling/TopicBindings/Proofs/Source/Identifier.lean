import TopicBindings.Proofs.Outcome
import TopicBindings.Proofs.Text.Join
import TopicBindings.Source.Reference
import TopicBindings.Text.Lines

/-!
What stands for a name in the source is not empty and has no signs in it.
-/

namespace TopicBindings.Source

open Binding (QualifiedName)
open Character (isIdentifierPart isIdentifierStart)

variable {name text : String}

theorem ne_empty_of_identifier (h : identifier name = .ok text) : name ≠ "" := by
  rintro rfl
  cases h

theorem isIdentifier_of_identifier (h : identifier name = .ok text) : isIdentifier text = true := by
  rw [identifier] at h
  split at h
  · cases h
  · dsimp only at h
    split at h
    next hvalid =>
      obtain rfl := Except.ok.inj h
      exact hvalid
    · cases h

theorem not_mem_of_identifier {c : Char} (hstart : isIdentifierStart c = false)
    (hpart : isIdentifierPart c = false) (h : identifier name = .ok text) : c ∉ text.toList := by
  have hvalid := isIdentifier_of_identifier h
  rw [isIdentifier] at hvalid
  intro hc
  cases hlist : text.toList with
  | nil =>
      rw [hlist] at hc
      cases hc
  | cons first rest =>
      rw [hlist] at hc hvalid
      simp only [Bool.and_eq_true, List.all_eq_true] at hvalid
      rcases List.mem_cons.1 hc with rfl | hc
      · rw [hstart] at hvalid
        cases hvalid.1
      · have hheld := hvalid.2 c hc
        rw [hpart] at hheld
        cases hheld

theorem dot_not_mem_identifier (h : identifier name = .ok text) : '.' ∉ text.toList :=
  not_mem_of_identifier (by decide) (by decide) h

theorem not_identifier_of_lineEnd {c : Char} (h : Text.isLineEnd c = true) :
    isIdentifierStart c = false ∧ isIdentifierPart c = false := by
  have hcode : c.toNat ∈ [10, 11, 12, 13, 28, 29, 30, 0x85, 0x2028, 0x2029] := by
    simp only [Text.isLineEnd, Bool.or_eq_true, Bool.and_eq_true, decide_eq_true_eq, beq_iff_eq] at h
    simp only [List.mem_cons, List.not_mem_nil, or_false]
    omega
  have hall : ∀ n ∈ [10, 11, 12, 13, 28, 29, 30, 0x85, 0x2028, 0x2029],
      isIdentifierStart (Char.ofNat n) = false ∧ isIdentifierPart (Char.ofNat n) = false := by
    decide +kernel
  have hnone := hall _ hcode
  rwa [Char.ofNat_toNat] at hnone

theorem not_mem_dotted {c : Char} (hstart : isIdentifierStart c = false) (hpart : isIdentifierPart c = false)
    (hdot : c ≠ '.') {names parts : List String} (h : names.mapM identifier = .ok parts) :
    c ∉ (Text.join "." parts).toList := by
  intro hc
  rcases Text.mem_of_mem_join hc with hc | ⟨part, hp, hc⟩
  · exact hdot (List.mem_singleton.1 hc)
  · obtain ⟨name, -, hname⟩ := Outcome.exists_of_forall₂ (Outcome.mapM_ok.1 h) hp
    exact not_mem_of_identifier hstart hpart hname hc

theorem not_mem_moduleName {c : Char} (hstart : isIdentifierStart c = false) (hpart : isIdentifierPart c = false)
    (hdot : c ≠ '.') {n : QualifiedName} {m : String} (h : moduleName n = .ok m) : c ∉ m.toList := by
  obtain ⟨segments, hsegments, h⟩ := Outcome.bind_ok.1 h
  obtain rfl := Outcome.pure_ok.1 h
  exact not_mem_dotted hstart hpart hdot hsegments

theorem origin_of_generated {n : QualifiedName} (h : n.isGenerated = true) :
    n.isBuiltin = false ∧ n.importedFrom = none := by
  rw [QualifiedName.isGenerated, Bool.and_eq_true, Option.isNone_iff_eq_none] at h
  refine ⟨?_, h.2⟩
  rw [QualifiedName.isBuiltin, Bool.and_eq_false_iff]
  exact .inl (by simpa using h.1)

theorem moduleOf_of_generated {n : QualifiedName} (h : n.isGenerated = true) : moduleOf n = (moduleName n).map some := by
  obtain ⟨hforeign, horigin⟩ := origin_of_generated h
  rw [moduleOf, hforeign, horigin]
  rfl

theorem not_mem_reference {c : Char} (hstart : isIdentifierStart c = false) (hpart : isIdentifierPart c = false)
    (hdot : c ≠ '.') {n : QualifiedName} (hgenerated : n.isGenerated = true) (h : reference n = .ok text) :
    c ∉ text.toList := by
  obtain ⟨hforeign, horigin⟩ := origin_of_generated hgenerated
  rw [reference, hforeign, horigin] at h
  obtain ⟨home, hhome, h⟩ := Outcome.bind_ok.1 h
  obtain ⟨own, hown, h⟩ := Outcome.bind_ok.1 h
  obtain rfl := Outcome.pure_ok.1 h
  obtain ⟨path, hpath, hown⟩ := Outcome.bind_ok.1 hown
  obtain rfl := Outcome.pure_ok.1 hown
  have hfirst := not_mem_moduleName hstart hpart hdot hhome
  have hlast := not_mem_dotted hstart hpart hdot hpath
  simp only [String.toList_append, List.mem_append, not_or]
  exact ⟨⟨hfirst, fun hc => hdot (List.mem_singleton.1 hc)⟩, hlast⟩

end TopicBindings.Source
