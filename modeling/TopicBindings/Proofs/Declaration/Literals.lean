import TopicBindings.Proofs.Declaration.Room
import TopicBindings.Proofs.Outcome

/-!
The literals of an enumeration. They are declared as they are listed, unless two of them have one constant: then there
is no enumeration.
-/

namespace TopicBindings.Declaration

open Binding (QualifiedName)
open Naming (constantName)

def entryOf (keepLiterals : Bool) (literal : String) : EnumLiteral :=
  ⟨literal, constantName literal, if keepLiterals then literal else constantName literal, []⟩

section Literals

variable {owner : QualifiedName} {keepLiterals : Bool} {seen literals : List String}

theorem literalsOf_ok_iff {entries : List EnumLiteral} :
    literalsOf owner keepLiterals seen literals = .ok entries ↔ (literals.map constantName).Nodup ∧
      (∀ l ∈ literals, constantName l ∉ seen) ∧ entries = literals.map (entryOf keepLiterals) := by
  induction literals generalizing seen entries with
  | nil => simp [literalsOf, eq_comm]
  | cons literal rest ih =>
      rw [literalsOf]
      split
      next htaken =>
        refine iff_of_false (by simp) fun ⟨_, hfree, _⟩ => ?_
        exact hfree literal (.head _) htaken
      next htaken =>
        -- The constants seen so far grow by that of the literal, which keeps it apart from those behind it.
        rw [Outcome.bind_ok, List.map_cons, List.nodup_cons, List.forall_mem_cons]
        constructor
        · rintro ⟨others, hothers, h⟩
          obtain rfl := Outcome.pure_ok.1 h
          obtain ⟨hnodup, hfree, rfl⟩ := ih.1 hothers
          refine ⟨⟨fun hmem => ?_, hnodup⟩, ⟨htaken, fun l hl hseen => hfree l hl (.tail _ hseen)⟩, rfl⟩
          obtain ⟨l, hl, heq⟩ := List.mem_map.1 hmem
          refine hfree l hl ?_
          rw [heq]
          exact .head _
        · rintro ⟨⟨hapart, hnodup⟩, ⟨-, hfree⟩, rfl⟩
          refine ⟨_, ih.2 ⟨hnodup, fun l hl hseen => ?_, rfl⟩, rfl⟩
          rcases List.mem_cons.1 hseen with heq | hseen
          · rw [← heq] at hapart
            exact hapart (List.mem_map_of_mem hl)
          · exact hfree l hl hseen

theorem collision_of_literalsOf {fault : Fault} (h : literalsOf owner keepLiterals seen literals = .error fault) :
    ∃ literal ∈ literals, fault = .literalCollision literal owner (constantName literal) := by
  induction literals generalizing seen with
  | nil => cases h
  | cons literal rest ih =>
      rw [literalsOf] at h
      split at h
      · exact ⟨literal, .head _, (Except.error.inj h).symm⟩
      · rcases Outcome.bind_error.1 h with h | ⟨others, -, h⟩
        · obtain ⟨other, hother, heq⟩ := ih h
          exact ⟨other, .tail _ hother, heq⟩
        · cases h

end Literals

namespace Tree

variable {t : Tree} {scope : Scope} {name : String} {doc : Doc} {literals : List String} {keepLiterals : Bool}
  {note : EnumLiteral → EnumLiteral}

theorem createEnum_ok_iff (hfree : some name ∉ (t.members scope).map memberName?) {t' : Tree} :
    t.createEnum scope name doc literals keepLiterals note = .ok t' ↔ (literals.map constantName).Nodup ∧
      t' = t.extend scope [.enumeration (scope.nameOf name) doc ((literals.map (entryOf keepLiterals)).map note)] := by
  have hdeclare : ∀ entries, t.declareEnum scope name doc entries =
      .ok (t.extend scope [.enumeration (scope.nameOf name) doc entries]) := fun entries =>
    declare_of_free fun n hn => Option.some.inj hn ▸ hfree
  rw [createEnum, Outcome.bind_ok]
  constructor
  · rintro ⟨entries, hentries, h⟩
    obtain ⟨hnodup, -, rfl⟩ := literalsOf_ok_iff.1 hentries
    rw [hdeclare] at h
    exact ⟨hnodup, (Except.ok.inj h).symm⟩
  · rintro ⟨hnodup, rfl⟩
    exact ⟨_, literalsOf_ok_iff.2 ⟨hnodup, by simp, rfl⟩, hdeclare _⟩

theorem createEnum_fails_iff (hfree : some name ∉ (t.members scope).map memberName?) :
    (∃ fault, t.createEnum scope name doc literals keepLiterals note = .error fault) ↔
      ¬(literals.map constantName).Nodup := by
  constructor
  · rintro ⟨fault, hfault⟩ hnodup
    cases hfault.symm.trans ((createEnum_ok_iff hfree).2 ⟨hnodup, rfl⟩)
  · intro hrepeated
    cases hcreated : t.createEnum scope name doc literals keepLiterals note with
    | error fault => exact ⟨fault, rfl⟩
    | ok t' => exact absurd ((createEnum_ok_iff hfree).1 hcreated).1 hrepeated

theorem collision_of_createEnum (hfree : some name ∉ (t.members scope).map memberName?) {fault : Fault}
    (h : t.createEnum scope name doc literals keepLiterals note = .error fault) :
    ∃ literal ∈ literals, fault = .literalCollision literal (scope.nameOf name) (constantName literal) := by
  rcases Outcome.bind_error.1 h with h | ⟨entries, -, h⟩
  · exact collision_of_literalsOf h
  · rw [declareEnum, declare_of_free fun n hn => Option.some.inj hn ▸ hfree] at h
    cases h

end Tree

end TopicBindings.Declaration
