import TopicBindings.Proofs.Generation.Regular
import TopicBindings.Proofs.Source.Members

/-!
No member of a generated class shadows another one. The names in a scope differ, and none of them has a low line at one
of its ends; so they still differ as they are spelled, with the low lines that guard keywords and numbers.
-/

namespace TopicBindings.Generation

open Declaration (EnumLiteral Inside Orderly Tree entryOf)
open Naming (constantName)
open Source (IsModule IsPackageFile RelativePath SpelledApart Unshadowed moduleText pieceOf wireNames)

theorem Regular.of_inside {extensions : List Extension} {d e : Declaration} {depth : Nat} (h : Regular extensions d)
    (hinside : Inside e depth d) : Regular extensions e := by
  induction hinside with
  | here => exact h
  | member hd _ ih =>
      cases h with
      | type _ _ hmembers => exact ih (hmembers _ hd)

theorem wireNames_unnoted (keepLiterals : Bool) (literals : List String) :
    wireNames ((literals.map (entryOf keepLiterals)).map (Extension.annotateAll [])) = [] := by
  rw [wireNames, List.filterMap_eq_nil_iff, List.map_map]
  intro l hl
  obtain ⟨literal, -, rfl⟩ := List.mem_map.1 hl
  rfl

theorem Regular.unshadowed {home package : String} {path : List String} {d : Declaration} (h : Regular [] d)
    (hordered : Orderly package path d) {piece : Source.Piece} (hpiece : pieceOf home d = .ok piece) :
    Unshadowed home d := by
  cases h with
  | type hname hshape hmembers =>
      obtain ⟨pieces, text, hpieces, htext, -⟩ := Source.pieceOf_type_ok.1 hpiece
      exact ⟨pieces, text, hpieces, htext,
        Source.bindsApart_of_orderly hordered.2 (fun e he => (hmembers e he).exists_trimmed) hpieces⟩
  | @enumeration name doc keepLiterals literals hname hnodup =>
      obtain ⟨text, htext, -⟩ := Source.pieceOf_enumeration_ok.1 hpiece
      obtain ⟨className, constants, -, hconstants, hlines⟩ := Source.enumText_ok htext
      have henumerates := @enumerates_annotated keepLiterals literals hnodup []
      rw [Source.statements, wireNames_unnoted, Source.wireStatements, List.isEmpty_nil, if_pos rfl, List.append_nil]
        at hlines
      refine ⟨text, className, constants, htext, hlines, hconstants, ?_⟩
      rw [Outcome.eq_map_of_forall₂ hconstants henumerates.spelled]
      exact henumerates.constantsDiffer
  | field => trivial
  | method => trivial

/-- Every file is that of a package or a module of a declaration in which, at whatever depth, no member of a class shadows
another one, and every declaration at the top of a package has its module. -/
structure NothingShadowed (t : Tree) (files : Entries RelativePath String) : Prop where
  apart : ∀ file ∈ files, IsPackageFile file ∨ ∃ unit ∈ t.units, IsModule unit.1 unit.2 file ∧ ∃ home,
    moduleText home unit.2 = .ok file.2 ∧ ∀ d depth, Inside d depth unit.2 → Unshadowed home d
  rendered : ∀ unit ∈ t.units, ∃ file ∈ files, IsModule unit.1 unit.2 file

/-- Properties called like keywords, in one case as a type, and like a number. -/
def sampleGuarded : Schema where
  baseTopic := none
  host := "h"
  schemes := []
  about := ⟨none, "v", none⟩
  topics := []
  messages := []
  types := [⟨.object ⟨Schema.typesSpace, [], "Word"⟩
    [⟨"class", .primitive "class" .string ⟨none, none⟩, true, none⟩,
      ⟨"none", .enumeration ⟨Schema.typesSpace, ["Word"], "none"⟩ ["true"] ⟨none, none⟩, true, none⟩,
      ⟨"2nd", .primitive "2nd" .string ⟨none, none⟩, true, none⟩] ⟨none, none⟩, rfl⟩]

end TopicBindings.Generation
