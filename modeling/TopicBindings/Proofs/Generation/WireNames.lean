import TopicBindings.Generation.TopicLookup
import TopicBindings.Proofs.Declaration.Literals
import TopicBindings.Proofs.Naming.Initials
import TopicBindings.Proofs.Source.EnumClass
import TopicBindings.Proofs.Source.Identifier

/-!
Enumerations from their literals to the names in documents. A list of literals is declared as it is unless two of its
constants are the same, and every constant that can be spelled stands for itself.
-/

namespace TopicBindings

open Declaration (EnumLiteral entryOf)
open Naming (constantName)

namespace Source

theorem not_keyword_of_capitals {name : String} (h : ∀ c ∈ name.toList, c.isLower = false) : isKeyword name = false := by
  have hsmall : ∀ word ∈ keywords, word.toList.any Char.isLower = true := by decide
  rw [isKeyword, Bool.eq_false_iff, ne_eq, List.contains_iff_mem]
  intro hmem
  obtain ⟨c, hc, hlower⟩ := List.any_eq_true.1 (hsmall _ hmem)
  rw [h c hc] at hlower
  cases hlower

/-- A name without small letters that does not begin with a digit stands for itself. -/
theorem identifier_of_capitals {name text : String} {first : Char} {rest : List Char}
    (hname : name.toList = first :: rest) (hdigit : Character.isDigit first = false)
    (hcapitals : ∀ c ∈ name.toList, c.isLower = false) (h : identifier name = .ok text) : text = name := by
  have hguarded : guardKeyword (guardDigit name) = name := by
    simp [guardDigit, hname, hdigit, guardKeyword, not_keyword_of_capitals hcapitals]
  rw [identifier, hguarded] at h
  split at h
  · cases h
  · dsimp only at h
    split at h
    · exact (Except.ok.inj h).symm
    · cases h

theorem identifier_constantName {literal text : String} (h : identifier (constantName literal) = .ok text) :
    text = constantName literal := by
  obtain ⟨first, rest, hname, hdigit⟩ := Naming.exists_head_constantName literal
  exact identifier_of_capitals hname hdigit (fun _ => Naming.isLower_of_mem_constantName) h

end Source

namespace Generation

open Declaration (Doc Scope Tree memberName?)
open Source (EnumClass identifier wireNames)

theorem exists_annotateAll (extensions : List Extension) (l : EnumLiteral) :
    ∃ metadata, Extension.annotateAll extensions l = { l with metadata := metadata } := by
  rw [Extension.annotateAll]
  induction extensions generalizing l with
  | nil => exact ⟨l.metadata, rfl⟩
  | cons e rest ih =>
      obtain ⟨metadata, hrest⟩ := ih { l with metadata := l.metadata.update (e.annotate l) }
      exact ⟨metadata, hrest⟩

/-- The entries of an enumeration for some literals. -/
structure Enumerates (keepLiterals : Bool) (literals : List String) (entries : List EnumLiteral) : Prop where
  listed : entries.map EnumLiteral.literal = literals
  constants : entries.map EnumLiteral.constant = literals.map constantName
  values : entries.map EnumLiteral.value = if keepLiterals then literals else literals.map constantName
  constantsDiffer : (entries.map EnumLiteral.constant).Nodup
  valuesDiffer : (entries.map EnumLiteral.value).Nodup
  spelled : ∀ l ∈ entries, ∀ text, identifier l.constant = .ok text → text = l.constant

section Created

variable {keepLiterals : Bool} {literals : List String}

theorem map_annotated {α : Type} (extensions : List Extension) (keepLiterals : Bool) (literals : List String)
    {field : EnumLiteral → α} (hfield : ∀ l metadata, field { l with metadata := metadata } = field l) :
    ((literals.map (entryOf keepLiterals)).map (Extension.annotateAll extensions)).map field =
      literals.map fun l => field (entryOf keepLiterals l) := by
  rw [List.map_map, List.map_map]
  refine List.map_congr_left fun l _ => ?_
  obtain ⟨metadata, hannotated⟩ := exists_annotateAll extensions (entryOf keepLiterals l)
  rw [Function.comp_apply, Function.comp_apply, hannotated, hfield]

theorem enumerates_annotated (h : (literals.map constantName).Nodup) (extensions : List Extension) :
    Enumerates keepLiterals literals ((literals.map (entryOf keepLiterals)).map (Extension.annotateAll extensions)) := by
  have hconstants : ((literals.map (entryOf keepLiterals)).map (Extension.annotateAll extensions)).map
      EnumLiteral.constant = literals.map constantName := by
    rw [map_annotated extensions keepLiterals literals fun _ _ => rfl]
    simp only [entryOf]
  have hvalues : ((literals.map (entryOf keepLiterals)).map (Extension.annotateAll extensions)).map EnumLiteral.value =
      if keepLiterals then literals else literals.map constantName := by
    rw [map_annotated extensions keepLiterals literals fun _ _ => rfl]
    cases keepLiterals <;> simp [entryOf]
  -- Notes on literals change none of their other parts, so that everything is said of the bare literals.
  refine ⟨?_, hconstants, hvalues, ?_, ?_, fun l hl text htext => ?_⟩
  · rw [map_annotated extensions keepLiterals literals fun _ _ => rfl]
    exact List.map_id literals
  · rwa [hconstants]
  · rw [hvalues]
    split
    · exact h.of_map
    · exact h
  · have hmem := List.mem_map_of_mem (f := EnumLiteral.constant) hl
    rw [hconstants] at hmem
    obtain ⟨literal, -, hconstant⟩ := List.mem_map.1 hmem
    rw [← hconstant] at htext ⊢
    exact Source.identifier_constantName htext

theorem wireNames_annotated (keepLiterals : Bool) (literals : List String) :
    wireNames ((literals.map (entryOf keepLiterals)).map (Extension.annotateAll [TopicLookup.extension])) =
      literals.map fun l => (constantName l, l) := by
  induction literals with
  | nil => rfl
  | cons literal rest ih =>
      have hnoted : Entries.update [] (TopicLookup.extension.annotate (entryOf keepLiterals literal)) =
          [(Source.wireNameKey, literal)] := rfl
      rw [wireNames] at ih ⊢
      rw [List.map_cons, List.map_cons, List.map_cons, List.filterMap_cons, ih]
      simp only [Extension.annotateAll, List.foldl_cons, List.foldl_nil, entryOf] at hnoted ⊢
      simp only [hnoted, List.lookup_cons_self, Option.map_some]

theorem Enumerates.exists_inverts_iff {entries : List EnumLiteral} (h : Enumerates keepLiterals literals entries)
    (hwires : wireNames entries = literals.map fun l => (constantName l, l)) {canon : String → String}
    (hcanon : ∀ s, canon (canon s) = canon s) {constants : List String}
    (hconstants : List.Forall₂ (fun text l => identifier l.constant = .ok text) constants entries) :
    (∃ c, EnumClass.read? canon constants entries = some c ∧ c.Inverts literals) ↔
      literals ≠ [] ∧ ∀ l ∈ literals, canon (constantName l) = constantName l := by
  have hspelled : constants = entries.map EnumLiteral.constant := Outcome.eq_map_of_forall₂ hconstants h.spelled
  have hdistinct := h.constantsDiffer
  have hkeys : (wireNames entries).map Prod.fst = constants := by
    rw [hspelled, h.constants, hwires, List.map_map]
    simp only [Function.comp_def]
  have hnames : (wireNames entries).map Prod.snd = literals := by
    rw [hwires, List.map_map]
    exact List.map_id literals
  have hliterals : literals.Nodup := by
    rw [h.constants] at hdistinct
    exact hdistinct.of_map
  rw [← hspelled] at hdistinct
  rw [EnumClass.exists_inverts_iff hcanon hconstants.length_eq h.valuesDiffer hkeys hnames hdistinct hliterals, hspelled,
    h.constants, List.forall_mem_map]

end Created

section Enumeration

variable {t : Tree} {scope : Scope} {name : String} {canon : String → String}

/-- Literals make an enumeration with an entry for each of them unless two have one constant. Its methods for names in
documents are inverse to each other exactly if there are literals and the language reads every constant as it is. -/
theorem enumeration_of_literals (ht : t.names.Nodup) (hscope : t.Has scope)
    (hfree : some name ∉ (t.members scope).map memberName?) (hcanon : ∀ s, canon (canon s) = canon s)
    (doc : Doc) (literals : List String) (keepLiterals : Bool) (extensions : List Extension) :
    ((∃ fault, t.createEnum scope name doc literals keepLiterals (Extension.annotateAll extensions) = .error fault) ↔
      ¬(literals.map constantName).Nodup) ∧
    (∀ fault, t.createEnum scope name doc literals keepLiterals (Extension.annotateAll extensions) = .error fault →
      ∃ literal ∈ literals, fault = .literalCollision literal (scope.nameOf name) (constantName literal)) ∧
    ∀ t', t.createEnum scope name doc literals keepLiterals (Extension.annotateAll extensions) = .ok t' → ∃ entries,
      t'.members scope = t.members scope ++ [.enumeration (scope.nameOf name) doc entries] ∧
      Enumerates keepLiterals literals entries ∧
      (extensions = [TopicLookup.extension] → ∀ constants,
        List.Forall₂ (fun text l => identifier l.constant = .ok text) constants entries →
          ((∃ c, EnumClass.read? canon constants entries = some c ∧ c.Inverts literals) ↔
            literals ≠ [] ∧ ∀ l ∈ literals, canon (constantName l) = constantName l)) := by
  refine ⟨Tree.createEnum_fails_iff hfree, fun fault => Tree.collision_of_createEnum hfree, fun t' hcreated => ?_⟩
  obtain ⟨hnodup, rfl⟩ := (Tree.createEnum_ok_iff hfree).1 hcreated
  refine ⟨_, Tree.members_changeScope ht hscope _, enumerates_annotated hnodup extensions, ?_⟩
  rintro rfl constants hconstants
  exact (enumerates_annotated hnodup _).exists_inverts_iff (wireNames_annotated keepLiterals literals) hcanon hconstants

end Enumeration

section Sample

/-- Full-width forms are read as the plain characters. -/
def plainForm (c : Char) : Char :=
  if 0xFF01 ≤ c.toNat ∧ c.toNat ≤ 0xFF5E then Char.ofNat (c.toNat - 0xFEE0) else c

def plainText (s : String) : String :=
  String.ofList (s.toList.map plainForm)

theorem plainForm_plainForm (c : Char) : plainForm (plainForm c) = plainForm c := by
  have hplain : ∀ n < 94, plainForm (Char.ofNat (n + 0x21)) = Char.ofNat (n + 0x21) := by decide
  by_cases hwide : 0xFF01 ≤ c.toNat ∧ c.toNat ≤ 0xFF5E
  · have hcode : c.toNat - 0xFEE0 = (c.toNat - 0xFF01) + 0x21 := by omega
    have hform : plainForm c = Char.ofNat ((c.toNat - 0xFF01) + 0x21) := by
      rw [plainForm, if_pos hwide, hcode]
    rw [hform]
    exact hplain _ (by omega)
  · have hself : plainForm c = c := if_neg hwide
    rw [hself, hself]

theorem plainText_plainText (s : String) : plainText (plainText s) = plainText s := by
  rw [plainText, plainText, String.toList_ofList, List.map_map]
  exact congrArg String.ofList (List.map_congr_left fun c _ => plainForm_plainForm c)

def samplePackage : Tree :=
  Tree.empty.openPackage "types"

theorem samplePackage_names : samplePackage.names.Nodup := by
  decide

theorem samplePackage_has : samplePackage.Has (.ofPackage "types") :=
  Tree.has_openPackage Tree.empty "types"

theorem samplePackage_free : some "Colour" ∉ (samplePackage.members (.ofPackage "types")).map memberName? := by
  decide

theorem enumeration_of_sample : ∃ t' entries,
    samplePackage.createEnum (.ofPackage "types") "Colour" ⟨none, none⟩ ["red", "pale blue"] false
      (Extension.annotateAll [TopicLookup.extension]) = .ok t' ∧
    t'.members (.ofPackage "types") = [.enumeration ⟨"types", "Colour", [], none⟩ ⟨none, none⟩ entries] ∧
    Enumerates false ["red", "pale blue"] entries ∧
    ∃ c, EnumClass.read? plainText ["RED", "PALE_BLUE"] entries = some c ∧ c.Inverts ["red", "pale blue"] := by
  have hnames : ["red", "pale blue"].map constantName = ["RED", "PALE_BLUE"] := by decide +kernel
  have hnodup : (["red", "pale blue"].map constantName).Nodup := by
    rw [hnames]
    decide
  have hcreated : samplePackage.createEnum (.ofPackage "types") "Colour" ⟨none, none⟩ ["red", "pale blue"] false
      (Extension.annotateAll [TopicLookup.extension]) = .ok _ :=
    (Tree.createEnum_ok_iff samplePackage_free).2 ⟨hnodup, rfl⟩
  obtain ⟨-, -, hdeclared⟩ := enumeration_of_literals samplePackage_names samplePackage_has samplePackage_free
    plainText_plainText ⟨none, none⟩ ["red", "pale blue"] false [TopicLookup.extension]
  obtain ⟨entries, hmembers, henumerates, hinverts⟩ := hdeclared _ hcreated
  have hidentifiers : ∀ text ∈ entries.map EnumLiteral.constant, identifier text = .ok text := by
    rw [henumerates.constants, hnames]
    decide +kernel
  have hfixed : ∀ text ∈ ["red", "pale blue"].map constantName, plainText text = text := by
    rw [hnames]
    decide
  have hspelled : List.Forall₂ (fun text l => identifier l.constant = .ok text) ["RED", "PALE_BLUE"] entries := by
    rw [← hnames, ← henumerates.constants, List.forall₂_map_left_iff, List.forall₂_same]
    exact List.forall_mem_map.1 hidentifiers
  exact ⟨_, entries, hcreated, hmembers, henumerates,
    (hinverts rfl _ hspelled).2 ⟨by decide, List.forall_mem_map.1 hfixed⟩⟩

/-- The normal form of the constant has no entry in the table. -/
theorem wide_constant_lost : ∃ t' c,
    samplePackage.createEnum (.ofPackage "types") "Colour" ⟨none, none⟩ ["Ａ"] false
      (Extension.annotateAll [TopicLookup.extension]) = .ok t' ∧
    t'.members (.ofPackage "types") = [.enumeration ⟨"types", "Colour", [], none⟩ ⟨none, none⟩
      [⟨"Ａ", "Ａ", "Ａ", [("wire_name", "Ａ")]⟩]] ∧
    identifier "Ａ" = .ok "Ａ" ∧ EnumClass.read? plainText ["Ａ"] [⟨"Ａ", "Ａ", "Ａ", [("wire_name", "Ａ")]⟩] = some c ∧
    c.members = ["A"] ∧ c.wireName "A" = .error (.noEntry "A") ∧ c.fromWire "Ａ" = .error (.noEntry "A") := by
  have hcreated : samplePackage.createEnum (.ofPackage "types") "Colour" ⟨none, none⟩ ["Ａ"] false
      (Extension.annotateAll [TopicLookup.extension]) = .ok _ :=
    (Tree.createEnum_ok_iff samplePackage_free).2 ⟨List.nodup_singleton _, rfl⟩
  have hentries : (["Ａ"].map (entryOf false)).map (Extension.annotateAll [TopicLookup.extension]) =
      [⟨"Ａ", "Ａ", "Ａ", [("wire_name", "Ａ")]⟩] := by
    decide +kernel
  rw [hentries] at hcreated
  exact ⟨_, ⟨["A"], [("Ａ", "Ａ")]⟩, hcreated, Tree.members_changeScope samplePackage_names samplePackage_has _,
    by decide +kernel, by decide, rfl, rfl, rfl⟩

end Sample

end Generation

end TopicBindings
