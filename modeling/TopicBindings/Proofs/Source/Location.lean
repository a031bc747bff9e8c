import TopicBindings.Proofs.Declaration.Growth
import TopicBindings.Proofs.Naming.Words
import TopicBindings.Proofs.Source.Files
import TopicBindings.Proofs.Source.Layout

/-!
The reference to a generated name, taken apart: its module is a rendered file, and what stands behind the
module leads from declaration to declaration inside that file.
-/

namespace TopicBindings.Source

open Binding (QualifiedName)
open Declaration (Orderly OrderlyAll Tree nodes nodesAll)

/-- Names, as they are spelled, that lead from a declaration to itself or to one inside it. -/
inductive Leads : Declaration → List String → Declaration → Prop where
  | self {d name step} : d.qualifiedName? = some name → identifier name.name = .ok step → Leads d [step] d
  | inside {name doc shape members d step steps e} : identifier name.name = .ok step → d ∈ members →
      Leads d steps e → Leads (.type name doc shape members) (step :: steps) e

theorem identifier_of_classText {home : String} {name : QualifiedName} {doc : Declaration.Doc}
    {shape : Declaration.Shape} {pieces : List Piece} {text : String}
    (h : classText home name doc shape pieces = .ok text) : ∃ step, identifier name.name = .ok step := by
  obtain ⟨decorators, -, h⟩ := Outcome.bind_ok.1 h
  obtain ⟨step, hstep, -⟩ := Outcome.bind_ok.1 h
  exact ⟨step, hstep⟩

section Nodes

variable {home package : String}

mutual

theorem leads_of_mem_nodes : ∀ {path : List String} (d : Declaration) {piece : Piece},
    Orderly package path d → pieceOf home d = .ok piece → ∀ e ∈ nodes d,
      ∃ name rest steps, e.qualifiedName? = some name ∧ name.path = path ++ rest ∧
        rest.mapM identifier = .ok steps ∧ Leads d steps e
  | path, .type name doc shape members, _, hordered, h, e, he => by
      obtain ⟨pieces, text, hpieces, htext, -⟩ := pieceOf_type_ok.1 h
      obtain ⟨step, hstep⟩ := identifier_of_classText htext
      rcases List.mem_cons.1 he with rfl | he
      · refine ⟨name, [name.name], [step], rfl, ?_, ?_, .self rfl hstep⟩
        · rw [hordered.1]
          rfl
        · rw [List.mapM_cons, hstep]
          rfl
      · obtain ⟨n, rest, steps, d, hq, hpath, hsteps, hd, hleads⟩ :=
          leads_of_mem_nodesAll members hordered.2 hpieces e he
        refine ⟨n, name.name :: rest, step :: steps, hq, ?_, ?_, .inside hstep hd hleads⟩
        · rw [hpath, List.append_assoc]
          rfl
        · rw [List.mapM_cons, hstep, hsteps]
          rfl
  | path, .enumeration name doc literals, _, hordered, h, e, he => by
      obtain rfl := List.mem_singleton.1 he
      obtain ⟨text, htext, -⟩ := pieceOf_enumeration_ok.1 h
      obtain ⟨step, hstep, -⟩ := Outcome.bind_ok.1 htext
      refine ⟨name, [name.name], [step], rfl, ?_, ?_, .self rfl hstep⟩
      · rw [hordered]
        rfl
      · rw [List.mapM_cons, hstep]
        rfl
  | _, .field _, _, _, _, _, he => by simp [nodes] at he
  | _, .method _, _, _, _, _, he => by simp [nodes] at he
  | _, .raw _, _, _, _, _, he => by simp [nodes] at he

theorem leads_of_mem_nodesAll : ∀ {path : List String} (ds : List Declaration) {pieces : List Piece},
    OrderlyAll package path ds → piecesOf home ds = .ok pieces → ∀ e ∈ nodesAll ds,
      ∃ name rest steps d, e.qualifiedName? = some name ∧ name.path = path ++ rest ∧
        rest.mapM identifier = .ok steps ∧ d ∈ ds ∧ Leads d steps e
  | _, [], _, _, _, _, he => by simp [nodesAll] at he
  | _, first :: others, _, hordered, h, e, he => by
      obtain ⟨piece, more, hpiece, hmore, -⟩ := piecesOf_cons_ok.1 h
      rcases List.mem_append.1 he with he | he
      · obtain ⟨name, rest, steps, hq, hpath, hsteps, hleads⟩ :=
          leads_of_mem_nodes first hordered.1 hpiece e he
        exact ⟨name, rest, steps, first, hq, hpath, hsteps, .head _, hleads⟩
      · obtain ⟨name, rest, steps, d, hq, hpath, hsteps, hd, hleads⟩ :=
          leads_of_mem_nodesAll others hordered.2.2 hmore e he
        exact ⟨name, rest, steps, d, hq, hpath, hsteps, .tail _ hd, hleads⟩

end

end Nodes

theorem topLevel_of_path {n : QualifiedName} {own : String} (h : [own] <+: n.path) : n.topLevel = own := by
  obtain ⟨rest, hpath⟩ := h
  rw [QualifiedName.path] at hpath
  rw [QualifiedName.topLevel]
  cases henclosing : n.enclosing with
  | nil =>
      rw [henclosing] at hpath
      exact (List.cons.inj hpath).1.symm
  | cons first others =>
      rw [henclosing] at hpath
      exact (List.cons.inj hpath).1.symm

theorem isSome_of_mem_nodes {d e : Declaration} (h : e ∈ nodes d) : d.qualifiedName?.isSome := by
  cases d with
  | type name doc shape members => rfl
  | enumeration name doc literals => rfl
  | field f => simp [nodes] at h
  | method m => simp [nodes] at h
  | raw content => simp [nodes] at h

/-- The reference to a name is the dotted name of a rendered module and a path to the declaration of the
name inside it. -/
def Located (t : Tree) (files : Entries RelativePath String) (n : QualifiedName) : Prop :=
  ∃ home steps unit file d, moduleName n = .ok home ∧
    reference n = .ok (home ++ "." ++ Text.join "." steps) ∧ unit ∈ t.units ∧ file ∈ files ∧
    pathText file.1 = modulePath home ∧ moduleText home unit.2 = .ok file.2 ∧ Leads unit.2 steps d ∧
    d.qualifiedName? = some n

def Titled (t : Tree) : Prop :=
  ∀ unit ∈ t.units, ∀ own, unit.2.memberName? = some own → ∃ s, own = Naming.typeName s

theorem dot_not_mem_segments {package : String} {directory : RelativePath} {name stem : String}
    (hdirectory : packageDirectory package = .ok directory) (hstem : identifier name = .ok stem) :
    ∀ part ∈ directory ++ [stem], '.' ∉ part.toList := by
  intro part hpart
  rcases List.mem_append.1 hpart with hpart | hpart
  · obtain ⟨segment, -, hsegment⟩ := Outcome.exists_of_forall₂ (Outcome.mapM_ok.1 hdirectory) hpart
    exact dot_not_mem_identifier hsegment
  · obtain rfl := List.mem_singleton.1 hpart
    exact dot_not_mem_identifier hstem

theorem segments_of_isModule {package own : String} {d : Declaration} {file : RelativePath × String}
    (hmodule : IsModule package d file) (hown : d.qualifiedName? = some ⟨package, own, [], none⟩)
    (hpackage : package ≠ "") (hname : Naming.lowerUnderscore own ≠ "") : ∃ directory stem,
      packageDirectory package = .ok directory ∧ identifier (Naming.lowerUnderscore own) = .ok stem ∧
      moduleSegments ⟨package, own, [], none⟩ = .ok (directory ++ [stem]) ∧ file.1 = directory ++ [stem ++ ".py"] ∧
      moduleText (Text.join "." (directory ++ [stem])) d = .ok file.2 := by
  obtain ⟨name, segments, directory, hq, hsegments, hdirectory, hpath, htext⟩ := hmodule
  obtain rfl := Option.some.inj (hq.symm.trans hown)
  have hsplit : moduleSegments ⟨package, own, [], none⟩ =
      (identifier (Naming.lowerUnderscore own)).map fun stem => directory ++ [stem] :=
    moduleSegments_eq hpackage hname hdirectory
  obtain ⟨stem, hstem, rfl⟩ := Outcome.map_ok.1 (hsplit.symm.trans hsegments)
  rw [List.getLast?_concat, Option.getD_some] at hpath
  exact ⟨directory, stem, hdirectory, hstem, hsegments, hpath, htext⟩

theorem file_of_isModule {package own : String} {d : Declaration} {n : QualifiedName}
    {file : RelativePath × String} (hmodule : IsModule package d file)
    (hown : d.qualifiedName? = some ⟨package, own, [], none⟩) (hpackage : package ≠ "")
    (hname : Naming.lowerUnderscore own ≠ "") (hn : n.package = package) (htop : n.topLevel = own) :
    ∃ home, moduleName n = .ok home ∧ pathText file.1 = modulePath home ∧
      moduleText home d = .ok file.2 := by
  subst hn htop
  obtain ⟨directory, stem, hdirectory, hstem, hsegments, hpath, htext⟩ :=
    segments_of_isModule hmodule hown hpackage hname
  have hsame : moduleSegments n = .ok (directory ++ [stem]) := hsegments
  refine ⟨Text.join "." (directory ++ [stem]), ?_, ?_, htext⟩
  · rw [moduleName, hsame]
    rfl
  · rw [hpath]
    exact pathText_module (dot_not_mem_segments hdirectory hstem)

theorem reference_of_module {n : QualifiedName} {home : String} {steps : List String}
    (hgenerated : n.isGenerated = true) (hhome : moduleName n = .ok home)
    (hsteps : n.path.mapM identifier = .ok steps) :
    reference n = .ok (home ++ "." ++ Text.join "." steps) := by
  obtain ⟨hforeign, horigin⟩ := origin_of_generated hgenerated
  rw [reference, hforeign, horigin, hhome, localName, hsteps]
  rfl

theorem located_of_mem_nodes {t : Tree} {files : Entries RelativePath String} (ht : t.Sound)
    (htitled : Titled t) (hrender : render t = .ok files) {d : Declaration} (hd : d ∈ t.nodes)
    {n : QualifiedName} (hn : d.qualifiedName? = some n) (hgenerated : n.isGenerated = true) :
    Located t files n := by
  obtain ⟨unit, hunit, hd⟩ := Tree.mem_nodes_iff.1 hd
  have hordered := ht.orderly_of_mem_units hunit
  have hsome := isSome_of_mem_nodes hd
  obtain ⟨file, hfile, hmodule⟩ := (render_ok hrender).2 unit hunit hsome
  obtain ⟨home', text, htext⟩ : ∃ home text, moduleText home unit.2 = .ok text := by
    obtain ⟨_, _, _, -, -, -, -, htext⟩ := hmodule
    exact ⟨_, _, htext⟩
  obtain ⟨piece, hpiece, -⟩ := Outcome.bind_ok.1 htext
  obtain ⟨n', own, hn', hpackage, -, hown, hprefix⟩ :=
    Declaration.names_of_mem_nodes unit.2 hordered d hd
  obtain rfl := Option.some.inj (hn'.symm.trans hn)
  obtain ⟨n'', rest, steps, hn'', hpath, hsteps, hleads⟩ := leads_of_mem_nodes unit.2 hordered hpiece d hd
  obtain rfl := Option.some.inj (hn''.symm.trans hn)
  rw [List.nil_append] at hpath hprefix
  rw [← hpath] at hsteps
  -- The module of the outermost type needs a name: a type is called by an identifier, which is not empty.
  have hnamed : own ≠ "" := by
    have hmem : own ∈ n''.path := hprefix.subset (.head _)
    obtain ⟨step, -, hstep⟩ := Outcome.exists_of_forall₂ (Outcome.mapM_ok.1 hsteps).flip hmem
    exact ne_empty_of_identifier hstep
  have hmodular : Naming.lowerUnderscore own ≠ "" := by
    obtain ⟨s, rfl⟩ := htitled unit hunit own hown
    exact Naming.lowerUnderscore_typeName hnamed
  have hunpackaged : unit.1 ≠ "" := by
    simp only [QualifiedName.isGenerated, Bool.and_eq_true, Bool.not_eq_true', hpackage] at hgenerated
    simpa using hgenerated.1
  obtain ⟨home, hhome, hfilepath, hfiletext⟩ := file_of_isModule hmodule
    (Declaration.name_of_orderly hordered hown hsome) hunpackaged hmodular hpackage (topLevel_of_path hprefix)
  exact ⟨home, steps, unit, file, d, hhome, reference_of_module hgenerated hhome hsteps, hunit, hfile,
    hfilepath, hfiletext, hleads, hn⟩

end TopicBindings.Source
