import TopicBindings.Proofs.Declaration.Nodes
import TopicBindings.Proofs.Source.Literals
import TopicBindings.Proofs.Source.Spelling

/-!
The names in the body of a class. Every field, every method and every class in it is written under its name as that is
spelled. So no name is bound twice if the names differ and none of them has a low line at one of its ends.
-/

namespace TopicBindings.Source

open Binding (QualifiedName)
open Declaration (Doc EnumLiteral Field Inside Method Orderly Shape memberName?)
open Naming (Trimmed)

/-- A member of a class, as text, gives a name its meaning there. -/
inductive Binds (name : String) : Piece → Prop where
  | field {text : String} : (name ++ ": ").toList <+: text.toList → Binds name ⟨true, text⟩
  | method {text : String} (decorators : List String) :
      (decoratorLines decorators ++ "def " ++ name ++ "(self").toList <+: text.toList → Binds name ⟨false, text⟩
  | type {text : String} (decorators : List String) {mark : String} : mark = ":" ∨ mark = "(" →
      (decoratorLines decorators ++ "class " ++ name ++ mark).toList <+: text.toList → Binds name ⟨false, text⟩

/-- The body of a class binds the name of every member, as it is spelled, and none of them twice. -/
def BindsApart (members : List Declaration) (pieces : List Piece) : Prop :=
  ∃ names, List.Forall₂ (fun own name => identifier own = .ok name) (members.filterMap memberName?) names ∧
    List.Forall₂ Binds names pieces ∧ names.Nodup

/-- No member of a rendered class shadows another one. An enumeration binds nothing but its constants. -/
def Unshadowed (home : String) : Declaration → Prop
  | .type name doc shape members => ∃ pieces text, piecesOf home members = .ok pieces ∧
      classText home name doc shape pieces = .ok text ∧ BindsApart members pieces
  | .enumeration name doc literals => ∃ text className constants, enumText name doc literals = .ok text ∧
      text.toList ++ ['\n'] = Text.unlines (("class " ++ className ++ "(enum.Enum):").toList ::
        documentation doc literals.isEmpty ++
          List.zipWith (fun constant l => assignment constant l.value) constants literals) ∧
      List.Forall₂ (fun constant l => identifier l.constant = .ok constant) constants literals ∧ constants.Nodup
  | _ => True

section Texts

variable {home text : String}

theorem prefix_withoutTrailingLines {start mark whole : String} (hne : mark.toList ≠ [])
    (hmark : mark.toList.getLast? ≠ some '\n') (h : (start ++ mark).toList <+: whole.toList) :
    (start ++ mark).toList <+: (withoutTrailingLines whole).toList := by
  obtain ⟨rest, hrest⟩ := h
  have hlast : (start ++ mark).toList.getLast? ≠ some '\n' := by
    rwa [String.toList_append, List.getLast?_append_of_ne_nil _ hne]
  rw [withoutTrailingLines, String.toList_ofList, ← hrest, Text.dropTrailing_append hlast]
  exact List.prefix_append _ _

theorem binds_field {f : Field} (h : fieldText home f = .ok text) :
    ∃ name, identifier f.name = .ok name ∧ Binds name ⟨true, text⟩ := by
  obtain ⟨name, hname, h⟩ := Outcome.bind_ok.1 h
  obtain ⟨type, -, h⟩ := Outcome.bind_ok.1 h
  obtain rfl := Outcome.pure_ok.1 h
  refine ⟨name, hname, .field (prefix_withoutTrailingLines (by decide) (by decide) ?_)⟩
  simp only [String.toList_append, List.append_assoc, List.prefix_append_right_inj, List.prefix_append]

theorem binds_method {m : Method} (h : methodText home m = .ok text) :
    ∃ name, identifier m.name = .ok name ∧ Binds name ⟨false, text⟩ := by
  obtain ⟨decorators, -, h⟩ := Outcome.bind_ok.1 h
  obtain ⟨name, hname, h⟩ := Outcome.bind_ok.1 h
  obtain ⟨parameters, -, h⟩ := Outcome.bind_ok.1 h
  refine ⟨name, hname, .method decorators ?_⟩
  -- A method without result only differs in what stands behind its name.
  cases hreturns : m.returns
  all_goals
    simp only [hreturns] at h
    obtain ⟨result, -, h⟩ := Outcome.bind_ok.1 h
    obtain ⟨statements, -, h⟩ := Outcome.bind_ok.1 h
    obtain rfl := Outcome.pure_ok.1 h
    refine prefix_withoutTrailingLines (by decide) (by decide) ?_
    simp only [String.toList_append, List.append_assoc, List.prefix_append_right_inj, List.prefix_append]

theorem binds_class {name : QualifiedName} {doc : Doc} {shape : Shape} {pieces : List Piece}
    (h : classText home name doc shape pieces = .ok text) :
    ∃ own, identifier name.name = .ok own ∧ Binds own ⟨false, text⟩ := by
  obtain ⟨decorators, -, h⟩ := Outcome.bind_ok.1 h
  obtain ⟨own, hown, h⟩ := Outcome.bind_ok.1 h
  obtain ⟨bases, -, h⟩ := Outcome.bind_ok.1 h
  obtain rfl := Outcome.pure_ok.1 h
  refine ⟨own, hown, ?_⟩
  cases bases with
  | nil =>
      refine .type decorators (.inl rfl) (prefix_withoutTrailingLines (by decide) (by decide) ?_)
      simp only [String.toList_append, List.append_assoc, List.prefix_append_right_inj, List.isEmpty_nil, if_true]
      exact ⟨_, rfl⟩
  | cons base others =>
      refine .type decorators (.inr rfl) (prefix_withoutTrailingLines (by decide) (by decide) ?_)
      simp only [String.toList_append, List.append_assoc, List.prefix_append_right_inj, List.isEmpty_cons,
        Bool.false_eq_true, if_false, List.prefix_append]

theorem binds_enum {name : QualifiedName} {doc : Doc} {literals : List EnumLiteral}
    (h : enumText name doc literals = .ok text) : ∃ own, identifier name.name = .ok own ∧ Binds own ⟨false, text⟩ := by
  obtain ⟨own, hown, h⟩ := Outcome.bind_ok.1 h
  obtain ⟨constants, -, h⟩ := Outcome.bind_ok.1 h
  obtain rfl := Outcome.pure_ok.1 h
  refine ⟨own, hown, .type [] (.inr rfl) (prefix_withoutTrailingLines (by decide) (by decide) ?_)⟩
  have hnone : (decoratorLines []).toList = [] := rfl
  simp only [String.toList_append, List.append_assoc, hnone, List.nil_append, List.prefix_append_right_inj]
  exact ⟨_, rfl⟩

theorem exists_binds {d : Declaration} {piece : Piece} (h : pieceOf home d = .ok piece) {own : String}
    (hown : d.memberName? = some own) : ∃ name, identifier own = .ok name ∧ Binds name piece := by
  cases d with
  | type name doc shape members =>
      obtain ⟨pieces, text, -, htext, rfl⟩ := pieceOf_type_ok.1 h
      obtain rfl := Option.some.inj hown
      exact binds_class htext
  | enumeration name doc literals =>
      obtain ⟨text, htext, rfl⟩ := pieceOf_enumeration_ok.1 h
      obtain rfl := Option.some.inj hown
      exact binds_enum htext
  | field f =>
      obtain ⟨text, htext, rfl⟩ := pieceOf_field_ok.1 h
      obtain rfl := Option.some.inj hown
      exact binds_field htext
  | method m =>
      obtain ⟨text, htext, rfl⟩ := pieceOf_method_ok.1 h
      obtain rfl := Option.some.inj hown
      exact binds_method htext
  | raw content => cases hown

theorem exists_binds_all {ds : List Declaration} {pieces : List Piece} (h : piecesOf home ds = .ok pieces)
    (hnamed : ∀ d ∈ ds, ∃ own, d.memberName? = some own) : ∃ names,
      List.Forall₂ (fun own name => identifier own = .ok name) (ds.filterMap memberName?) names ∧
        List.Forall₂ Binds names pieces := by
  induction ds generalizing pieces with
  | nil =>
      obtain rfl := Outcome.pure_ok.1 h
      exact ⟨[], .nil, .nil⟩
  | cons d rest ih =>
      obtain ⟨piece, others, hpiece, hothers, rfl⟩ := piecesOf_cons_ok.1 h
      obtain ⟨own, hown⟩ := hnamed d (.head _)
      obtain ⟨name, hname, hbinds⟩ := exists_binds hpiece hown
      obtain ⟨names, hnames, hmore⟩ := ih hothers fun e he => hnamed e (.tail _ he)
      rw [List.filterMap_cons_some hown]
      exact ⟨name :: names, .cons hname hnames, .cons hbinds hmore⟩

end Texts

theorem nodup_identifiers {owns names : List String}
    (h : List.Forall₂ (fun own name => identifier own = .ok name) owns names) (htrimmed : ∀ own ∈ owns, Trimmed own)
    (hnodup : owns.Nodup) : names.Nodup := by
  induction h with
  | nil => exact List.nodup_nil
  | @cons own name owns names hname hnames ih =>
      obtain ⟨hnew, hrest⟩ := List.nodup_cons.1 hnodup
      refine List.nodup_cons.2 ⟨fun hmem => ?_, ih (fun other hother => htrimmed other (.tail _ hother)) hrest⟩
      obtain ⟨other, hother, hsame⟩ := Outcome.exists_of_forall₂ hnames hmem
      obtain rfl := eq_of_identifier_eq (htrimmed own (.head _)) (htrimmed other (.tail _ hother)) hname hsame
      exact hnew hother

theorem orderly_of_inside {package : String} {path : List String} {d e : Declaration} {depth : Nat}
    (h : Orderly package path d) (hinside : Inside e depth d) : ∃ inner, Orderly package inner e := by
  induction hinside generalizing path with
  | here => exact ⟨path, h⟩
  | member hd _ ih => exact ih (Declaration.orderly_of_mem h.2 hd)

/-- Members whose names differ and have no low lines at their ends do not shadow each other. -/
theorem bindsApart_of_orderly {home package : String} {path : List String} {members : List Declaration}
    {pieces : List Piece} (hordered : Declaration.OrderlyAll package path members)
    (hnamed : ∀ d ∈ members, ∃ own, d.memberName? = some own ∧ Trimmed own)
    (h : piecesOf home members = .ok pieces) : BindsApart members pieces := by
  obtain ⟨names, hnames, hbinds⟩ := exists_binds_all h fun d hd => (hnamed d hd).imp fun _ hown => hown.1
  refine ⟨names, hnames, hbinds, nodup_identifiers hnames (fun own hown => ?_)
    (Declaration.nodup_memberNames hordered)⟩
  obtain ⟨d, hd, hsome⟩ := List.mem_filterMap.1 hown
  obtain ⟨other, hother, htrimmed⟩ := hnamed d hd
  obtain rfl := Option.some.inj (hother.symm.trans hsome)
  exact htrimmed

end TopicBindings.Source
