import Mathlib.Data.List.SplitBy
import TopicBindings.Proofs.Source.Layout

/-!
The blocks in the body of a class. Runs are what the library gets by splitting a list (`runs_eq_splitBy`), so there is
one way only to divide the members of a class into the fields that follow each other and the other members
(`divided_iff`), and the blocks of the class are the texts of that division (`blocksOf_iff`).
-/

namespace TopicBindings

def Declaration.isField : Declaration → Bool
  | .field _ => true
  | _ => false

namespace Source

open Binding (QualifiedName)
open Declaration (Doc Shape)

section Runs

variable {α β : Type} {p : α → Bool}

theorem exists_splitBy_cons (r : α → α → Bool) (x : α) (rest : List α) :
    ∃ g more, (x :: rest).splitBy r = (x :: g) :: more := by
  have hflatten := List.flatten_splitBy r (x :: rest)
  have hne := List.nil_notMem_splitBy r (x :: rest)
  match hsplit : (x :: rest).splitBy r with
  | [] => simp [hsplit] at hflatten
  | [] :: more => simp [hsplit] at hne
  | (y :: g) :: more =>
      rw [hsplit] at hflatten
      obtain ⟨rfl, -⟩ := List.cons.inj hflatten
      exact ⟨g, more, rfl⟩

theorem splitBy_cons_cons {r : α → α → Bool} {x y : α} {rest g : List α} {more : List (List α)}
    (hsplit : (y :: rest).splitBy r = (y :: g) :: more) (hr : r x y = true) :
    (x :: y :: rest).splitBy r = (x :: y :: g) :: more := by
  obtain ⟨hflatten, hne, hchain, happart⟩ := List.splitBy_eq_iff.1 hsplit
  obtain ⟨hnext, hmore⟩ := List.isChain_cons.1 happart
  refine List.splitBy_eq_iff.2 ⟨?_, ?_, ?_, ?_⟩
  · rw [hflatten]
    rfl
  · simpa using hne
  · rw [List.forall_mem_cons] at hchain ⊢
    exact ⟨List.isChain_cons_cons.2 ⟨hr, hchain.1⟩, hchain.2⟩
  · refine List.isChain_cons.2 ⟨fun group hgroup => ?_, hmore⟩
    obtain ⟨_, hfirst, hparted⟩ := hnext group hgroup
    exact ⟨List.cons_ne_nil _ _, hfirst, by rwa [List.getLast_cons (List.cons_ne_nil y g)]⟩

theorem runs_eq_splitBy (p : α → Bool) (xs : List α) : runs p xs = xs.splitBy fun x y => p x && p y := by
  induction xs with
  | nil => rfl
  | cons x rest ih =>
      cases rest with
      | nil => rfl
      | cons y ys =>
          obtain ⟨g, more, hsplit⟩ := exists_splitBy_cons (fun x y => p x && p y) y ys
          rw [runs, ih, hsplit]
          dsimp only
          split
          next hr => rw [splitBy_cons_cons hsplit hr]
          next hr =>
            have happart := List.splitBy_append_cons (r := fun x y => p x && p y) (l := [x]) (a := y) ys
              (by simpa using hr)
            rw [List.singleton_append, hsplit] at happart
            exact happart.symm

theorem forall₂_runs {R : α → β → Prop} {q : β → Bool} (hR : ∀ x y, R x y → p x = q y) {xs : List α} {ys : List β}
    (h : List.Forall₂ R xs ys) : List.Forall₂ (List.Forall₂ R) (runs p xs) (runs q ys) := by
  induction h with
  | nil => exact .nil
  | @cons x y xs ys hxy _ ih =>
      rw [runs, runs]
      match hxs : runs p xs, hys : runs q ys, ih with
      | [], [], _ => exact .cons (.cons hxy .nil) .nil
      | [] :: _, [] :: _, .cons _ hmore => exact .cons (.cons hxy .nil) (.cons .nil hmore)
      | (x' :: _) :: _, (y' :: _) :: _, .cons (.cons hxy' hg) hmore =>
          dsimp only
          rw [hR x y hxy, hR x' y' hxy']
          split
          · exact .cons (.cons hxy (.cons hxy' hg)) hmore
          · exact .cons (.cons hxy .nil) (.cons (.cons hxy' hg) hmore)

end Runs

def AllFields (group : List Declaration) : Prop :=
  group ≠ [] ∧ ∀ e ∈ group, e.isField = true

def Single (group : List Declaration) : Prop :=
  ∃ e, group = [e] ∧ e.isField = false

/-- The members of a class in groups: fields that follow each other, as many as there are in a row, and every other
member alone. -/
structure Divided (members : List Declaration) (groups : List (List Declaration)) : Prop where
  flatten : groups.flatten = members
  alike : ∀ group ∈ groups, AllFields group ∨ Single group
  maximal : ∀ front group back, groups = front ++ group :: back → AllFields group →
    (∀ e ∈ front.flatten.getLast?, e.isField = false) ∧ ∀ e ∈ back.flatten.head?, e.isField = false
  apart : groups.IsChain fun group next => ¬ (AllFields group ∧ AllFields next)

section Divided

variable {members : List Declaration} {groups : List (List Declaration)} {group : List Declaration}

theorem alike_of_isChain (hne : group ≠ []) (h : group.IsChain fun x y => (x.isField && y.isField) = true) :
    AllFields group ∨ Single group := by
  induction group with
  | nil => exact absurd rfl hne
  | cons e rest ih =>
      cases rest with
      | nil =>
          cases he : e.isField with
          | true => exact .inl ⟨hne, by simpa using he⟩
          | false => exact .inr ⟨e, rfl, he⟩
      | cons next more =>
          obtain ⟨hpair, hrest⟩ := List.isChain_cons_cons.1 h
          obtain ⟨he, hnext⟩ := Bool.and_eq_true_iff.1 hpair
          rcases ih (List.cons_ne_nil _ _) hrest with ⟨-, hall⟩ | ⟨other, hother, hfalse⟩
          · exact .inl ⟨hne, List.forall_mem_cons.2 ⟨he, hall⟩⟩
          · obtain ⟨rfl, -⟩ := List.cons.inj hother
            rw [hnext] at hfalse
            cases hfalse

theorem isChain_of_alike (h : AllFields group ∨ Single group) :
    group.IsChain fun x y => (x.isField && y.isField) = true := by
  rcases h with ⟨-, hall⟩ | ⟨e, rfl, -⟩
  · refine List.isChain_iff_forall_rel_of_append_cons_cons.2 fun {x y front back} hgroup => ?_
    subst hgroup
    simp [hall x (by simp), hall y (by simp)]
  · exact List.isChain_singleton e

theorem ne_nil_of_alike (h : AllFields group ∨ Single group) : group ≠ [] := by
  rcases h with ⟨hne, -⟩ | ⟨e, rfl, -⟩
  · exact hne
  · exact List.cons_ne_nil e []

theorem allFields_of_mem (h : AllFields group ∨ Single group) {e : Declaration} (he : e ∈ group)
    (hfield : e.isField = true) : AllFields group := by
  rcases h with hall | ⟨other, rfl, hother⟩
  · exact hall
  · obtain rfl := List.mem_singleton.1 he
    rw [hfield] at hother
    cases hother

/-- No field stands next to a group of fields. -/
theorem maximal_of_apart (halike : ∀ group ∈ groups, AllFields group ∨ Single group)
    (happart : groups.IsChain fun group next => ¬ (AllFields group ∧ AllFields next))
    {front back : List (List Declaration)} (hgroups : groups = front ++ group :: back) (hfields : AllFields group) :
    (∀ e ∈ front.flatten.getLast?, e.isField = false) ∧ ∀ e ∈ back.flatten.head?, e.isField = false := by
  subst hgroups
  have hnot := List.isChain_iff_forall_rel_of_append_cons_cons.1 happart
  constructor
  · intro e he
    obtain rfl | ⟨earlier, before, rfl⟩ := List.eq_nil_or_concat' front
    · cases he
    have hbefore := halike before (by simp)
    rw [List.flatten_append, List.flatten_singleton, List.getLast?_append_of_ne_nil _ (ne_nil_of_alike hbefore)] at he
    -- A field next to this group would be in a group of fields, which must not stand here.
    by_contra hfield
    have hall := allFields_of_mem hbefore (List.mem_of_getLast? he) (eq_true_of_ne_false hfield)
    have heq : earlier ++ [before] ++ group :: back = earlier ++ before :: group :: back := by simp
    exact hnot heq ⟨hall, hfields⟩
  · intro e he
    cases back with
    | nil => cases he
    | cons next later =>
        have hnext := halike next (by simp)
        rw [List.flatten_cons, List.head?_append_of_ne_nil _ (ne_nil_of_alike hnext)] at he
        by_contra hfield
        have hall := allFields_of_mem hnext (List.mem_of_head? he) (eq_true_of_ne_false hfield)
        exact hnot rfl ⟨hfields, hall⟩

theorem divided_runs (members : List Declaration) : Divided members (runs Declaration.isField members) := by
  rw [runs_eq_splitBy]
  have halike : ∀ group ∈ members.splitBy fun x y => x.isField && y.isField, AllFields group ∨ Single group :=
    fun group hgroup => alike_of_isChain (List.ne_nil_of_mem_splitBy hgroup) (List.isChain_of_mem_splitBy hgroup)
  have happart : (members.splitBy fun x y => x.isField && y.isField).IsChain
      fun group next => ¬ (AllFields group ∧ AllFields next) := by
    refine (List.isChain_getLast_head_splitBy _ members).imp fun group next hparted => ?_
    obtain ⟨hgroup, hnext, hparted⟩ := hparted
    rintro ⟨⟨-, hall⟩, -, hall'⟩
    simp [hall _ (List.getLast_mem hgroup), hall' _ (List.head_mem hnext)] at hparted
  exact ⟨List.flatten_splitBy _ members, halike, fun _ _ _ => maximal_of_apart halike happart, happart⟩

/-- There is one way only to divide the members. -/
theorem Divided.eq_runs (h : Divided members groups) : groups = runs Declaration.isField members := by
  rw [runs_eq_splitBy]
  symm
  refine List.splitBy_eq_iff.2 ⟨h.flatten.symm, fun hnil => ne_nil_of_alike (h.alike [] hnil) rfl,
    fun group hgroup => isChain_of_alike (h.alike group hgroup), ?_⟩
  refine h.apart.imp_of_mem_imp fun group next hgroup hnext hnot => ?_
  have halike := h.alike group hgroup
  have halike' := h.alike next hnext
  refine ⟨ne_nil_of_alike halike, ne_nil_of_alike halike', eq_false_of_ne_true fun hboth => ?_⟩
  obtain ⟨hlast, hhead⟩ := Bool.and_eq_true_iff.1 hboth
  exact hnot ⟨allFields_of_mem halike (List.getLast_mem _) hlast, allFields_of_mem halike' (List.head_mem _) hhead⟩

theorem divided_iff : Divided members groups ↔ groups = runs Declaration.isField members :=
  ⟨Divided.eq_runs, by rintro rfl; exact divided_runs members⟩

end Divided

/-- A block has the texts of the members of a group, joined by line ends. -/
def Renders (home : String) (group : List Declaration) (block : String) : Prop :=
  ∃ pieces, List.Forall₂ (fun e piece => pieceOf home e = .ok piece) group pieces ∧
    block = Text.join "\n" (pieces.map Piece.text)

def classFrame (decorators : List String) (className : String) (bases : List String) (doc : Doc)
    (blocks : List String) : String :=
  let doc? := docstring? doc
  let head := decoratorLines decorators ++ "class " ++ className ++
    (if bases.isEmpty then "" else "(" ++ Text.join ", " bases ++ ")") ++ ":\n"
  let docPart := match doc? with
    | some d => block d
    | none => if blocks.isEmpty then "    pass\n" else ""
  let gap := if doc?.isSome then "\n" else ""
  let body := match blocks with
    | [] => ""
    | first :: rest => gap ++ block first ++ Text.join "" (rest.map fun b => "\n" ++ block b)
  withoutTrailingLines (head ++ docPart ++ body)

theorem classText_eq (home : String) (name : QualifiedName) (doc : Doc) (shape : Shape) (pieces : List Piece) :
    classText home name doc shape pieces = (do
      let decorators ← shape.decorators.mapM (decorator home)
      let className ← identifier name.name
      let bases ← shape.bases.mapM (typeText home)
      return classFrame decorators className bases doc (blocksOf pieces)) :=
  rfl

section Blocks

variable {home : String} {members : List Declaration} {pieces : List Piece}

theorem piecesOf_ok : piecesOf home members = .ok pieces ↔
    List.Forall₂ (fun e piece => pieceOf home e = .ok piece) members pieces := by
  induction members generalizing pieces with
  | nil =>
      rw [piecesOf, List.forall₂_nil_left_iff, Except.ok.injEq]
      exact eq_comm
  | cons e rest ih =>
      rw [piecesOf_cons_ok, List.forall₂_cons_left_iff]
      simp only [ih]

theorem isField_of_pieceOf {e : Declaration} {piece : Piece} (h : pieceOf home e = .ok piece) :
    piece.isField = e.isField := by
  cases e with
  | type =>
      obtain ⟨_, _, -, -, rfl⟩ := pieceOf_type_ok.1 h
      rfl
  | enumeration =>
      obtain ⟨_, -, rfl⟩ := pieceOf_enumeration_ok.1 h
      rfl
  | field =>
      obtain ⟨_, -, rfl⟩ := pieceOf_field_ok.1 h
      rfl
  | method =>
      obtain ⟨_, -, rfl⟩ := pieceOf_method_ok.1 h
      rfl
  | raw =>
      obtain ⟨-, rfl⟩ := pieceOf_raw_ok.1 h
      rfl

theorem renders_blocksOf (h : piecesOf home members = .ok pieces) :
    List.Forall₂ (Renders home) (runs Declaration.isField members) (blocksOf pieces) := by
  have hruns := forall₂_runs (R := fun e piece => pieceOf home e = .ok piece) (p := Declaration.isField)
    (fun _ _ hpiece => (isField_of_pieceOf hpiece).symm) (piecesOf_ok.1 h)
  rw [blocksOf, List.forall₂_map_right_iff]
  exact hruns.imp fun group pieces hgroup => ⟨pieces, hgroup, rfl⟩

theorem rightUnique_renders : Relator.RightUnique (Renders home) := by
  rintro group _ _ ⟨pieces, hpieces, rfl⟩ ⟨pieces', hpieces', rfl⟩
  have hunique : Relator.RightUnique fun e piece => pieceOf home e = .ok piece :=
    fun _ _ _ h h' => Except.ok.inj (h.symm.trans h')
  obtain rfl := hunique.forall₂ hpieces hpieces'
  rfl

theorem exists_pieces (h : ∀ e ∈ members, ∃ piece, pieceOf home e = .ok piece) :
    ∃ pieces, piecesOf home members = .ok pieces := by
  induction members with
  | nil => exact ⟨[], rfl⟩
  | cons e rest ih =>
      obtain ⟨piece, hpiece⟩ := h e (.head _)
      obtain ⟨others, hothers⟩ := ih fun other hother => h other (.tail _ hother)
      exact ⟨piece :: others, piecesOf_ok.2 (.cons hpiece (piecesOf_ok.1 hothers))⟩

/-- The blocks of a class are the blocks of any groups into which its members are divided. -/
theorem blocksOf_iff {groups : List (List Declaration)} {blocks : List String} (h : Divided members groups) :
    (∃ pieces, piecesOf home members = .ok pieces ∧ blocksOf pieces = blocks) ↔
      List.Forall₂ (Renders home) groups blocks := by
  constructor
  · rintro ⟨pieces, hpieces, rfl⟩
    rw [h.eq_runs]
    exact renders_blocksOf hpieces
  · intro hblocks
    obtain ⟨pieces, hpieces⟩ : ∃ pieces, piecesOf home members = .ok pieces := exists_pieces fun e he => by
      rw [← h.flatten] at he
      obtain ⟨group, hgroup, he⟩ := List.mem_flatten.1 he
      obtain ⟨block, -, pieces, hpieces, -⟩ := Outcome.exists_of_forall₂ hblocks.flip hgroup
      obtain ⟨piece, -, hpiece⟩ := Outcome.exists_of_forall₂ hpieces.flip he
      exact ⟨piece, hpiece⟩
    have hown := renders_blocksOf hpieces
    rw [← h.eq_runs] at hown
    exact ⟨pieces, hpieces, rightUnique_renders.forall₂ hown hblocks⟩

theorem class_blocks (home : String) (name : QualifiedName) (doc : Doc) (shape : Shape) (members : List Declaration)
    (piece : Piece) : pieceOf home (.type name doc shape members) = .ok piece ↔
      ∃ decorators className bases groups blocks, shape.decorators.mapM (decorator home) = .ok decorators ∧
        identifier name.name = .ok className ∧ shape.bases.mapM (typeText home) = .ok bases ∧
        Divided members groups ∧ List.Forall₂ (Renders home) groups blocks ∧
        piece = ⟨false, classFrame decorators className bases doc blocks⟩ := by
  rw [pieceOf, Outcome.bind_ok]
  constructor
  · rintro ⟨pieces, hpieces, h⟩
    obtain ⟨text, htext, h⟩ := Outcome.bind_ok.1 h
    obtain rfl := Outcome.pure_ok.1 h
    rw [classText_eq] at htext
    obtain ⟨decorators, hdecorators, htext⟩ := Outcome.bind_ok.1 htext
    obtain ⟨className, hname, htext⟩ := Outcome.bind_ok.1 htext
    obtain ⟨bases, hbases, htext⟩ := Outcome.bind_ok.1 htext
    obtain rfl := Outcome.pure_ok.1 htext
    exact ⟨decorators, className, bases, _, blocksOf pieces, hdecorators, hname, hbases, divided_runs members,
      renders_blocksOf hpieces, rfl⟩
  · rintro ⟨decorators, className, bases, groups, blocks, hdecorators, hname, hbases, hdivided, hblocks, rfl⟩
    obtain ⟨pieces, hpieces, rfl⟩ := (blocksOf_iff hdivided).2 hblocks
    have htext : classText home name doc shape pieces =
        .ok (classFrame decorators className bases doc (blocksOf pieces)) :=
      Outcome.bind_ok.2 ⟨decorators, hdecorators, Outcome.bind_ok.2 ⟨className, hname,
        Outcome.bind_ok.2 ⟨bases, hbases, rfl⟩⟩⟩
    exact ⟨pieces, hpieces, Outcome.bind_ok.2 ⟨_, htext, rfl⟩⟩

end Blocks

end Source

end TopicBindings
