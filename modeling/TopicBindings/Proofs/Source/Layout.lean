import TopicBindings.Proofs.Outcome
import TopicBindings.Proofs.Text.Join
import TopicBindings.Proofs.Text.Lines
import TopicBindings.Source.Module

/-!
Where the text of a declaration stands in the module around it. A member of a class is a block of its own unless it
is a field, and its lines stand in the class one level to the right; over all levels they stand in the module, moved
by as many levels as there are classes around them.
-/

namespace TopicBindings

namespace Declaration

/-- A declaration stands in another one, below so many types. -/
inductive Inside (e : Declaration) : Nat → Declaration → Prop where
  | here : Inside e 0 e
  | member {name doc shape members d depth} : d ∈ members → Inside e depth d →
      Inside e (depth + 1) (.type name doc shape members)

theorem Inside.isSome {e d : Declaration} {depth : Nat} (h : Inside e depth d) (he : e.qualifiedName?.isSome) :
    d.qualifiedName?.isSome := by
  cases h with
  | here => exact he
  | member _ _ => rfl

end Declaration

namespace Source

open Binding (QualifiedName)
open Declaration (Doc Inside Shape)
open Text (Complete Holds Solid shift shifted unlines)

def blockLines (b : String) : List (List Char) :=
  shifted 4 (Text.lines (b.toList ++ ['\n']))

theorem toList_block (b : String) : (block b).toList = unlines (blockLines b) := by
  have htext : (block b).toList = List.replicate 4 ' ' ++ Text.indentTail 4 b.toList ++ ['\n'] := by
    simp [block, indented]
  rw [htext, Text.unlines_shifted, blockLines]

/-- Blocks after each other, with an empty line between them, fall into those in front of one of them, its own lines
and those behind it. -/
theorem toList_blocks {first b : String} {rest front back : List String} (h : first :: rest = front ++ b :: back) :
    (block first ++ Text.join "" (rest.map fun b => "\n" ++ block b)).toList =
      unlines (front.flatMap fun f => blockLines f ++ [[]]) ++ unlines (blockLines b) ++
        back.flatMap fun b => '\n' :: unlines (blockLines b) := by
  have hjoin : ∀ bs : List String, (Text.join "" (bs.map fun b => "\n" ++ block b)).toList =
      bs.flatMap fun b => '\n' :: unlines (blockLines b) := fun bs => by
    simp [Text.toList_join_empty, List.flatMap_map, toList_block, -Text.join_eq_intercalate]
  induction front generalizing first rest with
  | nil =>
      obtain ⟨rfl, rfl⟩ := List.cons.inj h
      rw [String.toList_append, toList_block, hjoin]
      rfl
  | cons f front ih =>
      obtain ⟨rfl, hrest⟩ := List.cons.inj (h.trans List.cons_append)
      obtain ⟨next, more, rfl⟩ : ∃ next more, rest = next :: more :=
        List.exists_cons_of_ne_nil (hrest ▸ List.append_ne_nil_of_right_ne_nil front (List.cons_ne_nil b back))
      have hmore := ih hrest
      rw [String.toList_append, toList_block, hjoin] at hmore ⊢
      rw [List.flatMap_cons, List.cons_append, hmore, List.flatMap_cons, Text.unlines_append, Text.unlines_append]
      simp

theorem runs_cons_single {α : Type} {p : α → Bool} {x : α} (hx : p x = false) (back : List α) :
    runs p (x :: back) = [x] :: runs p back := by
  rw [runs.eq_def]
  match hback : runs p back with
  | [] => simp [hback]
  | [] :: more => simp [hback]
  | (y :: ys) :: more => simp [hback, hx]

theorem runs_of_single {α : Type} {p : α → Bool} {x : α} (hx : p x = false) (front back : List α) :
    runs p (front ++ x :: back) = runs p front ++ [x] :: runs p back := by
  induction front with
  | nil => exact runs_cons_single hx back
  | cons f front ih =>
      rw [List.cons_append, runs.eq_def, runs.eq_def]
      dsimp only
      rw [ih]
      match hfront : runs p front with
      | [] => simp [hx]
      | [] :: more => rfl
      | (y :: ys) :: more =>
          by_cases hp : (p f && p y) = true <;> simp [hp]

theorem blocksOf_of_single {x : Piece} (hx : x.isField = false) (front back : List Piece) :
    blocksOf (front ++ x :: back) = blocksOf front ++ x.text :: blocksOf back := by
  simp [blocksOf, runs_of_single hx]

def docLines (doc : Doc) : List (List Char) :=
  match docstring? doc with
  | some d => blockLines d ++ [[]]
  | none => []

def classHead (decorators : List String) (className : String) (bases : List String) (doc : Doc) : List Char :=
  unlines ((decoratorLines decorators ++ "class " ++ className ++
    (if bases.isEmpty then "" else "(" ++ Text.join ", " bases ++ ")") ++ ":").toList :: docLines doc)

theorem classText_ok {home text : String} {name : QualifiedName} {doc : Doc} {shape : Shape} {pieces : List Piece}
    (h : classText home name doc shape pieces = .ok text) {front back : List String} {b : String}
    (hblocks : blocksOf pieces = front ++ b :: back) : ∃ decorators className bases after,
      shape.decorators.mapM (decorator home) = .ok decorators ∧ identifier name.name = .ok className ∧
      shape.bases.mapM (typeText home) = .ok bases ∧
      text.toList = Text.dropTrailing '\n' (classHead decorators className bases doc ++
        unlines (front.flatMap fun f => blockLines f ++ [[]]) ++ unlines (blockLines b) ++ after) ∧
      (back = [] → after = []) := by
  obtain ⟨decorators, hdecorators, h⟩ := Outcome.bind_ok.1 h
  obtain ⟨className, hname, h⟩ := Outcome.bind_ok.1 h
  obtain ⟨bases, hbases, h⟩ := Outcome.bind_ok.1 h
  obtain rfl := Outcome.pure_ok.1 h
  refine ⟨decorators, className, bases, back.flatMap fun b => '\n' :: unlines (blockLines b), hdecorators, hname,
    hbases, ?_, by rintro rfl; rfl⟩
  obtain ⟨first, rest, hcons⟩ := List.exists_cons_of_ne_nil (List.append_ne_nil_of_right_ne_nil front (List.cons_ne_nil b back))
  have hbody := toList_blocks hcons.symm
  rw [String.toList_append, toList_block] at hbody
  rw [hblocks, hcons, withoutTrailingLines, String.toList_ofList, classHead, docLines]
  cases hdoc : docstring? doc with
  | none => simp [hbody, toList_block, -Text.join_eq_intercalate]
  | some d => simp [hbody, toList_block, -Text.join_eq_intercalate]

section Pieces

variable {home : String} {piece : Piece}

theorem pieceOf_type_ok {name : QualifiedName} {doc : Doc} {shape : Shape} {members : List Declaration} :
    pieceOf home (.type name doc shape members) = .ok piece ↔ ∃ pieces text, piecesOf home members = .ok pieces ∧
      classText home name doc shape pieces = .ok text ∧ piece = ⟨false, text⟩ := by
  rw [pieceOf, Outcome.bind_ok]
  simp only [Outcome.bind_ok, Outcome.pure_ok, exists_and_left, eq_comm (b := piece)]

theorem pieceOf_enumeration_ok {name : QualifiedName} {doc : Doc} {literals : List Declaration.EnumLiteral} :
    pieceOf home (.enumeration name doc literals) = .ok piece ↔
      ∃ text, enumText name doc literals = .ok text ∧ piece = ⟨false, text⟩ := by
  rw [pieceOf, Outcome.bind_ok]
  simp only [Outcome.pure_ok, eq_comm (b := piece)]

theorem pieceOf_field_ok {f : Declaration.Field} :
    pieceOf home (.field f) = .ok piece ↔ ∃ text, fieldText home f = .ok text ∧ piece = ⟨true, text⟩ := by
  rw [pieceOf, Outcome.bind_ok]
  simp only [Outcome.pure_ok, eq_comm (b := piece)]

theorem pieceOf_method_ok {m : Declaration.Method} :
    pieceOf home (.method m) = .ok piece ↔ ∃ text, methodText home m = .ok text ∧ piece = ⟨false, text⟩ := by
  rw [pieceOf, Outcome.bind_ok]
  simp only [Outcome.pure_ok, eq_comm (b := piece)]

theorem pieceOf_raw_ok {content : Declaration.RawContent} : pieceOf home (.raw content) = .ok piece ↔
    checkModules content.references = .ok () ∧ piece = ⟨false, Text.join "\n" content.lines⟩ := by
  rw [pieceOf, Outcome.bind_ok]
  simp only [Outcome.pure_ok, eq_comm (b := piece)]
  exact ⟨fun ⟨(), h⟩ => h, fun h => ⟨(), h⟩⟩

theorem piecesOf_cons_ok {d : Declaration} {rest : List Declaration} {pieces : List Piece} :
    piecesOf home (d :: rest) = .ok pieces ↔ ∃ piece others, pieceOf home d = .ok piece ∧
      piecesOf home rest = .ok others ∧ pieces = piece :: others := by
  rw [piecesOf, Outcome.bind_ok]
  simp only [Outcome.bind_ok, Outcome.pure_ok, exists_and_left, eq_comm (b := pieces)]

end Pieces

theorem exists_piece_of_mem {home : String} {ds : List Declaration} {pieces : List Piece} {d : Declaration}
    (h : piecesOf home ds = .ok pieces) (hd : d ∈ ds) :
    ∃ piece front back, pieceOf home d = .ok piece ∧ pieces = front ++ piece :: back := by
  induction ds generalizing pieces with
  | nil => cases hd
  | cons first others ih =>
      obtain ⟨piece, more, hpiece, hmore, rfl⟩ := piecesOf_cons_ok.1 h
      rcases List.mem_cons.1 hd with rfl | hd
      · exact ⟨piece, [], more, hpiece, rfl⟩
      · obtain ⟨found, front, back, hfound, rfl⟩ := ih hmore hd
        exact ⟨found, piece :: front, back, hfound, rfl⟩

theorem holds_of_classText {home text : String} {name : QualifiedName} {doc : Doc} {shape : Shape} {pieces : List Piece}
    (h : classText home name doc shape pieces = .ok text) {front back : List String} {b : String}
    (hblocks : blocksOf pieces = front ++ b :: back) {before after ls : List (List Char)} (hsolid : Solid ls)
    (hlines : Text.lines (b.toList ++ ['\n']) = before ++ ls ++ after) :
    Holds (text.toList ++ ['\n']) (ls.map (shift 4)) := by
  obtain ⟨decorators, className, bases, rest, -, -, -, htext, -⟩ := classText_ok h hblocks
  obtain ⟨first, more, hcons, hfirst⟩ := hsolid.first
  obtain ⟨opening, last, hconcat, hne⟩ := hsolid.last
  obtain ⟨before', after', hblock⟩ : ∃ before' after', blockLines b = before' ++ ls.map (shift 4) ++ after' := by
    rw [blockLines, hlines, hcons]
    exact Text.shifted_append hfirst
  have hmem : last ∈ Text.linesBy Text.isLineEnd (b.toList ++ ['\n']) := by
    rw [← Text.lines_eq_linesBy, hlines, hconcat]
    simp
  -- What is taken off the end of the class is behind the last of these lines.
  let kept := classHead decorators className bases doc ++ unlines (front.flatMap fun f => blockLines f ++ [[]]) ++
    unlines before' ++ unlines (opening.map (shift 4)) ++ shift 4 last
  have hkept : kept.getLast? ≠ some '\n' := by
    rw [List.getLast?_append_of_ne_nil _ (Text.shift_ne_nil hne), Text.getLast?_shift]
    exact (Text.unbroken_of_mem_linesBy hmem).getLast?_ne_feed rfl
  obtain ⟨rest', hrest', -⟩ := Text.exists_dropTrailing_feed hkept (unlines after' ++ rest)
  refine ⟨classHead decorators className bases doc ++ unlines (front.flatMap fun f => blockLines f ++ [[]]) ++
    unlines before', rest', ?_, ?_⟩
  · exact (((Text.complete_unlines _).append (Text.complete_unlines _)).append (Text.complete_unlines _))
  · have hall : text.toList = Text.dropTrailing '\n' (kept ++ '\n' :: (unlines after' ++ rest)) := by
      rw [htext, hblock, hconcat]
      simp [kept]
    rw [hall, hrest', hconcat]
    simp [kept]

theorem toList_classText_single {home text : String} {name : QualifiedName} {doc : Doc} {shape : Shape}
    {pieces : List Piece} (h : classText home name doc shape pieces = .ok text) {b : String}
    (hblocks : blocksOf pieces = [b]) {front : List (List Char)} {last : List Char}
    (hlines : blockLines b = front ++ [last]) (hne : last ≠ []) (hlast : last.getLast? ≠ some '\n') :
    ∃ decorators className bases, shape.decorators.mapM (decorator home) = .ok decorators ∧
      identifier name.name = .ok className ∧ shape.bases.mapM (typeText home) = .ok bases ∧
      text.toList ++ ['\n'] = classHead decorators className bases doc ++ unlines (blockLines b) := by
  obtain ⟨decorators, className, bases, after, hdecorators, hname, hbases, htext, hafter⟩ :=
    classText_ok h (show blocksOf pieces = [] ++ b :: [] from hblocks)
  refine ⟨decorators, className, bases, hdecorators, hname, hbases, ?_⟩
  have hkept : (classHead decorators className bases doc ++ unlines front ++ last).getLast? ≠ some '\n' := by
    rwa [List.getLast?_append_of_ne_nil _ hne]
  obtain ⟨rest, hrest, hnone⟩ := Text.exists_dropTrailing_feed hkept []
  rw [hnone rfl] at hrest
  rw [htext, hafter rfl, hlines]
  simpa using hrest

theorem piecesOf_raw {home : String} {content : Declaration.RawContent} {pieces : List Piece}
    (h : piecesOf home [.raw content] = .ok pieces) : pieces = [⟨false, Text.join "\n" content.lines⟩] := by
  obtain ⟨piece, others, hpiece, hothers, rfl⟩ := piecesOf_cons_ok.1 h
  obtain ⟨-, rfl⟩ := pieceOf_raw_ok.1 hpiece
  obtain rfl := Outcome.pure_ok.1 hothers
  rfl

section Inside

variable {home : String} {e : Declaration} {text : String}

theorem exists_piece_of_inside {depth : Nat} {d : Declaration} (hinside : Inside e depth d) {piece : Piece}
    (hpiece : pieceOf home d = .ok piece) : ∃ inner, pieceOf home e = .ok inner := by
  induction hinside generalizing piece with
  | here => exact ⟨piece, hpiece⟩
  | member hd _ ih =>
      obtain ⟨pieces, text, hpieces, -, -⟩ := pieceOf_type_ok.1 hpiece
      obtain ⟨between, -, -, hbetween, -⟩ := exists_piece_of_mem hpieces hd
      exact ih hbetween

/-- Lines of a declaration stand in the text of a declaration around it, and if there is one in between or more, they
stand in it whole. -/
theorem lines_of_inside (he : pieceOf home e = .ok ⟨false, text⟩) (hsolid : Solid (Text.lines (text.toList ++ ['\n'])))
    {depth : Nat} {d : Declaration} (hinside : Inside e depth d) {piece : Piece} (hpiece : pieceOf home d = .ok piece) :
    piece.isField = false ∧ (∃ before after, Text.lines (piece.text.toList ++ ['\n']) =
        before ++ (Text.lines (text.toList ++ ['\n'])).map (shift (4 * depth)) ++ after) ∧
      (0 < depth → Holds (piece.text.toList ++ ['\n'])
        ((Text.lines (text.toList ++ ['\n'])).map (shift (4 * depth)))) := by
  -- The induction is on the classes around the declaration: each of them moves the lines one level to the right.
  induction hinside generalizing piece with
  | here =>
      obtain rfl := Except.ok.inj (he.symm.trans hpiece)
      have hsame : shift 0 = id := funext Text.shift_zero
      exact ⟨rfl, ⟨[], [], by simp [hsame]⟩, fun hpos => absurd hpos (Nat.lt_irrefl 0)⟩
  | @member name doc shape members d depth hd _ ih =>
      obtain ⟨pieces, whole, hpieces, hwhole, rfl⟩ := pieceOf_type_ok.1 hpiece
      obtain ⟨inner, front, back, hinner, rfl⟩ := exists_piece_of_mem hpieces hd
      obtain ⟨hfield, ⟨before, after, hlines⟩, -⟩ := ih hinner
      have hholds := holds_of_classText hwhole (blocksOf_of_single hfield front back) (hsolid.shift _) hlines
      have hwidth : shift 4 ∘ shift (4 * depth) = shift (4 * (depth + 1)) := funext fun line => by
        rw [Function.comp_apply, Text.shift_shift, Nat.mul_add_one, Nat.add_comm]
      rw [List.map_map, hwidth] at hholds
      have hunbroken : ∀ l ∈ (Text.lines (text.toList ++ ['\n'])).map (shift (4 * (depth + 1))),
          Text.Unbroken Text.isLineEnd l := by
        rw [Text.lines_eq_linesBy]
        intro l hl
        obtain ⟨line, hline, rfl⟩ := List.mem_map.1 hl
        exact (Text.unbroken_of_mem_linesBy hline).shift rfl _
      obtain ⟨before', after', hafter⟩ := hholds.exists_linesBy rfl rfl hunbroken
      exact ⟨rfl, ⟨before', after', by rw [Text.lines_eq_linesBy, hafter]⟩, fun _ => hholds⟩

end Inside

theorem moduleText_ok {home text : String} {d : Declaration} (h : moduleText home d = .ok text) : ∃ piece,
    pieceOf home d = .ok piece ∧ text.toList =
      (opening (runtimeImports home d) (checkingImports home d) ++ "\n\n").toList ++ (piece.text.toList ++ ['\n']) := by
  obtain ⟨piece, hpiece, h⟩ := Outcome.bind_ok.1 h
  obtain rfl := Outcome.pure_ok.1 h
  exact ⟨piece, hpiece, by simp⟩

theorem complete_opening (runtime checking : List String) : Complete (opening runtime checking ++ "\n\n").toList :=
  .inr ⟨(opening runtime checking ++ "\n").toList, by simp⟩

theorem brace_not_mem_imports {modules : List String} (h : ∀ m ∈ modules, '\x7b' ∉ m.toList) (line : String → String)
    (hline : ∀ m, '\x7b' ∈ (line m).toList → '\x7b' ∈ m.toList) :
    '\x7b' ∉ (Text.join "" (modules.map line)).toList := by
  intro hbrace
  rcases Text.mem_of_mem_join hbrace with hnone | ⟨part, hpart, hbrace⟩
  · cases hnone
  · obtain ⟨m, hm, rfl⟩ := List.mem_map.1 hpart
    exact h m hm (hline m hbrace)

theorem brace_not_mem_opening {runtime checking : List String} (hruntime : ∀ m ∈ runtime, '\x7b' ∉ m.toList)
    (hchecking : ∀ m ∈ checking, '\x7b' ∉ m.toList) : '\x7b' ∉ (opening runtime checking).toList := by
  have himports := brace_not_mem_imports hruntime importLine fun m hbrace => by
    simpa [importLine] using hbrace
  have hguarded := brace_not_mem_imports hchecking (fun m => "    " ++ importLine m) fun m hbrace => by
    simpa [importLine] using hbrace
  have hstart : '\x7b' ∉ (header ++ "\n\nfrom __future__ import annotations\n").toList := by decide
  simp only [opening, String.toList_append, List.mem_append, not_or] at hstart ⊢
  refine ⟨⟨hstart, ?_⟩, ?_⟩
  · split
    · simp
    · simpa using himports
  · split
    · simp
    · simpa using hguarded

end Source

end TopicBindings
