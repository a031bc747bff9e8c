import TopicBindings.Binding.Expression
import TopicBindings.Proofs.Outcome
import TopicBindings.Proofs.Text.Join

/-!
The text of an expression piece by piece. It is made of the names that the expression refers to, each of them spelled
once and in order, and of brackets and commas between them, which do not depend on the spelling.
-/

namespace TopicBindings.Binding.TypeExpression

inductive Piece where
  | name (target : QualifiedName)
  | mark (text : String)

namespace Piece

def name? : Piece → Option QualifiedName
  | .name target => some target
  | .mark _ => none

def mark? : Piece → Option String
  | .name _ => none
  | .mark text => some text

def text (spell : QualifiedName → String) : Piece → String
  | .name target => spell target
  | .mark text => text

def tryText {ε : Type} (spell : QualifiedName → Except ε String) : Piece → Except ε String
  | .name target => spell target
  | .mark text => .ok text

end Piece

mutual

def pieces : TypeExpression → List Piece
  | .apply target arguments =>
      match arguments with
      | [] => [.name target]
      | first :: rest => .name target :: .mark "[" :: (pieces first ++ (piecesBehind rest ++ [.mark "]"]))

def piecesBehind : List TypeExpression → List Piece
  | [] => []
  | e :: rest => .mark ", " :: (pieces e ++ piecesBehind rest)

end

mutual

theorem filterMap_name?_pieces : ∀ e : TypeExpression, e.pieces.filterMap Piece.name? = e.references
  | .apply target [] => rfl
  | .apply target (first :: rest) => by
      have hfirst := filterMap_name?_pieces first
      have hrest := filterMap_name?_piecesBehind rest
      simp [pieces, references, referencesAll, List.filterMap_cons, Piece.name?, hfirst, hrest]

theorem filterMap_name?_piecesBehind : ∀ es : List TypeExpression,
    (piecesBehind es).filterMap Piece.name? = referencesAll es
  | [] => rfl
  | e :: rest => by
      have he := filterMap_name?_pieces e
      have hrest := filterMap_name?_piecesBehind rest
      simp [piecesBehind, referencesAll, List.filterMap_cons, Piece.name?, he, hrest]

end

mutual

theorem mark_of_mem_pieces : ∀ (e : TypeExpression), ∀ mark ∈ e.pieces.filterMap Piece.mark?,
    mark ∈ ["[", ", ", "]"]
  | .apply target [], mark, h => by simp [pieces, Piece.mark?] at h
  | .apply target (first :: rest), mark, h => by
      have hfirst := mark_of_mem_pieces first mark
      have hrest := mark_of_mem_piecesBehind rest mark
      simp only [pieces, List.filterMap_cons, List.filterMap_append, Piece.mark?, List.mem_cons, List.mem_append] at h
      rcases h with rfl | h | h | h
      · exact .head _
      · exact hfirst h
      · exact hrest h
      · simp_all

theorem mark_of_mem_piecesBehind : ∀ (es : List TypeExpression), ∀ mark ∈ (piecesBehind es).filterMap Piece.mark?,
    mark ∈ ["[", ", ", "]"]
  | [], mark, h => by simp [piecesBehind] at h
  | e :: rest, mark, h => by
      have he := mark_of_mem_pieces e mark
      have hrest := mark_of_mem_piecesBehind rest mark
      simp only [piecesBehind, List.filterMap_cons, List.filterMap_append, Piece.mark?, List.mem_cons,
        List.mem_append] at h
      rcases h with rfl | h | h
      · exact .tail _ (.head _)
      · exact he h
      · exact hrest h

end

section Spelling

variable (spell : QualifiedName → String)

mutual

theorem render_eq : ∀ e : TypeExpression, e.render spell = String.join (e.pieces.map (Piece.text spell))
  | .apply target [] => by simp [render, pieces, Piece.text]
  | .apply target (first :: rest) => by
      have hrest := join_renderAll (render spell first) rest
      have hfirst := render_eq first
      rw [render, hrest, hfirst]
      simp [pieces, Piece.text, String.append_assoc]

theorem join_renderAll (text : String) : ∀ es : List TypeExpression,
    Text.join ", " (text :: renderAll spell es) = text ++ String.join ((piecesBehind es).map (Piece.text spell))
  | [] => by simp [renderAll, piecesBehind]
  | e :: rest => by
      have hrest := join_renderAll (render spell e) rest
      have he := render_eq e
      rw [Text.join_eq_intercalate] at hrest ⊢
      rw [renderAll, String.intercalate_cons_cons, hrest, he]
      simp [piecesBehind, Piece.text, String.append_assoc]

end

end Spelling

section Failing

variable {ε : Type} (spell : QualifiedName → Except ε String)

/-- The text of some pieces in a spelling that may fail. -/
def joined (ps : List Piece) : Except ε String :=
  (ps.mapM (Piece.tryText spell)).map String.join

theorem joined_append (ps qs : List Piece) : joined spell (ps ++ qs) = (do
    let text ← joined spell ps
    (joined spell qs).map (text ++ ·)) := by
  simp only [joined, List.mapM_append]
  cases ps.mapM (Piece.tryText spell) with
  | error fault => rfl
  | ok texts =>
      cases qs.mapM (Piece.tryText spell) with
      | error fault => rfl
      | ok others => exact congrArg Except.ok String.join_append

theorem joined_name (target : QualifiedName) (ps : List Piece) : joined spell (.name target :: ps) = (do
    let head ← spell target
    (joined spell ps).map (head ++ ·)) := by
  simp only [joined, List.mapM_cons, Piece.tryText]
  cases spell target with
  | error fault => rfl
  | ok head => cases ps.mapM (Piece.tryText spell) <;> simp [bind, Except.bind, pure, Except.pure, Except.map]

theorem joined_mark (mark : String) (ps : List Piece) :
    joined spell (.mark mark :: ps) = (joined spell ps).map (mark ++ ·) := by
  simp only [joined, List.mapM_cons, Piece.tryText]
  cases ps.mapM (Piece.tryText spell) <;> simp [bind, Except.bind, pure, Except.pure, Except.map]

theorem tryRender_cons (target : QualifiedName) (first : TypeExpression) (rest : List TypeExpression) :
    (apply target (first :: rest)).tryRender spell = (do
      let head ← spell target
      let inner ← first.tryRender spell
      ((tryRenderAll spell rest).map fun others => Text.join ", " (inner :: others)).map fun arguments =>
        head ++ "[" ++ arguments ++ "]") := by
  rw [tryRender]
  dsimp only
  cases spell target with
  | error fault => rfl
  | ok head =>
      cases first.tryRender spell with
      | error fault => rfl
      | ok inner => cases tryRenderAll spell rest <;> rfl

theorem tryRenderAll_cons (text : String) (e : TypeExpression) (rest : List TypeExpression) :
    (tryRenderAll spell (e :: rest)).map (fun texts => Text.join ", " (text :: texts)) = (do
      let inner ← e.tryRender spell
      ((tryRenderAll spell rest).map fun others => Text.join ", " (inner :: others)).map fun others =>
        text ++ ", " ++ others) := by
  rw [tryRenderAll]
  cases e.tryRender spell with
  | error fault => rfl
  | ok inner =>
      cases tryRenderAll spell rest with
      | error fault => rfl
      | ok others =>
          have hjoin : Text.join ", " (text :: inner :: others) = text ++ ", " ++ Text.join ", " (inner :: others) := by
            rw [Text.join_eq_intercalate, Text.join_eq_intercalate, String.intercalate_cons_cons]
          exact congrArg Except.ok hjoin

mutual

theorem tryRender_eq : ∀ e : TypeExpression, e.tryRender spell = joined spell e.pieces
  | .apply target [] => by
      rw [tryRender, pieces, joined_name]
      cases spell target <;> simp [joined, bind, Except.bind, pure, Except.pure, Except.map]
  | .apply target (first :: rest) => by
      have hrest := fun text => map_tryRenderAll text rest
      rw [tryRender_cons, tryRender_eq first, pieces, joined_name, joined_mark, joined_append]
      simp only [hrest, joined_append]
      cases spell target with
      | error fault => rfl
      | ok head =>
          cases joined spell first.pieces with
          | error fault => rfl
          | ok inner =>
              cases joined spell (piecesBehind rest) <;>
                simp [joined, Piece.tryText, bind, Except.bind, pure, Except.pure, Except.map, String.append_assoc]

theorem map_tryRenderAll (text : String) : ∀ es : List TypeExpression,
    (tryRenderAll spell es).map (fun texts => Text.join ", " (text :: texts)) =
      (joined spell (piecesBehind es)).map (text ++ ·)
  | [] => by simp [tryRenderAll, piecesBehind, joined, pure, Except.pure, Except.map]
  | e :: rest => by
      have hrest := fun text => map_tryRenderAll text rest
      rw [tryRenderAll_cons, tryRender_eq e, piecesBehind, joined_mark, joined_append]
      simp only [hrest]
      cases joined spell e.pieces with
      | error fault => rfl
      | ok inner =>
          cases joined spell (piecesBehind rest) <;>
            simp [bind, Except.bind, Except.map, String.append_assoc]

end

end Failing

/-- In every spelling the text of an expression is made of its references, spelled in order, and of the same brackets
and commas between them; a spelling that fails is asked for the references in this order. -/
def Spelled (e : TypeExpression) : Prop :=
  ∃ pieces : List Piece, pieces.filterMap Piece.name? = e.references ∧
    (∀ mark ∈ pieces.filterMap Piece.mark?, mark ∈ ["[", ", ", "]"]) ∧
    (∀ spell, e.render spell = String.join (pieces.map (Piece.text spell))) ∧
    ∀ (ε : Type) (spell : QualifiedName → Except ε String),
      e.tryRender spell = (pieces.mapM (Piece.tryText spell)).map String.join

theorem spelled (e : TypeExpression) : e.Spelled :=
  ⟨e.pieces, filterMap_name?_pieces e, mark_of_mem_pieces e, fun spell => render_eq spell e,
    fun _ spell => tryRender_eq spell e⟩

end TopicBindings.Binding.TypeExpression
