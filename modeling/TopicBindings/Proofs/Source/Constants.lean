import TopicBindings.Proofs.Source.Identifier
import TopicBindings.Proofs.Text.Join
import TopicBindings.Proofs.Text.Quoted
import TopicBindings.Source.Module

/-!
The lines that give the constants of an enumeration their values and their names in documents, read back. How deep a
line stands decides what can break it: at the top of a module nothing in a value does, in a class every one of the
three separators that are written as they are.
-/

namespace TopicBindings.Source

open Binding (QualifiedName)
open Declaration (EnumLiteral)
open Character (isIdentifierPart isIdentifierStart)
open Text (BreaksOpen Token Unbroken isLineEnd isPhysicalEnd linesBy scan? shift tokens?)
open Text.Quoted (IsVisible encode escape escaping_escape isLineEnd_of_visible isPhysicalEnd_of_visible)

/-- A character that ends lines and is written as itself between quotes. -/
def IsSeparator (c : Char) : Prop :=
  c.toNat = 0x85 ∨ c.toNat = 0x2028 ∨ c.toNat = 0x2029

instance : DecidablePred IsSeparator := fun c =>
  inferInstanceAs (Decidable (c.toNat = 0x85 ∨ c.toNat = 0x2028 ∨ c.toNat = 0x2029))

theorem not_control_of_raw {c : Char} (h : escape c = [c]) : 0x20 ≤ c.toNat := by
  unfold escape at h
  split at h
  case h_8 =>
    split at h
    · simp at h
    · omega
  all_goals simp at h

theorem unbroken_escape_iff {c : Char} : Unbroken isLineEnd (escape c) ↔ ¬IsSeparator c := by
  constructor
  · intro h hseparator
    have hends : ∀ d : Char, escape d = [d] → isLineEnd d = true → c ≠ d := by
      rintro d hraw hend rfl
      rw [hraw] at h
      rw [h c (.head _)] at hend
      cases hend
    rcases hseparator with hc | hc | hc
    · exact hends '\u0085' (by decide) (by decide) (by rw [← Char.ofNat_toNat c, hc])
    · exact hends '\u2028' (by decide) (by decide) (by rw [← Char.ofNat_toNat c, hc])
    · exact hends '\u2029' (by decide) (by decide) (by rw [← Char.ofNat_toNat c, hc])
  · intro hseparator
    by_contra hbroken
    obtain ⟨hraw, hend⟩ := escaping_escape.raw_of_broken (fun _ => isLineEnd_of_visible) hbroken
    have hlow := not_control_of_raw hraw
    simp only [IsSeparator] at hseparator
    simp only [isLineEnd, Bool.or_eq_true, Bool.and_eq_true, decide_eq_true_eq, beq_iff_eq] at hend
    omega

theorem unbroken_escape_physical (c : Char) : Unbroken isPhysicalEnd (escape c) := by
  by_contra hbroken
  obtain ⟨hraw, hend⟩ := escaping_escape.raw_of_broken (fun _ => isPhysicalEnd_of_visible) hbroken
  have hlow := not_control_of_raw hraw
  simp only [isPhysicalEnd, Bool.or_eq_true, beq_iff_eq] at hend
  rcases hend with rfl | rfl <;> exact absurd hlow (by decide)

/-- What ends a line that stands below so many classes. -/
def endsAt : Nat → Char → Bool
  | 0 => isPhysicalEnd
  | _ + 1 => isLineEnd

theorem endsAt_feed (depth : Nat) : endsAt depth '\n' = true := by
  cases depth <;> rfl

theorem endsAt_return (depth : Nat) : endsAt depth '\r' = true := by
  cases depth <;> rfl

theorem endsAt_of_visible (depth : Nat) {c : Char} (h : IsVisible c) : endsAt depth c = false := by
  cases depth with
  | zero => exact isPhysicalEnd_of_visible h
  | succ depth => exact isLineEnd_of_visible h

/-- The lines that a statement takes in the module. -/
def placed (depth : Nat) (l : List Char) : List (List Char) :=
  (linesBy (endsAt depth) (l ++ ['\n'])).map (shift (4 * depth))

section Placed

variable {depth : Nat} {l : List Char}

theorem placed_zero (l : List Char) : placed 0 l = linesBy isPhysicalEnd (l ++ ['\n']) := by
  rw [placed, show shift (4 * 0) = id from funext Text.shift_zero, List.map_id]
  rfl

theorem placed_of_unbroken (h : Unbroken (endsAt depth) l) : placed depth l = [shift (4 * depth) l] := by
  rw [placed, Text.linesBy_of_unbroken (endsAt_feed depth) (endsAt_return depth) h]
  rfl

theorem tokens?_of_breaksOpen (h : BreaksOpen (endsAt depth) l) {line : List Char} (hline : placed depth l = [line]) :
    tokens? line = none := by
  obtain ⟨u, more, hlines, hopen⟩ := h.exists_line (endsAt_feed depth) (endsAt_return depth)
  rw [placed, hlines, List.map_cons] at hline
  obtain ⟨rfl, -⟩ := List.cons.inj hline
  rw [Text.tokens?_shift, Text.tokens?_eq_none hopen]

end Placed

/-- A text that is written on one line so deep. -/
def Survives (depth : Nat) (s : String) : Prop :=
  Unbroken (endsAt depth) (s.toList.flatMap escape)

theorem survives_iff {depth : Nat} {s : String} : Survives depth s ↔ depth = 0 ∨ ∀ c ∈ s.toList, ¬IsSeparator c := by
  cases depth with
  | zero =>
      refine ⟨fun _ => .inl rfl, fun _ c hc => ?_⟩
      obtain ⟨d, -, hc⟩ := List.mem_flatMap.1 hc
      exact unbroken_escape_physical d c hc
  | succ depth =>
      constructor
      · refine fun h => .inr fun c hc => unbroken_escape_iff.1 fun d hd => h d (List.mem_flatMap.2 ⟨c, hc, hd⟩)
      · rintro (h | h)
        · cases h
        · intro d hd
          obtain ⟨c, hc, hd⟩ := List.mem_flatMap.1 hd
          exact unbroken_escape_iff.2 (h c hc) d hd

def assignment (constant value : String) : List Char :=
  "    ".toList ++ constant.toList ++ " = ".toList ++ encode value.toList

def sign? : Token → Option Char
  | .sign c => some c
  | .text _ => none

/-- Reads a line as a name and the literal assigned to it. -/
def assignment? (line : List Char) : Option (List Char × List Char) := do
  let tokens ← tokens? line
  match tokens.reverse with
  | .text value :: .sign ' ' :: .sign '=' :: .sign ' ' :: name => (name.reverse.mapM sign?).map (·, value)
  | _ => none

theorem mapM_sign? (cs : List Char) : cs.mapM (sign? ∘ .sign) = some cs := by
  induction cs with
  | nil => rfl
  | cons c rest ih =>
      rw [List.mapM_cons, ih]
      rfl

section Assignment

variable {name constant : String}

theorem unbroken_of_identifier (h : identifier name = .ok constant) : Unbroken isLineEnd constant.toList := by
  intro c hc
  by_contra hend
  obtain ⟨hstart, hpart⟩ := not_identifier_of_lineEnd (c := c) (by simpa using hend)
  exact not_mem_of_identifier hstart hpart h hc

theorem mem_of_identifier (h : identifier name = .ok constant) {c : Char} (hc : c ∈ name.toList) :
    c ∈ constant.toList := by
  rw [identifier] at h
  split at h
  · cases h
  · dsimp only at h
    split at h
    · obtain rfl := Except.ok.inj h
      have hdigit : c ∈ (guardDigit name).toList := by
        rw [guardDigit]
        split
        · split
          · simp [hc]
          · exact hc
        · exact hc
      rw [guardKeyword]
      split
      · simp [hdigit]
      · exact hdigit
    · cases h

theorem unbroken_endsAt {depth : Nat} {l : List Char} (h : Unbroken isLineEnd l) : Unbroken (endsAt depth) l := by
  cases depth with
  | zero => exact h.physical
  | succ depth => exact h

theorem assignment_eq (constant value : String) : assignment constant value = List.replicate 4 ' ' ++
    ((constant.toList ++ [' ', '=', ' ']) ++ '"' :: (value.toList.flatMap escape ++ ['"'])) := by
  delta assignment
  simp [encode]

theorem quote_not_mem (h : identifier name = .ok constant) : '"' ∉ constant.toList ++ [' ', '=', ' '] := by
  simpa using not_mem_of_identifier (by decide) (by decide) h

theorem tokens?_assignment (h : identifier name = .ok constant) (value : String) :
    tokens? (assignment constant value) =
      some (constant.toList.map .sign ++ [.sign ' ', .sign '=', .sign ' ', .text value.toList]) := by
  obtain ⟨first, rest, hcons⟩ := List.exists_cons_of_ne_nil (show constant.toList ≠ [] from fun hnil => by
    have hvalid := isIdentifier_of_identifier h
    rw [isIdentifier, hnil] at hvalid
    cases hvalid)
  have hfirst : first ≠ ' ' := by
    rintro rfl
    exact not_mem_of_identifier (by decide) (by decide) h (hcons ▸ List.mem_cons_self)
  have hscan := Text.scan?_signs (quote_not_mem h) ('"' :: (value.toList.flatMap escape ++ ['"']))
  rw [Text.scan?_literal escaping_escape] at hscan
  have hkept : ((constant.toList ++ [' ', '=', ' ']) ++ '"' :: (value.toList.flatMap escape ++ ['"'])).dropWhile
      (· == ' ') = (constant.toList ++ [' ', '=', ' ']) ++ '"' :: (value.toList.flatMap escape ++ ['"']) := by
    rw [hcons]
    exact List.dropWhile_cons_of_neg (by simpa using hfirst)
  rw [assignment_eq, Text.tokens?_spaces, tokens?, hkept, hscan]
  simp [scan?]

theorem assignment?_assignment (h : identifier name = .ok constant) (value : String) {depth : Nat} :
    assignment? (shift (4 * depth) (assignment constant value)) = some (constant.toList, value.toList) := by
  rw [assignment?, Text.tokens?_shift, tokens?_assignment h]
  simp [← List.map_reverse, mapM_sign?]

/-- A constant is read back from a line of its own exactly if its value has nothing in it that ends the line. -/
theorem assignment_survives_iff (h : identifier name = .ok constant) (depth : Nat) (value : String) :
    (∃ line, placed depth (assignment constant value) = [line] ∧
      assignment? line = some (constant.toList, value.toList)) ↔ Survives depth value := by
  have hvisible : ∀ c, IsVisible c → endsAt depth c = false := fun _ => endsAt_of_visible depth
  have hspaces : Unbroken (endsAt depth) (List.replicate 4 ' ') := Text.unbroken_spaces (hvisible _ (by decide)) 4
  have hname : Unbroken (endsAt depth) (constant.toList ++ [' ', '=', ' ']) :=
    Text.unbroken_append.2 ⟨unbroken_endsAt (unbroken_of_identifier h), by
      simp [hvisible ' ' (by decide), hvisible '=' (by decide)]⟩
  constructor
  · rintro ⟨line, hline, hread⟩
    -- A value that does not survive ends the line within its literal, and such a line has no tokens.
    by_contra hbroken
    have hopen := ((escaping_escape.breaksOpen hvisible hbroken ['"']).behind_signs
      (quote_not_mem h) hname).behind_signs (show '"' ∉ List.replicate 4 ' ' by decide) hspaces
    rw [← assignment_eq] at hopen
    rw [assignment?, tokens?_of_breaksOpen hopen hline] at hread
    cases hread
  · intro hsurvives
    have hvalue : Unbroken (endsAt depth) ('"' :: (value.toList.flatMap escape ++ ['"'])) := by
      simp [hvisible '"' (by decide), show Unbroken (endsAt depth) (value.toList.flatMap escape) from hsurvives]
    have hline : Unbroken (endsAt depth) (assignment constant value) := by
      rw [assignment_eq]
      exact Text.unbroken_append.2 ⟨hspaces, Text.unbroken_append.2 ⟨hname, hvalue⟩⟩
    exact ⟨_, placed_of_unbroken hline, assignment?_assignment h value⟩

end Assignment

def returnLine (entries : List (String × String)) : List Char :=
  ("        return " ++ tableLine entries ++ "[self.name]").toList

def entryText (e : String × String) (rest : List Char) : List Char :=
  '"' :: (e.1.toList.flatMap escape ++ '"' :: ([':', ' '] ++ '"' :: (e.2.toList.flatMap escape ++ '"' :: rest)))

def listing (e : String × String) : List (String × String) → List Char → List Char
  | [], rest => entryText e rest
  | next :: more, rest => entryText e ([',', ' '] ++ listing next more rest)

def entryTokens (e : String × String) (rest : List Token) : List Token :=
  .text e.1.toList :: .sign ':' :: .sign ' ' :: .text e.2.toList :: rest

def listingTokens (e : String × String) : List (String × String) → List Token → List Token
  | [], rest => entryTokens e rest
  | next :: more, rest => entryTokens e (.sign ',' :: .sign ' ' :: listingTokens next more rest)

/-- Reads entries up to the brace behind the last one. -/
def pairs? : List Token → Option (List (List Char × List Char) × List Token)
  | .text key :: .sign ':' :: .sign ' ' :: .text value :: .sign ',' :: .sign ' ' :: rest =>
      (pairs? rest).map fun (pairs, behind) => ((key, value) :: pairs, behind)
  | .text key :: .sign ':' :: .sign ' ' :: .text value :: .sign '\x7d' :: rest => some ([(key, value)], rest)
  | _ => none

/-- Reads a line as a look-up in a table. -/
def table? (line : List Char) : Option (List (List Char × List Char)) := do
  let tokens ← tokens? line
  let entries ← tokens.dropPrefix? ("return \x7b".toList.map .sign)
  let (pairs, behind) ← pairs? entries
  if behind = "[self.name]".toList.map .sign then some pairs else none

def characters (e : String × String) : List Char × List Char :=
  (e.1.toList, e.2.toList)

section Table

variable {depth : Nat} {e : String × String} {more : List (String × String)}

theorem intercalate_entries (e : String × String) (more : List (String × String)) (rest : List Char) :
    List.intercalate [',', ' '] ((e :: more).map fun e => encode e.1.toList ++ [':', ' '] ++ encode e.2.toList) ++ rest =
      listing e more rest := by
  induction more generalizing e with
  | nil => simp [listing, entryText, encode]
  | cons next more ih =>
      have hnext := ih next
      rw [List.map_cons] at hnext ⊢
      rw [listing, ← hnext]
      simp [List.intercalate, entryText, encode]

theorem toList_tableLine (e : String × String) (more : List (String × String)) (rest : List Char) :
    (tableLine (e :: more)).toList ++ rest = '\x7b' :: listing e more ('\x7d' :: rest) := by
  have hentries : ∀ line : String × String → String, (∀ e, line e = Text.quoted e.1 ++ ": " ++ Text.quoted e.2) →
      ((e :: more).map line).map String.toList =
        (e :: more).map fun e => encode e.1.toList ++ [':', ' '] ++ encode e.2.toList := by
    intro line hline
    rw [List.map_map]
    refine List.map_congr_left fun entry _ => ?_
    simp [hline, Text.quoted]
  rw [tableLine, Text.join, hentries _ fun _ => rfl, ← intercalate_entries]
  simp only [String.toList_append, String.toList_ofList]
  simp

theorem returnLine_eq (e : String × String) (more : List (String × String)) : returnLine (e :: more) =
    List.replicate 8 ' ' ++ ("return \x7b".toList ++ listing e more ('\x7d' :: "[self.name]".toList)) := by
  rw [returnLine, String.toList_append, String.toList_append, List.append_assoc, toList_tableLine]
  rfl

theorem scan?_entry (e : String × String) (rest : List Char) :
    scan? none (entryText e rest) = (scan? none rest).map (entryTokens e) := by
  rw [entryText, Text.scan?_literal escaping_escape, Text.scan?_signs (by decide), Text.scan?_literal escaping_escape,
    Option.map_map, Option.map_map]
  rfl

theorem scan?_listing (e : String × String) (more : List (String × String)) (rest : List Char) :
    scan? none (listing e more rest) = (scan? none rest).map (listingTokens e more) := by
  induction more generalizing e with
  | nil => exact scan?_entry e rest
  | cons next more ih =>
      rw [listing, scan?_entry, Text.scan?_signs (by decide), ih, Option.map_map, Option.map_map]
      rfl

theorem pairs?_listing (e : String × String) (more : List (String × String)) (rest : List Token) :
    pairs? (listingTokens e more (.sign '\x7d' :: rest)) = some ((e :: more).map characters, rest) := by
  induction more generalizing e with
  | nil => rfl
  | cons next more ih =>
      rw [listingTokens, entryTokens, pairs?, ih]
      rfl

theorem table?_returnLine (e : String × String) (more : List (String × String)) {depth : Nat} :
    table? (shift (4 * depth) (returnLine (e :: more))) = some ((e :: more).map characters) := by
  have htokens : tokens? (returnLine (e :: more)) = some ("return \x7b".toList.map .sign ++
      listingTokens e more (.sign '\x7d' :: "[self.name]".toList.map .sign)) := by
    rw [returnLine_eq, Text.tokens?_spaces, tokens?]
    have hkept : ("return \x7b".toList ++ listing e more ('\x7d' :: "[self.name]".toList)).dropWhile (· == ' ') =
        "return \x7b".toList ++ listing e more ('\x7d' :: "[self.name]".toList) := rfl
    rw [hkept, Text.scan?_signs (by decide), scan?_listing]
    rfl
  have hentries : (("return \x7b".toList.map Token.sign ++ listingTokens e more
      (.sign '\x7d' :: "[self.name]".toList.map .sign)).dropPrefix? ("return \x7b".toList.map .sign)) =
      some (listingTokens e more (.sign '\x7d' :: "[self.name]".toList.map .sign)) :=
    List.dropPrefix?_eq_some_iff.2 ⟨_, rfl, beq_self_eq_true _⟩
  rw [table?, Text.tokens?_shift, htokens, Option.bind_eq_bind, Option.bind_some, hentries, Option.bind_eq_bind,
    Option.bind_some, pairs?_listing]
  rfl

theorem survives_of_unbroken {s : String} (h : Unbroken isLineEnd s.toList) : Survives depth s := by
  refine survives_iff.2 (.inr fun c hc hseparator => ?_)
  have hend : isLineEnd c = true := by
    rcases hseparator with hcode | hcode | hcode <;> simp [isLineEnd, hcode]
  rw [h c hc] at hend
  cases hend

theorem unbroken_entry (hkey : Survives depth e.1) (hvalue : Survives depth e.2) {rest : List Char}
    (hrest : Unbroken (endsAt depth) rest) : Unbroken (endsAt depth) (entryText e rest) := by
  have hvisible : ∀ c, IsVisible c → endsAt depth c = false := fun _ => endsAt_of_visible depth
  rw [Survives] at hkey hvalue
  simp [entryText, hkey, hvalue, hrest, hvisible '"' (by decide), hvisible ':' (by decide), hvisible ' ' (by decide)]

theorem unbroken_listing (h : ∀ f ∈ e :: more, Survives depth f.1 ∧ Survives depth f.2) {rest : List Char}
    (hrest : Unbroken (endsAt depth) rest) : Unbroken (endsAt depth) (listing e more rest) := by
  have hvisible : ∀ c, IsVisible c → endsAt depth c = false := fun _ => endsAt_of_visible depth
  induction more generalizing e with
  | nil => exact unbroken_entry (h e (.head _)).1 (h e (.head _)).2 hrest
  | cons next more ih =>
      refine unbroken_entry (h e (.head _)).1 (h e (.head _)).2 ?_
      simp [hvisible ',' (by decide), hvisible ' ' (by decide), ih fun f hf => h f (.tail _ hf)]

/-- The first name that does not stay on the line leaves its literal open there. -/
theorem breaksOpen_listing (hkeys : ∀ f ∈ e :: more, Survives depth f.1) (h : ∃ f ∈ e :: more, ¬Survives depth f.2)
    (rest : List Char) : BreaksOpen (endsAt depth) (listing e more rest) := by
  have hvisible : ∀ c, IsVisible c → endsAt depth c = false := fun _ => endsAt_of_visible depth
  have hquote := hvisible '"' (by decide)
  have hcolon : Unbroken (endsAt depth) [':', ' '] := by
    simp [hvisible ':' (by decide), hvisible ' ' (by decide)]
  have hfirst : ∀ {f : String × String}, Survives depth f.1 → ¬Survives depth f.2 → ∀ behind,
      BreaksOpen (endsAt depth) (entryText f behind) := fun hkey hvalue behind =>
    ((escaping_escape.breaksOpen hvisible hvalue _).behind_signs (by decide) hcolon).behind_literal escaping_escape
      hquote hkey
  -- The induction is on the entries: those in front of the first broken name are whole literals on the line.
  induction more generalizing e with
  | nil =>
      obtain ⟨f, hf, hvalue⟩ := h
      obtain rfl := List.mem_singleton.1 hf
      exact hfirst (hkeys f (.head _)) hvalue rest
  | cons next more ih =>
      by_cases hvalue : Survives depth e.2
      · obtain ⟨f, hf, hbroken⟩ := h
        have hmore : f ∈ next :: more := (List.mem_cons.1 hf).resolve_left fun heq => hbroken (heq ▸ hvalue)
        have hcomma : Unbroken (endsAt depth) [',', ' '] := by
          simp [hvisible ',' (by decide), hvisible ' ' (by decide)]
        have hopen := (ih (fun f hf => hkeys f (.tail _ hf)) ⟨f, hmore, hbroken⟩).behind_signs
          (show '"' ∉ [',', ' '] by decide) hcomma
        exact ((hopen.behind_literal escaping_escape hquote hvalue).behind_signs (by decide) hcolon).behind_literal
          escaping_escape hquote (hkeys e (.head _))
      · exact hfirst (hkeys e (.head _)) hvalue _

theorem table_survives_iff (hkeys : ∀ f ∈ e :: more, Survives depth f.1) :
    (∃ line, placed depth (returnLine (e :: more)) = [line] ∧ table? line = some ((e :: more).map characters)) ↔
      ∀ f ∈ e :: more, Survives depth f.2 := by
  have hvisible : ∀ c, IsVisible c → endsAt depth c = false := fun _ => endsAt_of_visible depth
  have hspaces : Unbroken (endsAt depth) (List.replicate 8 ' ') := Text.unbroken_spaces (hvisible _ (by decide)) 8
  have hsigns : ∀ cs : List Char, (cs.all fun c => decide (IsVisible c)) = true → Unbroken (endsAt depth) cs :=
    fun cs hcs c hc => hvisible c (of_decide_eq_true (List.all_eq_true.1 hcs c hc))
  constructor
  · rintro ⟨line, hline, hread⟩
    by_contra hbroken
    push Not at hbroken
    have hopen := ((breaksOpen_listing hkeys hbroken ('\x7d' :: "[self.name]".toList)).behind_signs
      (show '"' ∉ "return \x7b".toList by decide) (hsigns _ (by decide))).behind_signs
      (show '"' ∉ List.replicate 8 ' ' by decide) hspaces
    rw [← returnLine_eq] at hopen
    rw [table?, tokens?_of_breaksOpen hopen hline] at hread
    cases hread
  · intro h
    refine ⟨_, placed_of_unbroken ?_, table?_returnLine e more⟩
    rw [returnLine_eq]
    exact Text.unbroken_append.2 ⟨hspaces, Text.unbroken_append.2 ⟨hsigns _ (by decide),
      unbroken_listing (fun f hf => ⟨hkeys f hf, h f hf⟩) (hsigns _ (by decide))⟩⟩

end Table

end TopicBindings.Source
