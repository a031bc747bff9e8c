import Mathlib.Data.List.TakeWhile
import TopicBindings.Source.Docstring

/-!
Documentation read back from its literal. Between the quotes every sign is written as itself, behind a backslash, or as
one of three escaped quotes; what is written never ends the literal, and reads as the texts that were given.
-/

namespace TopicBindings.Source.Docstring

open Character (isBlank)

variable {text rest tail : List Char} {c : Char}

def NoTriple (c : Char) (rest : List Char) : Prop :=
  ∀ more, c = '"' → rest = '"' :: '"' :: more → False

/-- The ways in which the front of a text is written. -/
@[elab_as_elim]
theorem written_induction {motive : List Char → Prop} (nil : motive [])
    (backslash : ∀ rest, motive rest → motive ('\\' :: rest))
    (triple : ∀ rest, motive rest → motive ('"' :: '"' :: '"' :: rest))
    (plain : ∀ c rest, c ≠ '\\' → NoTriple c rest → motive rest → motive (c :: rest)) (text : List Char) :
    motive text := by
  induction text using escapeTriples.induct with
  | case1 rest ih => exact triple rest ih
  | case2 c rest hc ih =>
      by_cases hslash : c = '\\'
      · exact hslash ▸ backslash rest ih
      · exact plain c rest hslash hc ih
  | case3 => exact nil

theorem escapeBackslashes_cons (hslash : c ≠ '\\') (rest : List Char) :
    escapeBackslashes (c :: rest) = c :: escapeBackslashes rest := by
  rw [escapeBackslashes, List.flatMap_cons, if_neg hslash]
  rfl

theorem escapeBackslashes_eq_quote {more : List Char} (h : escapeBackslashes text = '"' :: more) :
    ∃ rest, text = '"' :: rest ∧ more = escapeBackslashes rest := by
  cases text with
  | nil => cases h
  | cons c rest =>
      by_cases hslash : c = '\\'
      · subst hslash
        cases h
      · rw [escapeBackslashes_cons hslash] at h
        obtain ⟨rfl, rfl⟩ := List.cons.inj h
        exact ⟨rest, rfl, rfl⟩

theorem body_backslash (rest : List Char) : body ('\\' :: rest) = '\\' :: '\\' :: body rest := by
  simp [body, escapeBackslashes, escapeTriples]

theorem body_triple (rest : List Char) : body ('"' :: '"' :: '"' :: rest) = escapedQuotes ++ body rest := by
  simp [body, escapeBackslashes, escapeTriples]

theorem body_plain (hslash : c ≠ '\\') (h : NoTriple c rest) : body (c :: rest) = c :: body rest := by
  rw [body, escapeBackslashes_cons hslash, escapeTriples]
  · rfl
  · intro more hc hmore
    obtain ⟨rest', rfl, hsecond⟩ := escapeBackslashes_eq_quote hmore
    obtain ⟨rest'', rfl, -⟩ := escapeBackslashes_eq_quote hsecond.symm
    exact h rest'' hc rfl

theorem body_eq_quote {more : List Char} (h : body text = '"' :: more) :
    ∃ rest, text = '"' :: rest ∧ more = body rest := by
  induction text using written_induction with
  | nil => cases h
  | backslash rest =>
      rw [body_backslash] at h
      cases h
  | triple rest => cases h
  | plain c rest hslash hc =>
      rw [body_plain hslash hc] at h
      obtain ⟨rfl, rfl⟩ := List.cons.inj h
      exact ⟨rest, rfl, rfl⟩

theorem getLast?_body (text : List Char) : (body text).getLast? = text.getLast? := by
  induction text using written_induction with
  | nil => rfl
  | backslash rest ih => simp [body_backslash, List.getLast?_cons, ih]
  | triple rest ih => simp [body_triple, escapedQuotes, List.getLast?_cons, ih]
  | plain c rest hslash hc ih => rw [body_plain hslash hc, List.getLast?_cons, ih, List.getLast?_cons]

theorem newline_mem_body (text : List Char) : '\n' ∈ body text ↔ '\n' ∈ text := by
  induction text using written_induction with
  | nil => rfl
  | backslash rest ih => simp [body_backslash, ih]
  | triple rest ih => simp [body_triple, escapedQuotes, ih]
  | plain c rest hslash hc ih => rw [body_plain hslash hc, List.mem_cons, ih, List.mem_cons]

theorem body_eq_nil (h : body text = []) : text = [] := by
  have hlast := getLast?_body text
  rw [h] at hlast
  exact List.getLast?_eq_none_iff.1 hlast.symm

theorem readBody?_plain (hslash : c ≠ '\\') (h : NoTriple c rest) :
    readBody? (c :: rest) = (readBody? rest).map (c :: ·) := by
  rw [readBody?]
  · exact fun hc hrest => h [] hc hrest
  · exact fun _ _ hc _ => hslash hc
  · exact fun _ _ hc hrest => h _ hc hrest

theorem readBody?_backslash (c : Char) (rest : List Char) :
    readBody? ('\\' :: c :: rest) = (readBody? rest).map (c :: ·) := by
  rw [readBody?]

theorem readBody?_triple (rest : List Char) :
    readBody? (escapedQuotes ++ rest) = (readBody? rest).map (['"', '"', '"'] ++ ·) := by
  simp only [escapedQuotes, List.cons_append, List.nil_append, readBody?_backslash, Option.map_map]
  rfl

def Apart (text tail : List Char) : Prop :=
  text.getLast? = some '"' → tail.head? ≠ some '"'

theorem Apart.of_append (front : List Char) (h : Apart (front ++ rest) tail) : Apart rest tail := by
  intro hlast
  exact h (by rw [List.getLast?_append, hlast, Option.some_or])

/-- Quotes at the front are those of the text, as long as what follows is kept apart. -/
theorem eq_quote_of_written {more : List Char} (hempty : text = [] → tail.head? ≠ some '"')
    (h : body text ++ tail = '"' :: more) : ∃ rest, text = '"' :: rest ∧ body rest ++ tail = more := by
  cases hbody : body text with
  | nil =>
      rw [hbody, List.nil_append] at h
      exact absurd (by rw [h]; rfl) (hempty (body_eq_nil hbody))
  | cons d inner =>
      rw [hbody] at h
      obtain ⟨rfl, rfl⟩ := List.cons.inj h
      obtain ⟨rest, rfl, rfl⟩ := body_eq_quote hbody
      exact ⟨rest, rfl, rfl⟩

theorem noTriple_written (hc : NoTriple c rest) (h : Apart (c :: rest) tail) : NoTriple c (body rest ++ tail) := by
  rintro more rfl hmore
  obtain ⟨rest', rfl, hsecond⟩ := eq_quote_of_written (fun hempty => h (by rw [hempty]; rfl)) hmore
  obtain ⟨rest'', rfl, -⟩ := eq_quote_of_written (fun hempty => h (by rw [hempty]; rfl)) hsecond
  exact hc rest'' rfl rfl

theorem readBody?_body (text : List Char) (h : Apart text tail) :
    readBody? (body text ++ tail) = (readBody? tail).map (text ++ ·) := by
  induction text using written_induction with
  | nil => simp [body, escapeBackslashes, escapeTriples]
  | backslash rest ih =>
      have hrest : Apart rest tail := Apart.of_append ['\\'] h
      rw [body_backslash, List.cons_append, List.cons_append, readBody?_backslash, ih hrest, Option.map_map]
      rfl
  | triple rest ih =>
      have hrest : Apart rest tail := Apart.of_append ['"', '"', '"'] h
      rw [body_triple, List.append_assoc, readBody?_triple, ih hrest, Option.map_map]
      rfl
  | plain c rest hslash hc ih =>
      -- Only a quote could begin the closing ones; neither the rest nor what follows has two more for it.
      have hrest : Apart rest tail := Apart.of_append [c] h
      rw [body_plain hslash hc, List.cons_append, readBody?_plain hslash (noTriple_written hc h), ih hrest,
        Option.map_map]
      rfl

/-- A literal reads as its text, with a space after a quote at the end and a line end after several lines. -/
theorem read?_literal (text : List Char) : read? (literal text) = some (text ++ padding text ++ ending text) := by
  have hpadding : padding (body text) = padding text := by rw [padding, getLast?_body, padding]
  have hending : ending (body text) = ending text := by simp only [ending, newline_mem_body]
  have hapart : Apart text (padding text ++ ending text ++ ['"', '"', '"']) := by
    intro hlast
    simp [padding, hlast]
  have hclose : readBody? (padding text ++ ending text ++ ['"', '"', '"']) = some (padding text ++ ending text) := by
    rw [padding, ending]
    split <;> split <;> rfl
  have hliteral : literal text =
      ['"', '"', '"'] ++ (body text ++ (padding text ++ ending text ++ ['"', '"', '"'])) := by
    simp [literal, hpadding, hending]
  rw [hliteral]
  exact (readBody?_body text hapart).trans (by rw [hclose, Option.map_some, List.append_assoc])

theorem strip_eq_nil {s : List Char} : Text.strip s = [] ↔ ∀ c ∈ s, isBlank c = true := by
  rw [Text.strip, List.reverse_eq_nil_iff, List.dropWhile_eq_nil_iff]
  constructor
  · intro hblank
    refine List.dropWhile_eq_nil_iff.1 (by_contra fun hne => ?_)
    have hhead := List.head_dropWhile_not isBlank hne
    rw [hblank _ (List.mem_reverse.2 (List.head_mem hne))] at hhead
    cases hhead
  · intro hblank c hc
    rw [List.dropWhile_eq_nil_iff.2 hblank] at hc
    cases hc

def Silent (s : Option String) : Prop :=
  ∀ text, s = some text → ∀ c ∈ text.toList, isBlank c = true

/-- What a text is in a docstring: nothing, or one paragraph. -/
def paragraph : Option String → List (List Char)
  | none => []
  | some s => if Text.strip s.toList = [] then [] else [Text.strip s.toList]

/-- What a docstring says: its paragraphs with an empty line between them. -/
def said (summary description : Option String) : List Char :=
  List.intercalate ['\n', '\n'] (paragraph summary ++ paragraph description)

theorem paragraph_eq_nil {s : Option String} : paragraph s = [] ↔ Silent s := by
  cases s with
  | none => simp [paragraph, Silent]
  | some text => simp [paragraph, Silent, strip_eq_nil]

theorem parts_eq (summary description : Option String) :
    parts [summary, description] = paragraph summary ++ paragraph description := by
  have hparts : ∀ s : Option String, parts [s] = paragraph s := by
    intro s
    cases s with
    | none => rfl
    | some text => by_cases hblank : Text.strip text.toList = [] <;> simp [parts, paragraph, hblank]
  have happend : parts [summary, description] = parts [summary] ++ parts [description] := by
    simp only [parts, ← List.filter_append, ← List.map_append, ← List.filterMap_append, List.singleton_append]
  rw [happend, hparts, hparts]

/-- A literal that reads as what is to be said, with at most a space and a line end behind it. -/
structure Keeps (summary description : Option String) (literal : List Char) : Prop where
  opens : ['"', '"', '"'] <+: literal
  reads : ∃ space newline, (space = [] ∨ space = [' ']) ∧ (newline = [] ∨ newline = ['\n']) ∧
    read? literal = some (said summary description ++ space ++ newline)

theorem keeps_literal (summary description : Option String) :
    Keeps summary description (literal (said summary description)) := by
  have hspace : ∀ text, padding text = [] ∨ padding text = [' '] := fun text => by
    rw [padding]
    exact (ite_eq_or_eq _ _ _).symm
  have hnewline : ∀ text, ending text = [] ∨ ending text = ['\n'] := fun text => by
    rw [ending]
    exact (ite_eq_or_eq _ _ _).symm
  have hopens : ∀ text, ['"', '"', '"'] <+: literal text := fun text =>
    ⟨body text ++ padding (body text) ++ ending (body text) ++ ['"', '"', '"'], by simp [literal]⟩
  exact ⟨hopens _, _, _, hspace _, hnewline _, read?_literal _⟩

theorem docstring_keeps_texts (summary description : Option String) :
    (render? summary description = none ↔ Silent summary ∧ Silent description) ∧
    (¬(Silent summary ∧ Silent description) →
      ∃ literal, render? summary description = some literal ∧ Keeps summary description literal.toList) := by
  have hempty : (parts [summary, description]).isEmpty ↔ Silent summary ∧ Silent description := by
    rw [parts_eq, List.isEmpty_iff, List.append_eq_nil_iff, paragraph_eq_nil, paragraph_eq_nil]
  rw [render?]
  by_cases hsilent : Silent summary ∧ Silent description
  · rw [if_pos (hempty.2 hsilent)]
    exact ⟨iff_of_true rfl hsilent, absurd hsilent⟩
  · rw [if_neg (mt hempty.1 hsilent), content, parts_eq]
    refine ⟨iff_of_false (Option.some_ne_none _) hsilent, fun _ => ⟨_, rfl, ?_⟩⟩
    rw [String.toList_ofList]
    exact keeps_literal summary description

theorem docstring_keeps_texts_sample :
    render? none (some " \t\n") = none ∧
    ∃ literal, render? (some " C:\\new ") (some "say \"\"\"\"") = some literal ∧
      Keeps (some " C:\\new ") (some "say \"\"\"\"") literal.toList := by
  have hspoken : ¬(Silent (some " C:\\new ") ∧ Silent (some "say \"\"\"\"")) := by
    rintro ⟨hsummary, -⟩
    exact absurd (hsummary _ rfl 'C' (by decide)) (by decide)
  refine ⟨(docstring_keeps_texts none (some " \t\n")).1.2 ⟨nofun, ?_⟩, (docstring_keeps_texts _ _).2 hspoken⟩
  rintro text ⟨rfl⟩
  exact List.all_eq_true.1 (by decide)

end TopicBindings.Source.Docstring
