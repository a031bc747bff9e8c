import TopicBindings.Proofs.Character.Capital
import TopicBindings.Proofs.Naming.Edges
import TopicBindings.Source.Identifier

/-!
Which names are spelled alike. A name is spelled as itself unless it is a keyword or begins with a digit; then it gets a
low line at one end. So two names are only spelled alike if one of them has that low line already, and no names without
low lines at their ends are.
-/

namespace TopicBindings.Character

/-- No digit, of whatever script, begins an identifier. -/
theorem isDigit_of_isIdentifierStart {c : Char} (h : isIdentifierStart c = true) : isDigit c = false := by
  have hclear : Run.clear digitRuns identifierStartRuns = true := by decide +kernel
  rw [isDigit, Run.contains, Bool.eq_false_iff, ne_eq, Option.isSome_iff_exists]
  rintro ⟨r, hr⟩
  obtain ⟨hdigits, hdigit⟩ := Run.mem_of_find? hr
  rw [isIdentifierStart, Run.contains_of_clear hclear hdigits hdigit] at h
  cases h

end TopicBindings.Character

namespace TopicBindings.Source

open Naming (Trimmed)

variable {name other text : String}

def startsWithDigit (name : String) : Bool :=
  name.toList.head?.any Character.isDigit

theorem guardDigit_eq (name : String) : guardDigit name = if startsWithDigit name then "_" ++ name else name := by
  rw [guardDigit, startsWithDigit]
  cases name.toList with
  | nil => rfl
  | cons c rest => rfl

theorem startsWithDigit_of_isIdentifier (h : isIdentifier name = true) : startsWithDigit name = false := by
  rw [isIdentifier] at h
  rw [startsWithDigit]
  split at h
  · cases h
  next c rest hname =>
    rw [Bool.and_eq_true] at h
    rw [hname]
    exact Character.isDigit_of_isIdentifierStart h.1

theorem mem_keywords : isKeyword name = true ↔ name ∈ keywords := by
  rw [isKeyword, List.contains_iff_mem]

theorem isKeyword_lowLine_append (name : String) : isKeyword ("_" ++ name) = false := by
  have hheads : ∀ word ∈ keywords, word.toList.head? ≠ some '_' := by decide
  rw [Bool.eq_false_iff, ne_eq, mem_keywords]
  exact fun hmem => hheads _ hmem (by simp)

theorem isKeyword_append_lowLine (name : String) : isKeyword (name ++ "_") = false := by
  have hlasts : ∀ word ∈ keywords, word.toList.getLast? ≠ some '_' := by decide
  rw [Bool.eq_false_iff, ne_eq, mem_keywords]
  exact fun hmem => hlasts _ hmem (by simp)

theorem identifier_ok : identifier name = .ok text ↔
    name ≠ "" ∧ guardKeyword (guardDigit name) = text ∧ isIdentifier text = true := by
  rw [identifier]
  by_cases hempty : name = ""
  · simp [hempty]
  · rw [if_neg (by simpa using hempty)]
    dsimp only
    constructor
    · intro h
      split at h
      next hvalid =>
        obtain rfl := Except.ok.inj h
        exact ⟨hempty, rfl, hvalid⟩
      · cases h
    · rintro ⟨-, rfl, hvalid⟩
      rw [if_pos hvalid]

inductive Spelled (name : String) : String → Prop where
  | digit (h : startsWithDigit name = true) : Spelled name ("_" ++ name)
  | keyword (h : isKeyword name = true) : Spelled name (name ++ "_")
  | plain (hdigit : startsWithDigit name = false) (hkeyword : isKeyword name = false) : Spelled name name

theorem spelled_guarded (name : String) : Spelled name (guardKeyword (guardDigit name)) := by
  rw [guardDigit_eq]
  cases hdigit : startsWithDigit name with
  | true =>
      rw [if_pos rfl, guardKeyword, isKeyword_lowLine_append]
      exact .digit hdigit
  | false =>
      rw [if_neg Bool.false_ne_true, guardKeyword]
      cases hkeyword : isKeyword name with
      | true => exact .keyword hkeyword
      | false => exact .plain hdigit hkeyword

theorem spelled_of_identifier (h : identifier name = .ok text) : Spelled name text := by
  obtain ⟨-, rfl, -⟩ := identifier_ok.1 h
  exact spelled_guarded name

theorem Spelled.isKeyword_eq_false (h : Spelled name text) : isKeyword text = false := by
  cases h with
  | digit h => exact isKeyword_lowLine_append name
  | keyword h => exact isKeyword_append_lowLine name
  | plain hdigit hkeyword => exact hkeyword

theorem isKeyword_of_identifier (h : identifier name = .ok text) : isKeyword text = false :=
  (spelled_of_identifier h).isKeyword_eq_false

theorem identifier_of_isIdentifier (h : isIdentifier name = true) (hkeyword : isKeyword name = false) :
    identifier name = .ok name := by
  refine identifier_ok.2 ⟨?_, ?_, h⟩
  · rintro rfl
    cases h
  · rw [guardDigit_eq, startsWithDigit_of_isIdentifier h, if_neg Bool.false_ne_true, guardKeyword, hkeyword]
    rfl

/-- The second name is the first one with the low line that keeps it from being a keyword or a number. -/
def Guards (name other : String) : Prop :=
  isKeyword name = true ∧ other = name ++ "_" ∨ startsWithDigit name = true ∧ other = "_" ++ name

theorem lowLine_append_ne (hkeyword : isKeyword other = true) : "_" ++ name ≠ other ++ "_" := by
  have hheads : ∀ word ∈ keywords, word.toList ≠ [] ∧ word.toList.head? ≠ some '_' := by decide
  obtain ⟨hne, hhead⟩ := hheads other (mem_keywords.1 hkeyword)
  obtain ⟨c, rest, hlist⟩ := List.exists_cons_of_ne_nil hne
  intro heq
  have hchars := congrArg (fun s => s.toList.head?) heq
  simp [hlist] at hchars
  rw [hlist, hchars] at hhead
  exact hhead rfl

theorem guards_of_spelled (hname : Spelled name text) (hother : Spelled other text) (hne : name ≠ other) :
    Guards name other ∨ Guards other name := by
  cases hname with
  | digit h =>
      generalize hspelled : "_" ++ name = text at hother
      cases hother with
      | digit h' => exact absurd ((String.append_right_inj _).1 hspelled) hne
      | keyword h' => exact absurd hspelled (lowLine_append_ne h')
      | plain => exact .inl (.inr ⟨h, hspelled.symm⟩)
  | keyword h =>
      generalize hspelled : name ++ "_" = text at hother
      cases hother with
      | digit h' => exact absurd hspelled.symm (lowLine_append_ne h)
      | keyword h' => exact absurd ((String.append_left_inj _).1 hspelled) hne
      | plain => exact .inl (.inl ⟨h, hspelled.symm⟩)
  | plain hdigit hkeyword =>
      cases hother with
      | digit h' => exact .inr (.inr ⟨h', rfl⟩)
      | keyword h' => exact .inr (.inl ⟨h', rfl⟩)
      | plain => exact absurd rfl hne

theorem Guards.not_trimmed (h : Guards name other) : ¬ Trimmed other := by
  rintro ⟨hhead, hlast⟩
  rcases h with ⟨-, rfl⟩ | ⟨-, rfl⟩
  · exact hlast (by simp)
  · exact hhead (by simp)

theorem eq_of_identifier_eq (hname : Trimmed name) (hother : Trimmed other) (h : identifier name = .ok text)
    (h' : identifier other = .ok text) : name = other := by
  by_contra hne
  rcases guards_of_spelled (spelled_of_identifier h) (spelled_of_identifier h') hne with hguards | hguards
  · exact hguards.not_trimmed hother
  · exact hguards.not_trimmed hname

/-- How names are spelled: as identifiers that are no keywords, or not at all; as themselves if they are such identifiers;
and alike only if one guards the other, which no name does that a change of style gives. -/
structure SpelledApart : Prop where
  spelled : ∀ name, (∃ fault, identifier name = .error fault) ∨
    ∃ text, identifier name = .ok text ∧ isIdentifier text = true ∧ isKeyword text = false
  kept : ∀ name, isIdentifier name = true → isKeyword name = false → identifier name = .ok name
  shared : ∀ name other text, name ≠ other → identifier name = .ok text → identifier other = .ok text →
    Guards name other ∨ Guards other name
  converted : ∀ name other, Naming.Converted other → ¬ Guards name other

theorem spelledApart : SpelledApart where
  spelled name := by
    cases h : identifier name with
    | error fault => exact .inl ⟨fault, rfl⟩
    | ok text => exact .inr ⟨text, rfl, (identifier_ok.1 h).2.2, isKeyword_of_identifier h⟩
  kept _ h hkeyword := identifier_of_isIdentifier h hkeyword
  shared _ _ _ hne h h' := guards_of_spelled (spelled_of_identifier h) (spelled_of_identifier h') hne
  converted _ _ hconverted hguards := hguards.not_trimmed hconverted.trimmed

end TopicBindings.Source
