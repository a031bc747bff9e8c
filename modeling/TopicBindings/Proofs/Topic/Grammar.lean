import TopicBindings.Proofs.Outcome
import TopicBindings.Proofs.Text.Fields
import TopicBindings.Topic.Grammar

/-!
Topic names and what they say determine each other. A name is read just when its tokens follow the grammar;
writing what was read gives the name back, and reading what was written gives the parts back.
-/

namespace TopicBindings.Topic

open Text (join splitAt)

namespace Status

theorem ofToken?_eq_some_iff {token : String} {s : Status} :
    ofToken? token = some s ↔ Naming.toUpper token = s.name := by
  rw [ofToken?, all]
  constructor
  · intro h
    have hname := List.find?_some h
    exact (beq_iff_eq.1 hname).symm
  · intro h
    rw [h]
    cases s <;> rfl

theorem ofToken?_eq_none_iff {token : String} :
    ofToken? token = none ↔ ∀ s : Status, Naming.toUpper token ≠ s.name := by
  rw [Option.eq_none_iff_forall_ne_some]
  exact forall_congr' fun s => not_congr ofToken?_eq_some_iff

end Status

inductive Spelling : Option Status → List String → Prop
  | absent : Spelling none []
  | word {s : Status} {token : String} : Naming.toUpper token = s.name → Spelling (some s) [token]

namespace Spelling

variable {status : Option Status} {spelled : List String}

theorem dot_mem_toUpper {token : String} (h : '.' ∈ token.toList) :
    '.' ∈ (Naming.toUpper token).toList := by
  have hdot : '.' ∈ Character.upper '.' := by decide +kernel
  rw [Naming.toUpper, String.toList_ofList]
  exact List.mem_flatMap.2 ⟨'.', h, hdot⟩

theorem dot_not_mem (h : Spelling status spelled) : ∀ token ∈ spelled, '.' ∉ token.toList := by
  cases h with
  | absent => simp
  | @word s token hname =>
      intro other hother hdot
      obtain rfl := List.mem_singleton.1 hother
      have hin := dot_mem_toUpper hdot
      rw [hname] at hin
      revert hin
      cases s <;> decide

theorem empty_not_mem (h : Spelling status spelled) : "" ∉ spelled := by
  cases h with
  | absent => simp
  | @word s token hname =>
      intro hmem
      obtain rfl := List.mem_singleton.1 hmem
      revert hname
      cases s <;> decide

end Spelling

section Tail

variable {type : String} {rest tail : List String} {status : Option Status}

theorem cutStatus_append (type : String) (rest : List String) (token : String) :
    cutStatus type (rest ++ [token]) =
      if type = "event" ∧ 2 ≤ rest.length then
        match Status.ofToken? token with
        | some s => (rest, some s)
        | none => (rest ++ [token], none)
      else (rest ++ [token], none) := by
  have hlong : (rest ++ [token]).length > 2 ↔ 2 ≤ rest.length := by
    rw [List.length_append, List.length_singleton]
    omega
  cases htoken : Status.ofToken? token <;>
    simp only [cutStatus, hlong, List.getLast?_concat, Option.bind_some, List.dropLast_concat, htoken]

theorem cutStatus_nil (type : String) : cutStatus type [] = ([], none) := by
  simp [cutStatus]

/-- A status that was cut off, or the lack of one. -/
structure Cut (type : String) (tail rest : List String) (status : Option Status) (spelled : List String) : Prop where
  spelling : Spelling status spelled
  tail_eq : tail = rest ++ spelled
  found : status.isSome → type = "event" ∧ 2 ≤ rest.length
  missed : status = none → type = "event" → ∀ front last, rest = front ++ [last] → 2 ≤ front.length →
    ∀ s : Status, Naming.toUpper last ≠ s.name

theorem exists_cut (h : cutStatus type tail = (rest, status)) : ∃ spelled, Cut type tail rest status spelled := by
  -- Only the last token can be a status, so the cases are those of the last token.
  rcases List.eq_nil_or_concat' tail with rfl | ⟨front, token, rfl⟩
  · rw [cutStatus_nil] at h
    obtain ⟨rfl, rfl⟩ := Prod.mk.inj h
    exact ⟨[], .absent, rfl, by simp, by simp⟩
  · rw [cutStatus_append] at h
    split at h
    next hevent =>
      split at h
      next s hs =>
        obtain ⟨rfl, rfl⟩ := Prod.mk.inj h
        exact ⟨[token], .word (Status.ofToken?_eq_some_iff.1 hs), rfl, fun _ => hevent, by simp⟩
      next hnone =>
        obtain ⟨rfl, rfl⟩ := Prod.mk.inj h
        refine ⟨[], .absent, (List.append_nil _).symm, by simp, fun _ _ other last hlast _ => ?_⟩
        obtain ⟨-, heq⟩ := List.append_inj' hlast rfl
        obtain rfl := List.singleton_inj.1 heq
        exact Status.ofToken?_eq_none_iff.1 hnone
    next hshort =>
      obtain ⟨rfl, rfl⟩ := Prod.mk.inj h
      refine ⟨[], .absent, (List.append_nil _).symm, by simp, fun _ he other last hlast hlong => ?_⟩
      obtain ⟨rfl, -⟩ := List.append_inj' hlast rfl
      exact absurd ⟨he, hlong⟩ hshort

theorem Cut.cutStatus_eq {spelled : List String} (h : Cut type tail rest status spelled) :
    cutStatus type tail = (rest, status) := by
  obtain ⟨hspelled, rfl, hfound, hmissed⟩ := h
  cases hspelled with
  | word hname =>
      rw [cutStatus_append, if_pos (hfound rfl), Status.ofToken?_eq_some_iff.2 hname]
  | absent =>
      rw [List.append_nil]
      rcases List.eq_nil_or_concat' rest with rfl | ⟨front, token, rfl⟩
      · exact cutStatus_nil type
      · rw [cutStatus_append]
        split
        next hevent =>
          rw [Status.ofToken?_eq_none_iff.2 (hmissed rfl hevent.1 front token rfl hevent.2)]
        · rfl

theorem parseTail_ok_iff {resources : List String} {action : String} :
    parseTail type tail = .ok (resources, action, status) ↔
      cutStatus type tail = (resources ++ [action], status) ∧
        action ≠ "" ∧ resources ≠ [] ∧ "" ∉ resources := by
  rw [parseTail]
  rcases hcut : cutStatus type tail with ⟨before, found⟩
  rcases List.eq_nil_or_concat' before with rfl | ⟨front, last, rfl⟩
  · simp
  · simp only [List.getLast?_concat, List.dropLast_concat]
    constructor
    · intro h
      split at h
      · cases h
      next haction =>
        split at h
        · cases h
        next hne =>
          split at h
          · cases h
          next hempty =>
            cases h
            exact ⟨rfl, haction, hne, hempty⟩
    · rintro ⟨heq, haction, hne, hempty⟩
      obtain ⟨hparts, rfl⟩ := Prod.mk.inj heq
      obtain ⟨rfl, hlast⟩ := List.append_inj' hparts rfl
      obtain rfl := List.singleton_inj.1 hlast
      rw [if_neg haction, if_neg hne, if_neg hempty]

theorem exists_parseTail (type : String) (hlong : 2 ≤ tail.length) (hne : "" ∉ tail) :
    ∃ found, parseTail type tail = .ok found := by
  rcases hcut : cutStatus type tail with ⟨before, found⟩
  obtain ⟨spelled, hspelled, htail, hfound, -⟩ := exists_cut hcut
  have hbefore : 2 ≤ before.length := by
    cases hspelled with
    | absent => simpa [htail] using hlong
    | word _ => exact (hfound rfl).2
  rcases List.eq_nil_or_concat' before with rfl | ⟨front, last, rfl⟩
  · simp at hbefore
  · rw [htail, List.mem_append, List.mem_append, List.mem_singleton, not_or, not_or] at hne
    refine ⟨(front, last, found), parseTail_ok_iff.2 ⟨hcut, Ne.symm hne.1.2, ?_, hne.1.1⟩⟩
    rintro rfl
    simp at hbefore

end Tail

namespace Information

/-- What reading a name ensures of its parts. -/
structure Complete (i : Information) : Prop where
  service : i.service ≠ ""
  version : ∀ token ∈ splitAt '.' i.version, isNumeral token = true
  type : i.type ≠ ""
  type_not_numeral : isNumeral i.type = false
  resources_ne_nil : i.resources ≠ []
  resources : "" ∉ i.resources
  action : i.action ≠ ""
  status : i.status.isSome → i.type = "event"
  no_status : i.status = none → i.type = "event" → 2 ≤ i.resources.length →
    ∀ s : Status, Naming.toUpper i.action ≠ s.name

/-- The parts of a name apart from its version hold no dots. -/
structure Plain (i : Information) : Prop extends i.Complete where
  undotted : ∀ part ∈ [i.service, i.type, i.action] ++ i.resources, '.' ∉ part.toList

def text (i : Information) (spelled : List String) : String :=
  join "." ([i.service, i.version, i.type] ++ i.resources ++ [i.action] ++ spelled)

theorem tokens_eq (i : Information) (spelled : List String) :
    i.tokens spelled =
      i.service :: (splitAt '.' i.version ++ i.type :: (i.resources ++ [i.action] ++ spelled)) := by
  simp [tokens]

/-- The numerals of a version are joined like everything else. -/
theorem join_tokens (i : Information) (spelled : List String) : join "." (i.tokens spelled) = i.text spelled := by
  have hversion : ".".intercalate (splitAt '.' i.version) = i.version := by
    rw [← Text.join_eq_intercalate]
    exact Text.join_splitAt '.' i.version
  have hfront := Text.splitAt_ne_nil '.' i.version
  have htext : [i.service, i.version, i.type] ++ i.resources ++ [i.action] ++ spelled =
      [i.service] ++ ([i.version] ++ i.type :: (i.resources ++ [i.action] ++ spelled)) := by simp
  have hrest : i.type :: (i.resources ++ [i.action] ++ spelled) ≠ [] := List.cons_ne_nil _ _
  have hone : ∀ part : String, [part] ≠ [] := fun _ => List.cons_ne_nil _ _
  rw [tokens_eq, text, htext, ← List.singleton_append (x := i.service)]
  simp only [Text.join_eq_intercalate]
  rw [String.intercalate_append_of_ne_nil (hone _) (List.append_ne_nil_of_left_ne_nil hfront _),
    String.intercalate_append_of_ne_nil hfront hrest, hversion,
    String.intercalate_append_of_ne_nil (hone _) (List.append_ne_nil_of_left_ne_nil (hone _) _),
    String.intercalate_append_of_ne_nil (hone _) hrest, String.intercalate_singleton (t := i.version)]

theorem Plain.dot_not_mem_tokens {i : Information} (hi : i.Plain) {spelled : List String}
    (h : Spelling i.status spelled) : ∀ token ∈ i.tokens spelled, '.' ∉ token.toList := by
  intro token ht
  rw [tokens_eq] at ht
  rcases List.mem_cons.1 ht with rfl | ht
  · exact hi.undotted _ (by simp)
  · rcases List.mem_append.1 ht with ht | ht
    · exact Text.not_mem_of_mem_splitAt ht
    · rcases List.mem_cons.1 ht with rfl | ht
      · exact hi.undotted _ (by simp)
      · rcases List.mem_append.1 ht with ht | ht
        · refine hi.undotted token ?_
          rcases List.mem_append.1 ht with ht | ht
          · exact List.mem_append_right _ ht
          · obtain rfl := List.mem_singleton.1 ht
            simp
        · exact h.dot_not_mem token ht

end Information

theorem isNumeral_ne_empty {token : String} (h : isNumeral token = true) : token ≠ "" := by
  rintro rfl
  exact absurd h (by decide)

theorem isDigit_of_isNumeral {token : String} (h : isNumeral token = true) :
    ∀ c ∈ token.toList, c.isDigit = true := by
  rw [isNumeral, Version.isNumeral, Bool.and_eq_true, List.all_eq_true] at h
  exact h.2

theorem isNumeral_dot {token : String} (h : isNumeral token = true) : '.' ∉ token.toList := fun hdot =>
  absurd (isDigit_of_isNumeral h '.' hdot) (by decide)

theorem splitAt_join_numerals {version : List String} (hne : version ≠ [])
    (h : ∀ token ∈ version, isNumeral token = true) : splitAt '.' (join "." version) = version :=
  Text.splitAt_join hne fun token ht => isNumeral_dot (h token ht)

theorem exists_of_dropWhile {rest tail : List String} {type : String}
    (h : rest.dropWhile isNumeral = type :: tail) : isNumeral type = false ∧
      (∀ token ∈ rest.takeWhile isNumeral, isNumeral token = true) ∧
      rest = rest.takeWhile isNumeral ++ type :: tail := by
  refine ⟨?_, List.all_eq_true.1 List.all_takeWhile, ?_⟩
  · have hhead := List.head_dropWhile_not isNumeral (l := rest) (by rw [h]; exact List.cons_ne_nil _ _)
    simpa [h] using hhead
  · rw [← h, List.takeWhile_append_dropWhile]

theorem takeWhile_version {version tail : List String} {type : String}
    (hversion : ∀ token ∈ version, isNumeral token = true) (htype : isNumeral type = false) :
    (version ++ type :: tail).takeWhile isNumeral = version := by
  rw [List.takeWhile_append_of_pos hversion, List.takeWhile_cons, htype]
  simp

theorem dropWhile_version {version tail : List String} {type : String}
    (hversion : ∀ token ∈ version, isNumeral token = true) (htype : isNumeral type = false) :
    (version ++ type :: tail).dropWhile isNumeral = type :: tail := by
  rw [List.dropWhile_append_of_pos hversion, List.dropWhile_cons, htype]
  simp

theorem complete_of_parseTokens {tokens : List String} {i : Information} (h : parseTokens tokens = .ok i) :
    i.Complete ∧ ∃ spelled, Spelling i.status spelled ∧ tokens = i.tokens spelled := by
  cases tokens with
  | nil => cases h
  | cons service rest =>
      simp only [parseTokens] at h
      split at h
      · cases h
      next hservice =>
        split at h
        · cases h
        next hversion =>
          split at h
          · cases h
          next type tail hdrop =>
            split at h
            · cases h
            next htype =>
              obtain ⟨⟨resources, action, status⟩, htail, h⟩ := Outcome.bind_ok.1 h
              obtain rfl := Outcome.pure_ok.1 h
              obtain ⟨hnumeral, hnumerals, hrest⟩ := exists_of_dropWhile hdrop
              obtain ⟨hcut, haction, hresources, hempty⟩ := parseTail_ok_iff.1 htail
              obtain ⟨spelled, hspelled, hparts, hfound, hmissed⟩ := exists_cut hcut
              have hsplit := splitAt_join_numerals hversion hnumerals
              refine ⟨⟨hservice, hsplit.symm ▸ hnumerals, htype, hnumeral, hresources, hempty, haction,
                fun hs => (hfound hs).1, fun hn he hlong => hmissed hn he resources action rfl hlong⟩,
                spelled, hspelled, ?_⟩
              rw [Information.tokens_eq, hsplit, ← hparts, ← hrest]

theorem Information.Complete.cut {i : Information} (hi : i.Complete) {spelled : List String}
    (h : Spelling i.status spelled) :
    Cut i.type (i.resources ++ [i.action] ++ spelled) (i.resources ++ [i.action]) i.status spelled where
  spelling := h
  tail_eq := rfl
  found hs := by
    have hlong : 1 ≤ i.resources.length := List.length_pos_iff.2 hi.resources_ne_nil
    refine ⟨hi.status hs, ?_⟩
    rw [List.length_append, List.length_singleton]
    omega
  missed hn he front last hlast hfront := by
    obtain ⟨rfl, heq⟩ := List.append_inj' hlast rfl
    obtain rfl := List.singleton_inj.1 heq
    exact hi.no_status hn he hfront

theorem Information.Complete.parseTokens {i : Information} (hi : i.Complete) {spelled : List String}
    (h : Spelling i.status spelled) : parseTokens (i.tokens spelled) = .ok i := by
  have hversion := Text.splitAt_ne_nil '.' i.version
  have hjoin : join "." (splitAt '.' i.version) = i.version := Text.join_splitAt '.' i.version
  have htail := parseTail_ok_iff.2
    ⟨(hi.cut h).cutStatus_eq, hi.action, hi.resources_ne_nil, hi.resources⟩
  rw [Information.tokens_eq]
  simp only [Topic.parseTokens, takeWhile_version hi.version hi.type_not_numeral,
    dropWhile_version hi.version hi.type_not_numeral, if_neg hi.service, if_neg hversion, if_neg hi.type,
    htail, hjoin]
  rfl

theorem parseTokens_ok_iff {tokens : List String} {i : Information} :
    parseTokens tokens = .ok i ↔
      i.Complete ∧ ∃ spelled, Spelling i.status spelled ∧ tokens = i.tokens spelled := by
  refine ⟨complete_of_parseTokens, ?_⟩
  rintro ⟨hi, spelled, hspelled, rfl⟩
  exact hi.parseTokens hspelled

theorem parse_ok_iff {name : String} {i : Information} :
    parse name = .ok i ↔
      i.Complete ∧ ∃ spelled, Spelling i.status spelled ∧ splitAt '.' name = i.tokens spelled := by
  rw [parse, Outcome.mapError_ok, parseTokens_ok_iff]

/-- No token is empty, the second one is a numeral, and at least three tokens follow the run of numerals that
it starts. -/
structure Grammatical (tokens : List String) : Prop where
  empty_not_mem : "" ∉ tokens
  version : ∃ second, tokens[1]? = some second ∧ isNumeral second = true
  long : 3 ≤ (tokens.tail.dropWhile isNumeral).length

theorem Information.Complete.grammatical {i : Information} (hi : i.Complete) {spelled : List String}
    (h : Spelling i.status spelled) : Grammatical (i.tokens spelled) := by
  obtain ⟨first, more, hversion⟩ := List.exists_cons_of_ne_nil (Text.splitAt_ne_nil '.' i.version)
  have hnumerals := hi.version
  rw [Information.tokens_eq]
  refine ⟨?_, ⟨first, by simp [hversion], hnumerals first (by simp [hversion])⟩, ?_⟩
  · have hempty : "" ∉ splitAt '.' i.version := fun hm => isNumeral_ne_empty (hnumerals "" hm) rfl
    have hspelled := h.empty_not_mem
    simp [hempty, hspelled, hi.resources, Ne.symm hi.service, Ne.symm hi.type, Ne.symm hi.action]
  · rw [List.tail_cons, dropWhile_version hnumerals hi.type_not_numeral]
    have hlong := List.length_pos_iff.2 hi.resources_ne_nil
    simp only [List.length_cons, List.length_append, List.length_nil]
    omega

theorem exists_of_grammatical {tokens : List String} (h : Grammatical tokens) :
    ∃ i, parseTokens tokens = .ok i := by
  obtain ⟨hempty, ⟨second, hsecond, hnumeral⟩, hlong⟩ := h
  cases tokens with
  | nil => cases hsecond
  | cons service rest =>
      cases rest with
      | nil => cases hsecond
      | cons first more =>
          obtain rfl : first = second := by simpa using hsecond
          rw [List.tail_cons] at hlong
          cases hdrop : (first :: more).dropWhile isNumeral with
          | nil => simp [hdrop] at hlong
          | cons type tail =>
              -- The first token that is no numeral is the type; what follows it is long enough for resources and an
              -- action.
              have hversion : (first :: more).takeWhile isNumeral ≠ [] := by
                rw [List.takeWhile_cons, if_pos hnumeral]
                exact List.cons_ne_nil _ _
              have hsub : ∀ token ∈ type :: tail, token ∈ service :: first :: more := by
                rw [← hdrop]
                exact fun token ht => .tail _ ((List.dropWhile_sublist _).subset ht)
              have hne : ∀ token ∈ type :: tail, token ≠ "" := fun token ht he => hempty (he ▸ hsub token ht)
              have hservice : service ≠ "" := fun he => hempty (he ▸ .head _)
              have htail : 2 ≤ tail.length := by
                rw [hdrop, List.length_cons] at hlong
                omega
              obtain ⟨found, hfound⟩ := exists_parseTail type htail
                fun hm => hne "" (.tail _ hm) rfl
              simp only [parseTokens, hdrop, if_neg hservice, if_neg hversion, if_neg (hne type (.head _)), hfound]
              exact ⟨_, rfl⟩

theorem parse_ok_iff_grammatical {name : String} :
    (∃ i, parse name = .ok i) ↔ Grammatical (splitAt '.' name) := by
  constructor
  · rintro ⟨i, hi⟩
    obtain ⟨hcomplete, spelled, hspelled, htokens⟩ := parse_ok_iff.1 hi
    rw [htokens]
    exact hcomplete.grammatical hspelled
  · intro h
    obtain ⟨i, hi⟩ := exists_of_grammatical h
    exact ⟨i, Outcome.mapError_ok.2 hi⟩

theorem text_of_parse {name : String} {i : Information} (h : parse name = .ok i) :
    ∃ spelled, Spelling i.status spelled ∧ i.text spelled = name ∧
      ∀ token ∈ spelled, (splitAt '.' name).getLast? = some token := by
  obtain ⟨-, spelled, hspelled, htokens⟩ := parse_ok_iff.1 h
  refine ⟨spelled, hspelled, ?_, fun token ht => ?_⟩
  · rw [← Information.join_tokens, ← htokens]
    exact Text.join_splitAt '.' name
  · rw [htokens, Information.tokens]
    generalize i.status = status at hspelled
    cases hspelled with
    | absent => cases ht
    | word hname =>
        obtain rfl := List.mem_singleton.1 ht
        rw [List.getLast?_concat]

theorem parse_text {i : Information} (hi : i.Plain) {spelled : List String}
    (h : Spelling i.status spelled) : parse (i.text spelled) = .ok i := by
  refine parse_ok_iff.2 ⟨hi.toComplete, spelled, h, ?_⟩
  rw [← Information.join_tokens]
  exact Text.splitAt_join (by simp [Information.tokens]) (hi.dot_not_mem_tokens h)

theorem grammar_decided (name : String) :
    ((∃ i, parse name = .ok i) ↔ Grammatical (splitAt '.' name)) ∧
    (∀ i, parse name = .ok i → ∃ spelled, Spelling i.status spelled ∧ i.text spelled = name ∧
      ∀ token ∈ spelled, (splitAt '.' name).getLast? = some token) ∧
    ∀ (i : Information) (spelled : List String), i.Plain → Spelling i.status spelled →
      parse (i.text spelled) = .ok i :=
  ⟨parse_ok_iff_grammatical, fun _ h => text_of_parse h, fun _ _ hi h => parse_text hi h⟩

/-- Numerals and status words stand here where they are neither a version nor a status. -/
def crowded : Information where
  service := "7"
  version := "01.0"
  type := "event"
  resources := ["done", "2"]
  action := "failed"
  status := some .queued

theorem plain_crowded : crowded.Plain where
  service := by decide
  version := by decide
  type := by decide
  type_not_numeral := by decide
  resources_ne_nil := by decide
  resources := by decide
  action := by decide
  status := fun _ => rfl
  no_status := fun h => absurd h (by decide)
  undotted := by decide

theorem grammar_decided_crowded :
    Grammatical (splitAt '.' "7.01.0.event.done.2.failed.qUeUed") ∧
      parse "7.01.0.event.done.2.failed.qUeUed" = .ok crowded := by
  have hspelling : Spelling crowded.status ["qUeUed"] := .word (by decide +kernel)
  have htext : crowded.text ["qUeUed"] = "7.01.0.event.done.2.failed.qUeUed" := by decide
  have hdecided := grammar_decided "7.01.0.event.done.2.failed.qUeUed"
  have hparse := hdecided.2.2 crowded ["qUeUed"] plain_crowded hspelling
  rw [htext] at hparse
  exact ⟨hdecided.1.1 ⟨crowded, hparse⟩, hparse⟩

end TopicBindings.Topic
