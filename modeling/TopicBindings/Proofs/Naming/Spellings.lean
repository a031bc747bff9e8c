import TopicBindings.Proofs.Naming.AsciiCase

/-!
One identifier in several spellings. The words of joined words are the words of each, so that only a change of case can
alter them: capitals never do, and small letters only part a word into its letters and its digits, which camel case puts
together again. An identifier of ASCII in any of the spellings is therefore the same identifier (`spellings_agree`).
-/

namespace TopicBindings.Naming

section Joined

variable {p q w : List Char}

theorem words_append_of_ends (h : ∀ c ∈ p.getLast?, isKept c = true → Ends c q) :
    words (p ++ q) = words p ++ words q := by
  -- The induction is on the text in front; where a word of it goes on, it is as long with the rest behind as without.
  induction p with
  | nil => rfl
  | cons c rest ih =>
      cases rest with
      | nil =>
          cases hc : isKept c with
          | false => rw [List.singleton_append, words_cons_other hc, words_cons_other hc]; rfl
          | true => rw [List.singleton_append, words_cons_of_ends hc (h c rfl hc), words_cons hc]; rfl
      | cons d more =>
          have hrest : words (d :: (more ++ q)) = words (d :: more) ++ words q := ih (by simpa using h)
          rw [List.cons_append, List.cons_append]
          cases hc : isKept c with
          | false => rw [words_cons_other hc, words_cons_other hc, hrest]
          | true =>
              by_cases hends : Ends c (d :: more)
              · have hlonger : Ends c (d :: (more ++ q)) := hends
                rw [words_cons_of_ends hc hends, words_cons_of_ends hc hlonger, hrest, List.cons_append]
              · simp only [Ends, List.head?_cons, Option.mem_some_iff, forall_eq', not_forall] at hends
                obtain ⟨hd, hparted⟩ := hends
                obtain ⟨w, others, hwords⟩ := exists_words_cons hd more
                rw [hwords] at hrest
                rw [words_cons_cons hc hd hparted hwords, words_cons_cons hc hd hparted hrest]
                rfl

theorem words_intercalate {sep : Char} (hsep : isKept sep = false) (parts : List (List Char)) :
    words (List.intercalate [sep] parts) = parts.flatMap words := by
  induction parts with
  | nil => rfl
  | cons part rest ih =>
      cases rest with
      | nil => simp
      | cons next others =>
          have hends : ∀ c ∈ part.getLast?, isKept c = true →
              Ends c (sep :: List.intercalate [sep] (next :: others)) := by
            intro c _ _ d hd hkept
            obtain rfl := Option.some.inj hd
            rw [hsep] at hkept
            cases hkept
          rw [List.intercalate_cons_cons, List.append_assoc, List.singleton_append, words_append_of_ends hends,
            words_cons_other hsep, ih]
          rfl

theorem words_of_isChain (hkept : ∀ c ∈ w, isKept c = true)
    (hchain : w.IsChain fun c d => ¬ (Class.of c).Parted (Class.of d)) : words w = consWord w [] := by
  induction w with
  | nil => rfl
  | cons c rest ih =>
      obtain ⟨hc, hrest⟩ := List.forall_mem_cons.1 hkept
      cases rest with
      | nil => rw [words_cons hc]; rfl
      | cons d more =>
          obtain ⟨hparted, htail⟩ := List.isChain_cons_cons.1 hchain
          exact words_cons_cons hc (hkept d (.tail _ (.head _))) hparted (ih hrest htail)

theorem words_of_class {k : Class} (hk : k ≠ .other) (hw : ∀ c ∈ w, Class.of c = k) :
    words w = consWord w [] := by
  have hkept : ∀ c ∈ w, isKept c = true := fun c hc => isKept_iff.2 (hw c hc ▸ hk)
  refine words_of_isChain hkept (List.Pairwise.isChain (List.pairwise_of_forall_mem_list fun c hc d hd => ?_))
  rw [hw c hc, hw d hd]
  cases k <;> simp [Class.Parted]

end Joined

section Cases

variable {s w : List Char}

theorem Ascii.of_mem_words (hs : Ascii s) (hw : w ∈ words s) : Ascii w := by
  intro c hc
  have hmem : c ∈ s.filter isKept := flatten_words s ▸ List.mem_flatten.2 ⟨w, hw, hc⟩
  exact hs c (List.mem_of_mem_filter hmem)

theorem Class.parted_of_raised {a b : Class} (h : a.raised.Parted b.raised) : a.Parted b := by
  revert h
  cases a <;> cases b <;> simp [Class.raised, Class.Parted]

theorem words_upperText (hs : Ascii s) (hw : w ∈ words s) : words (upperText w) = [upperText w] := by
  have hascii := hs.of_mem_words hw
  have hkept : ∀ c ∈ w.map Char.toUpper, isKept c = true :=
    List.forall_mem_map.2 fun c hc => isKept_toUpper (hascii c hc) (isKept_of_mem_words hw c hc)
  have hchain : (w.map Char.toUpper).IsChain fun c d => ¬ (Class.of c).Parted (Class.of d) := by
    rw [List.isChain_map]
    refine (not_parted_of_mem_words hw).imp_of_mem_imp fun c d hc hd hnot hparted => hnot ?_
    rw [class_toUpper (hascii c hc), class_toUpper (hascii d hd)] at hparted
    exact Class.parted_of_raised hparted
  rw [upperText_eq hascii, words_of_isChain hkept hchain, consWord, if_neg]
  simpa using words_ne_nil s w hw

theorem words_joinWords_upperText (hs : Ascii s) : words (joinWords '_' upperText s) = (words s).map upperText := by
  rw [joinWords, words_intercalate (by decide), List.flatMap_map, List.map_eq_flatMap]
  exact List.flatMap_congr fun w hw => words_upperText hs hw

end Cases

section Headings

variable {head : List Char → List Char} {s w x y : List Char}

def camel (head : List Char → List Char) : List (List Char) → List Char
  | [] => []
  | w :: more => head w ++ more.flatMap capitalize

theorem camelWith_eq (head : List Char → List Char) (s : List Char) : camelWith head s = camel head (words s) := by
  rw [camelWith]
  cases words s <;> rfl

theorem camel_capitalize (ws : List (List Char)) : camel capitalize ws = ws.flatMap capitalize := by
  cases ws <;> rfl

/-- A way to write a first word to which neither the case nor a division behind the first letter makes a difference. -/
structure Heading (head : List Char → List Char) : Prop where
  append : ∀ {x y}, Ascii x → Ascii y → x ≠ [] → head (x ++ y) = head x ++ lowerText y
  lowerText : ∀ {w}, Ascii w → head (lowerText w) = head w
  upperText : ∀ {w}, Ascii w → head (upperText w) = head w

theorem map_toLower_map_toLower (hs : Ascii s) : (s.map Char.toLower).map Char.toLower = s.map Char.toLower := by
  rw [List.map_map]
  exact List.map_congr_left fun c hc => toLower_toLower_ascii (hs c hc)

theorem map_toUpper_map_toLower (hs : Ascii s) : (s.map Char.toUpper).map Char.toLower = s.map Char.toLower := by
  rw [List.map_map]
  exact List.map_congr_left fun c hc => toUpper_toLower_ascii (hs c hc)

theorem heading_of_first {first : Char → Char}
    (hhead : ∀ c s, Ascii (c :: s) → head (c :: s) = first c :: s.map Char.toLower)
    (hlower : ∀ c : Char, c.toNat < 128 → first c.toLower = first c)
    (hupper : ∀ c : Char, c.toNat < 128 → first c.toUpper = first c) : Heading head where
  append {x y} hx hy hne := by
    obtain ⟨c, s, rfl⟩ := List.exists_cons_of_ne_nil hne
    have hxy : Ascii (c :: (s ++ y)) := fun d hd => (List.mem_append.1 hd).elim (hx d) (hy d)
    rw [List.cons_append, hhead c _ hxy, hhead c s hx, lowerText_eq hy, List.map_append, List.cons_append]
  lowerText {w} hw := by
    cases w with
    | nil => rfl
    | cons c s =>
        have hmap := hw.map_toLower
        rw [List.map_cons] at hmap
        rw [lowerText_eq hw, List.map_cons, hhead _ _ hmap, hlower c (hw c (.head _)), map_toLower_map_toLower hw.tail,
          hhead c s hw]
  upperText {w} hw := by
    cases w with
    | nil => rfl
    | cons c s =>
        have hmap := hw.map_toUpper
        rw [List.map_cons] at hmap
        rw [upperText_eq hw, List.map_cons, hhead _ _ hmap, hupper c (hw c (.head _)), map_toUpper_map_toLower hw.tail,
          hhead c s hw]

theorem heading_capitalize : Heading capitalize :=
  heading_of_first (fun _ _ => capitalize_cons) (fun _ => toLower_toUpper_ascii) fun _ => toUpper_toUpper_ascii

theorem heading_uncapitalize : Heading uncapitalize :=
  heading_of_first (fun _ _ => uncapitalize_cons) (fun _ => toLower_toLower_ascii) fun _ => toUpper_toLower_ascii

theorem flatMap_consWord (f : List Char → List Char) (hnil : f [] = []) (w : List Char) :
    (consWord w []).flatMap f = f w := by
  rw [consWord]
  split
  next h => rw [List.isEmpty_iff.1 h, hnil]; rfl
  next => simp

theorem class_map_toLower {k : Class} (hs : Ascii s) (h : ∀ c ∈ s, (Class.of c).lowered = k) :
    ∀ c ∈ s.map Char.toLower, Class.of c = k :=
  List.forall_mem_map.2 fun c hc => (class_toLower (hs c hc)).trans (h c hc)

theorem capitalize_of_digits (hs : Ascii s) (h : ∀ c ∈ s, Class.of c = .digit) : capitalize s = lowerText s := by
  cases s with
  | nil => rfl
  | cons c rest =>
      have hc := hs c (.head _)
      have hclass := h c (.head _)
      have hupper : c.toUpper = c := (toUpper_eq_self_iff hc).2 (by simp [hclass])
      have hlower : c.toLower = c := (toLower_eq_self_iff hc).2 (by simp [hclass])
      rw [capitalize_cons hs, lowerText_eq hs, List.map_cons, hupper, hlower]

theorem camel_words_of_class {k : Class} (hhead : Heading head) (hs : Ascii s) (hne : s ≠ []) (hk : k ≠ .other)
    (h : ∀ c ∈ s, (Class.of c).lowered = k) : camel head (words (lowerText s)) = head s := by
  have hword : words (lowerText s) = [lowerText s] := by
    rw [lowerText_eq hs, words_of_class hk (class_map_toLower hs h), consWord, if_neg (by simpa using hne)]
  rw [hword, camel, List.flatMap_nil, List.append_nil, hhead.lowerText hs]

theorem camel_words_of_digits (hhead : Heading head) (hx : Ascii x) (hy : Ascii y) (hne : x ≠ [])
    (hcapitals : ∀ c ∈ x, Class.of c = .upper) (hdigits : ∀ c ∈ y, Class.of c = .digit) :
    camel head (words (lowerText (x ++ y))) = head (x ++ y) := by
  have hxy : Ascii (x ++ y) := fun c hc => (List.mem_append.1 hc).elim (hx c) (hy c)
  have hlower : ∀ c ∈ x.map Char.toLower, Class.of c = .lower :=
    class_map_toLower hx fun c hc => by rw [hcapitals c hc]; rfl
  have hdigit : ∀ c ∈ y.map Char.toLower, Class.of c = .digit :=
    class_map_toLower hy fun c hc => by rw [hdigits c hc]; rfl
  have hends : ∀ c ∈ (x.map Char.toLower).getLast?, isKept c = true → Ends c (y.map Char.toLower) := by
    intro c hc _ d hd _
    rw [hlower c (List.mem_of_getLast? hc), hdigit d (List.mem_of_head? hd)]
    exact .inl ⟨rfl, .inr rfl⟩
  have hwords : words (lowerText (x ++ y)) = lowerText x :: consWord (lowerText y) [] := by
    rw [lowerText_eq hxy, List.map_append, words_append_of_ends hends, words_of_class (by decide) hlower,
      words_of_class (by decide) hdigit, consWord, if_neg (by simpa using hne), lowerText_eq hx, lowerText_eq hy]
    rfl
  rw [hwords, camel, flatMap_consWord capitalize rfl, heading_capitalize.lowerText hy, capitalize_of_digits hy hdigits,
    hhead.lowerText hx, hhead.append hx hy hne]

/-- In small letters a word falls into its letters and its digits at most, which camel case puts together. -/
theorem camel_words_lowerText (hhead : Heading head) (hs : Ascii s) (hw : w ∈ words s) :
    camel head (words (lowerText w)) = head w := by
  have hascii := hs.of_mem_words hw
  have hne := words_ne_nil s w hw
  obtain ⟨capitals, rest, rfl, hcapitals, hrest⟩ := shaped_of_mem_words hw
  rcases hrest with hlower | hdigits
  · refine camel_words_of_class hhead hascii hne (k := .lower) (by decide) fun c hc => ?_
    rcases List.mem_append.1 hc with hc | hc
    · rw [hcapitals c hc]; rfl
    · rw [hlower c hc]; rfl
  · rcases eq_or_ne capitals [] with rfl | hcapital
    · rw [List.nil_append] at hascii hne ⊢
      exact camel_words_of_class hhead hascii hne (k := .digit) (by decide) fun c hc => by rw [hdigits c hc]; rfl
    · have hx : Ascii capitals := fun c hc => hascii c (List.mem_append_left _ hc)
      have hy : Ascii rest := fun c hc => hascii c (List.mem_append_right _ hc)
      exact camel_words_of_digits hhead hx hy hcapital hcapitals hdigits

theorem camel_flatMap {f : List Char → List (List Char)} {ws : List (List Char)}
    (h : ∀ w ∈ ws, camel head (f w) = head w ∧ camel capitalize (f w) = capitalize w ∧ f w ≠ []) :
    camel head (ws.flatMap f) = camel head ws := by
  cases ws with
  | nil => rfl
  | cons w more =>
      obtain ⟨⟨hfirst, -, hne⟩, hmore⟩ := List.forall_mem_cons.1 h
      have hrest : (more.flatMap f).flatMap capitalize = more.flatMap capitalize := by
        rw [List.flatMap_assoc]
        exact List.flatMap_congr fun v hv => camel_capitalize (f v) ▸ (hmore v hv).2.1
      obtain ⟨x, xs, hx⟩ := List.exists_cons_of_ne_nil hne
      rw [hx] at hfirst
      rw [List.flatMap_cons, hx, List.cons_append, camel, List.flatMap_append, hrest, ← List.append_assoc, camel,
        ← hfirst]
      rfl

theorem camelWith_joinWords_lowerText {sep : Char} (hsep : isKept sep = false) (hhead : Heading head) (hs : Ascii s) :
    camelWith head (joinWords sep lowerText s) = camelWith head s := by
  rw [camelWith_eq, joinWords, words_intercalate hsep, List.flatMap_map, camelWith_eq]
  refine camel_flatMap fun w hw => ?_
  have hword := camel_words_lowerText heading_capitalize hs hw
  refine ⟨camel_words_lowerText hhead hs hw, hword, fun hnil => ?_⟩
  rw [hnil] at hword
  obtain ⟨c, rest, rfl⟩ := List.exists_cons_of_ne_nil (words_ne_nil s w hw)
  rw [capitalize_cons (hs.of_mem_words hw)] at hword
  cases hword

theorem camelWith_joinWords_upperText (hhead : Heading head) (hs : Ascii s) :
    camelWith head (joinWords '_' upperText s) = camelWith head s := by
  rw [camelWith_eq, words_joinWords_upperText hs, List.map_eq_flatMap, camelWith_eq]
  refine camel_flatMap fun w hw => ?_
  have hascii := hs.of_mem_words hw
  exact ⟨by rw [camel, List.flatMap_nil, List.append_nil, hhead.upperText hascii],
    by rw [camel, List.flatMap_nil, List.append_nil, heading_capitalize.upperText hascii], List.cons_ne_nil _ _⟩

theorem joinWords_joinWords_upperText {sep : Char} {change : List Char → List Char} (hs : Ascii s)
    (hchange : ∀ w, Ascii w → change (upperText w) = change w) :
    joinWords sep change (joinWords '_' upperText s) = joinWords sep change s := by
  rw [joinWords, words_joinWords_upperText hs, List.map_map, joinWords]
  exact congrArg _ (List.map_congr_left fun w hw => hchange w (hs.of_mem_words hw))

end Headings

/-- The spelling of an identifier in capitals has its words, and no style tells the two apart; camel case does not tell
the identifier from its spellings in small letters either. -/
structure SpellingsAgree (s : String) : Prop where
  words_capitals : splitWords (upperUnderscore s) = (splitWords s).map toUpper
  lowerCamel_capitals : lowerCamel (upperUnderscore s) = lowerCamel s
  typeName_capitals : typeName (upperUnderscore s) = typeName s
  upperUnderscore_capitals : upperUnderscore (upperUnderscore s) = upperUnderscore s
  lowerDash_capitals : lowerDash (upperUnderscore s) = lowerDash s
  lowerUnderscore_capitals : lowerUnderscore (upperUnderscore s) = lowerUnderscore s
  lowerCamel_dash : lowerCamel (lowerDash s) = lowerCamel s
  typeName_dash : typeName (lowerDash s) = typeName s
  lowerCamel_lowLine : lowerCamel (lowerUnderscore s) = lowerCamel s
  typeName_lowLine : typeName (lowerUnderscore s) = typeName s

theorem upperText_upperText {s : List Char} (hs : Ascii s) : upperText (upperText s) = upperText s := by
  rw [upperText_eq hs, upperText_eq hs.map_toUpper, List.map_map]
  exact List.map_congr_left fun c hc => toUpper_toUpper_ascii (hs c hc)

theorem lowerText_upperText {s : List Char} (hs : Ascii s) : lowerText (upperText s) = lowerText s := by
  rw [upperText_eq hs, lowerText_eq hs.map_toUpper, map_toUpper_map_toLower hs, lowerText_eq hs]

theorem splitWords_upperUnderscore {s : String} (hs : Ascii s.toList) :
    splitWords (upperUnderscore s) = (splitWords s).map toUpper := by
  rw [splitWords, upperUnderscore, String.toList_ofList, words_joinWords_upperText hs, splitWords, List.map_map,
    List.map_map]
  refine List.map_congr_left fun w _ => ?_
  rw [Function.comp, Function.comp, toUpper, String.toList_ofList]

theorem spellings_agree {s : String} (hs : Ascii s.toList) : SpellingsAgree s where
  words_capitals := splitWords_upperUnderscore hs
  lowerCamel_capitals := by
    rw [lowerCamel, upperUnderscore, String.toList_ofList, camelWith_joinWords_upperText heading_uncapitalize hs,
      lowerCamel]
  typeName_capitals := by
    rw [typeName, upperUnderscore, String.toList_ofList, camelWith_joinWords_upperText heading_capitalize hs, typeName]
  upperUnderscore_capitals := by
    rw [upperUnderscore, upperUnderscore, String.toList_ofList,
      joinWords_joinWords_upperText hs fun _ => upperText_upperText]
  lowerDash_capitals := by
    rw [lowerDash, upperUnderscore, String.toList_ofList,
      joinWords_joinWords_upperText hs fun _ => lowerText_upperText, lowerDash]
  lowerUnderscore_capitals := by
    rw [lowerUnderscore, upperUnderscore, String.toList_ofList,
      joinWords_joinWords_upperText hs fun _ => lowerText_upperText, lowerUnderscore]
  lowerCamel_dash := by
    rw [lowerCamel, lowerDash, String.toList_ofList, camelWith_joinWords_lowerText (by decide) heading_uncapitalize hs,
      lowerCamel]
  typeName_dash := by
    rw [typeName, lowerDash, String.toList_ofList, camelWith_joinWords_lowerText (by decide) heading_capitalize hs,
      typeName]
  lowerCamel_lowLine := by
    rw [lowerCamel, lowerUnderscore, String.toList_ofList,
      camelWith_joinWords_lowerText (by decide) heading_uncapitalize hs, lowerCamel]
  typeName_lowLine := by
    rw [typeName, lowerUnderscore, String.toList_ofList,
      camelWith_joinWords_lowerText (by decide) heading_capitalize hs, typeName]

/-- The words `HTTP2` and `V1` fall into two each in small letters. -/
theorem spellings_agree_sample :
    Ascii "httpHTTP2xV1--b3C_d".toList ∧
      splitWords (upperUnderscore "httpHTTP2xV1--b3C_d") = ["HTTP", "HTTP2", "X", "V1", "B", "3", "C", "D"] ∧
      lowerDash "httpHTTP2xV1--b3C_d" = "http-http2-x-v1-b-3-c-d" ∧
      splitWords (lowerDash "httpHTTP2xV1--b3C_d") =
        ["http", "http", "2", "x", "v", "1", "b", "3", "c", "d"] ∧
      SpellingsAgree "httpHTTP2xV1--b3C_d" := by
  have hs : Ascii "httpHTTP2xV1--b3C_d".toList := by decide
  refine ⟨hs, ?_, ?_, ?_, spellings_agree hs⟩
  · decide +kernel
  · decide +kernel
  · decide +kernel

end TopicBindings.Naming
