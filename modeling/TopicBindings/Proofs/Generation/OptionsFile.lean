import Mathlib.Data.List.ReduceOption
import TopicBindings.Generation.OptionsFile
import TopicBindings.Proofs.Markup.Keys

/-!
What a file of settings gives. A mapping is refused exactly for its unknown names and its values of the wrong kind, of
which each is reported once (`problems_eq_complaints`); otherwise every setting is what was given for it last, in the
file or in a later change (`applied_override`).
-/

namespace TopicBindings.Generation.OptionsFile

open File (Path)
open Markup (Data Scalar Value)

def mapping? (s : String) : Option Mapping :=
  match Data.ofText? s with
  | .ok (some d) => match d.value d.root with
    | .mapping entries => some (entries.map fun (key, id) => (key, d.value id))
    | _ => none
  | _ => none

inductive Kind where
  | text
  | boolean

/-- All options, in the order in which wrong values are reported. -/
def options : List (String × Kind) :=
  [(targetKey, .text), (packageKey, .text), (characterSetKey, .text), (validateKey, .boolean), (keepKey, .boolean)]

def Kind.Fits (v : Value) : Kind → Prop
  | .text => ∃ s, v = .scalar (.text s)
  | .boolean => ∃ b, v = .scalar (.bool b)

def Unknown (k : Scalar) : Prop :=
  ∀ o ∈ options, k ≠ .text o.1

/-- An option is set to something other than null that is not of its kind. -/
def IllTyped (m : Mapping) (o : String × Kind) : Prop :=
  ∃ v, (.text o.1, v) ∈ m ∧ v ≠ .scalar .null ∧ ¬ o.2.Fits v

def Faulty (m : Mapping) : Prop :=
  (∃ k ∈ m.keys, Unknown k) ∨ ∃ o ∈ options, IllTyped m o

def kindProblem (label : String) : String × Kind → Problem
  | (key, .text) => .noText label key
  | (key, .boolean) => .noBoolean label key

section Decidable

variable {a : Scalar} {v : Value}

theorem beq_text_iff {s : String} : (a == .text s) = true ↔ a = .text s := by
  cases a with
  | text t =>
      rw [Scalar.text.injEq]
      exact beq_iff_eq (α := String)
  | _ => exact iff_of_false (by rintro ⟨⟩) (by rintro ⟨⟩)

theorem asText?_eq_some_iff {s : String} : asText? v = some s ↔ v = .scalar (.text s) := by
  unfold asText?
  split
  next t => simp
  next hno => exact iff_of_false (by rintro ⟨⟩) (hno s)

theorem asText?_eq_none_iff : asText? v = none ↔ ¬ Kind.text.Fits v := by
  rw [Option.eq_none_iff_forall_ne_some, Kind.Fits, not_exists]
  exact forall_congr' fun _ => not_congr asText?_eq_some_iff

theorem asBoolean?_eq_some_iff {b : Bool} : asBoolean? v = some b ↔ v = .scalar (.bool b) := by
  unfold asBoolean?
  split
  next t => simp
  next hno => exact iff_of_false (by rintro ⟨⟩) (hno b)

theorem asBoolean?_eq_none_iff : asBoolean? v = none ↔ ¬ Kind.boolean.Fits v := by
  rw [Option.eq_none_iff_forall_ne_some, Kind.Fits, not_exists]
  exact forall_congr' fun _ => not_congr asBoolean?_eq_some_iff

def isNull : Value → Bool
  | .scalar .null => true
  | _ => false

theorem isNull_iff : isNull v = true ↔ v = .scalar .null := by
  unfold isNull
  split
  next => simp
  next hno => exact iff_of_false Bool.false_ne_true hno

instance : Decidable (v = .scalar .null) :=
  decidable_of_iff (isNull v = true) isNull_iff

instance (kind : Kind) : Decidable (kind.Fits v) :=
  match kind with
  | .text => decidable_of_iff (¬ asText? v = none) ((not_congr asText?_eq_none_iff).trans not_not)
  | .boolean => decidable_of_iff (¬ asBoolean? v = none) ((not_congr asBoolean?_eq_none_iff).trans not_not)

instance : DecidablePred Unknown := fun k =>
  decidable_of_iff (∀ o ∈ options, (k == .text o.1) ≠ true) (forall₂_congr fun _ _ => not_congr beq_text_iff)

instance (m : Mapping) (o : String × Kind) : Decidable (IllTyped m o) :=
  decidable_of_iff (∃ e ∈ m, (e.1 == .text o.1) = true ∧ e.2 ≠ .scalar .null ∧ ¬ o.2.Fits e.2) (by
    constructor
    · rintro ⟨⟨k, v⟩, he, hk, hv⟩
      obtain rfl := beq_text_iff.1 hk
      exact ⟨v, he, hv⟩
    · rintro ⟨v, he, hv⟩
      exact ⟨_, he, beq_text_iff.2 rfl, hv⟩)

end Decidable

/-- What is wrong with a mapping: every unknown name once, in the order of the text, and after that every option with a
value of the wrong kind, in the order of the options. -/
def complaints (label : String) (m : Mapping) : List Problem :=
  (m.keys.filter Unknown).map (fun k => .unknownOption label k.toText) ++
    (options.filter (IllTyped m)).map (kindProblem label)

section Lookup

variable {v : Value} {m : Mapping} {key : String}

theorem find?_key_eq_some_iff (h : m.KeysApart) {e : Scalar × Value} :
    (m.find? fun e => e.1 == .text key) = some e ↔ e ∈ m ∧ e.1 = .text key := by
  -- The first entry with the name is found; as keys are apart, no other entry has it.
  induction m with
  | nil => simp
  | cons first rest ih =>
      obtain ⟨hfirst, hrest⟩ := List.pairwise_cons.1 h
      rw [List.find?_cons]
      cases hkey : first.1 == .text key with
      | true =>
          have heq := beq_text_iff.1 hkey
          rw [Option.some.injEq]
          constructor
          · rintro rfl
            exact ⟨.head _, heq⟩
          · rintro ⟨he, hname⟩
            rcases List.mem_cons.1 he with rfl | he
            · rfl
            · have happart := hfirst e.1 (List.mem_map_of_mem he)
              rw [hname, hkey] at happart
              cases happart
      | false =>
          rw [ih hrest]
          refine and_congr_left fun hname => ?_
          rw [List.mem_cons, or_iff_right]
          rintro rfl
          rw [beq_text_iff.2 hname] at hkey
          cases hkey

theorem value?_eq_some_iff (h : m.KeysApart) : value? m key = some v ↔ (.text key, v) ∈ m ∧ v ≠ .scalar .null := by
  have hfind : (m.find? fun e => e.1 == .text key).map Prod.snd = some v ↔ (.text key, v) ∈ m := by
    rw [Option.map_eq_some_iff]
    constructor
    · rintro ⟨⟨k, _⟩, hfound, rfl⟩
      obtain ⟨he, rfl⟩ := (find?_key_eq_some_iff h).1 hfound
      exact he
    · intro he
      exact ⟨_, (find?_key_eq_some_iff h).2 ⟨he, rfl⟩, rfl⟩
  rw [← hfind, value?]
  split
  next hnull =>
    rw [hnull, Option.some.injEq]
    exact iff_of_false (by rintro ⟨⟩) fun h => h.2 h.1.symm
  next found hno =>
    refine ⟨fun hv => ⟨hv, ?_⟩, And.left⟩
    rintro rfl
    exact hno hv

end Lookup

section Typed

variable {α : Type} {read : Value → Option α} {problem : Problem} {v? : Option Value}

theorem valueOf_typed : valueOf (typed read problem v?) = v?.bind read := by
  cases v? with
  | none => rfl
  | some v =>
      rw [typed, Option.bind_some]
      cases read v <;> rfl

theorem problemOf_typed {P : Prop} [Decidable P] (h : P ↔ ∃ v, v? = some v ∧ read v = none) :
    problemOf (typed read problem v?) = if P then [problem] else [] := by
  cases v? with
  | none =>
      rw [if_neg (by rw [h]; rintro ⟨_, ⟨⟩, _⟩)]
      rfl
  | some v =>
      rw [typed]
      cases hread : read v with
      | none =>
          rw [if_pos (h.2 ⟨v, rfl, hread⟩)]
          rfl
      | some a =>
          rw [if_neg fun hP => ?_]
          · rfl
          · obtain ⟨_, ⟨⟩, hnone⟩ := h.1 hP
            rw [hread] at hnone
            cases hnone

end Typed

section Problems

variable {m : Mapping} (label key : String)

theorem isKnown_eq_false_iff {k : Scalar} : isKnown k = false ↔ Unknown k := by
  simp [isKnown, keys, Unknown, options, ← beq_text_iff]

theorem unknownNames_eq (m : Mapping) :
    unknownNames label m = (m.keys.filter Unknown).map fun k => .unknownOption label k.toText := by
  rw [unknownNames, Entries.keys, List.filter_map, List.map_map]
  congr 1
  refine List.filter_congr fun e _ => ?_
  rw [Bool.eq_iff_iff, Bool.not_eq_true', Function.comp_apply, decide_eq_true_iff]
  exact isKnown_eq_false_iff

theorem illTyped_iff (h : m.KeysApart) {o : String × Kind} :
    IllTyped m o ↔ ∃ v, value? m o.1 = some v ∧ ¬ o.2.Fits v :=
  exists_congr fun _ => by rw [value?_eq_some_iff h, and_assoc]

theorem problemOf_text (h : m.KeysApart) :
    problemOf (text label m key) = if IllTyped m (key, .text) then [.noText label key] else [] :=
  problemOf_typed ((illTyped_iff h).trans (exists_congr fun _ => and_congr_right fun _ => asText?_eq_none_iff.symm))

theorem problemOf_boolean (h : m.KeysApart) :
    problemOf (boolean label m key) = if IllTyped m (key, .boolean) then [.noBoolean label key] else [] :=
  problemOf_typed ((illTyped_iff h).trans (exists_congr fun _ => and_congr_right fun _ => asBoolean?_eq_none_iff.symm))

theorem map_filter_eq_flatMap {α β : Type} (p : α → Prop) [DecidablePred p] (f : α → β) (xs : List α) :
    (xs.filter p).map f = xs.flatMap fun x => if p x then [f x] else [] := by
  induction xs with
  | nil => rfl
  | cons x rest ih =>
      rw [List.flatMap_cons, ← ih]
      by_cases hp : p x <;> simp [hp]

theorem problems_eq_complaints (h : m.KeysApart) :
    unknownNames label m ++ wrongValues label m = complaints label m := by
  rw [complaints, unknownNames_eq, map_filter_eq_flatMap (IllTyped m), wrongValues]
  simp [problemOf_text, problemOf_boolean, h, options, kindProblem]

theorem complaints_eq_nil_iff : complaints label m = [] ↔ ¬ Faulty m := by
  simp [complaints, Faulty, List.filter_eq_nil_iff]

end Problems

def lastGiven {α : Type} (given : List (Option α)) : Option α :=
  given.reduceOption.getLast?

/-- What a mapping sets a name to, if it does so, seen as one of the values that the name can have. -/
def Says {α : Type} (m : Mapping) (key : String) (wrap : α → Scalar) (said : Option α) : Prop :=
  ∀ a, said = some a ↔ (.text key, .scalar (wrap a)) ∈ m

/-- A target that does not begin with a separator lies in the directory of the file. -/
def located (directory : Option Path) (target : String) : Path :=
  match directory with
  | none => Path.ofText target
  | some base =>
      if target.toList.head? = some '/' then Path.ofText target
      else base.append (Path.ofText target).parts

/-- Settings are what was given last, first by a mapping and then by changes, and else their defaults. -/
structure Applied (directory : Option Path) (m : Mapping) (changes : List Overrides) (o : Options) : Prop where
  targetPath : ∃ said, Says m targetKey .text said ∧
    o.targetPath = lastGiven (said.map (located directory) :: changes.map (·.targetPath))
  basePackage : ∃ said, Says m packageKey .text said ∧
    o.basePackage = lastGiven (said :: changes.map (·.basePackage))
  characterSet : ∃ said, Says m characterSetKey .text said ∧
    o.characterSet = (lastGiven (said :: changes.map (·.characterSet))).getD "utf-8"
  validateTopics : ∃ said, Says m validateKey .bool said ∧
    o.validateTopics = (lastGiven (said :: changes.map (·.validateTopics))).getD true
  keepLiterals : ∃ said, Says m keepKey .bool said ∧
    o.keepLiterals = (lastGiven (said :: changes.map (·.keepLiterals))).getD false

section Changes

theorem lastGiven_cons {α : Type} (x : Option α) (given : List (Option α)) :
    lastGiven (x :: given) = (lastGiven given <|> x) := by
  cases x with
  | none =>
      rw [lastGiven, List.reduceOption_cons_of_none, ← lastGiven]
      cases lastGiven given <;> rfl
  | some a =>
      rw [lastGiven, List.reduceOption_cons_of_some, List.getLast?_cons, ← lastGiven]
      cases lastGiven given <;> rfl

theorem elim_some_eq_orElse {α : Type} (x y : Option α) : x.elim y some = (x <|> y) := by
  cases x <;> rfl

theorem elim_none_some {α : Type} (x : Option α) : x.elim none some = x := by
  cases x <;> rfl

theorem elim_id_eq_getD {α : Type} (x : Option α) (first : α) : x.elim first id = x.getD first := by
  cases x <;> rfl

/-- A setting after changes is what the last change to it gives, whatever the changes do to other settings. -/
theorem foldl_override {β γ : Type} (setting : Options → β) (change : Overrides → Option γ) (wrap : γ → β)
    (hstep : ∀ o c, setting (o.override c) = (change c).elim (setting o) wrap) (changes : List Overrides)
    (o : Options) :
    setting (changes.foldl Options.override o) = (lastGiven (changes.map change)).elim (setting o) wrap := by
  induction changes generalizing o with
  | nil => rfl
  | cons c rest ih =>
      rw [List.foldl_cons, ih, List.map_cons, lastGiven_cons, hstep]
      cases lastGiven (rest.map change) <;> rfl

theorem rootOf_ne_empty_iff (text : List Char) : (Path.rootOf text).isEmpty = false ↔ text.head? = some '/' := by
  cases text with
  | nil => exact iff_of_false (by decide) (by rintro ⟨⟩)
  | cons c rest =>
      rw [Path.rootOf]
      by_cases hc : c = '/'
      · subst hc
        rw [List.takeWhile_cons_of_pos (by decide)]
        refine iff_of_true ?_ rfl
        split
        next hnil => cases hnil
        all_goals decide
      · rw [List.takeWhile_cons_of_neg (by simpa using hc)]
        exact iff_of_false (by decide) fun h => hc (Option.some.inj h)

theorem isAbsolute_ofText (target : String) :
    (Path.ofText target).isAbsolute = true ↔ target.toList.head? = some '/' := by
  rw [Path.isAbsolute, Bool.not_eq_true']
  exact rootOf_ne_empty_iff target.toList

theorem overrides_targetPath (label : String) (directory : Option Path) (m : Mapping) :
    (overrides label directory m).targetPath = (valueOf (text label m targetKey)).map (located directory) := by
  refine congrArg (Option.map · _) (funext fun target => ?_)
  cases directory with
  | none => rfl
  | some base => simp only [Path.join, isAbsolute_ofText, located, Path.append]

theorem says_typed {α : Type} {read : Value → Option α} {wrap : α → Scalar} {m : Mapping} (h : m.KeysApart)
    (key : String) (problem : Problem) (hread : ∀ v a, read v = some a ↔ v = .scalar (wrap a))
    (hnull : ∀ a, wrap a ≠ .null) : Says m key wrap (valueOf (typed read problem (value? m key))) := by
  intro a
  rw [valueOf_typed, Option.bind_eq_some_iff]
  constructor
  · rintro ⟨v, hv, ha⟩
    obtain rfl := (hread v a).1 ha
    exact ((value?_eq_some_iff h).1 hv).1
  · intro he
    exact ⟨_, (value?_eq_some_iff h).2 ⟨he, fun hv => hnull a (Value.scalar.inj hv)⟩, (hread _ a).2 rfl⟩

theorem says_text (label : String) {m : Mapping} (h : m.KeysApart) (key : String) :
    Says m key .text (valueOf (text label m key)) :=
  says_typed h key _ (fun _ _ => asText?_eq_some_iff) nofun

theorem says_boolean (label : String) {m : Mapping} (h : m.KeysApart) (key : String) :
    Says m key .bool (valueOf (boolean label m key)) :=
  says_typed h key _ (fun _ _ => asBoolean?_eq_some_iff) nofun

theorem applied_override (label : String) (directory : Option Path) {m : Mapping} (h : m.KeysApart)
    (changes : List Overrides) :
    Applied directory m changes
      (changes.foldl Options.override (Options.default.override (overrides label directory m))) := by
  rw [← List.foldl_cons]
  have hall {β γ : Type} (setting : Options → β) (change : Overrides → Option γ) (wrap : γ → β) hstep :=
    foldl_override setting change wrap hstep (overrides label directory m :: changes) Options.default
  have htarget := hall Options.targetPath (·.targetPath) some fun _ _ => (elim_some_eq_orElse _ _).symm
  have hpackage := hall Options.basePackage (·.basePackage) some fun _ _ => (elim_some_eq_orElse _ _).symm
  have hname := hall Options.characterSet (·.characterSet) id fun _ _ => (elim_id_eq_getD _ _).symm
  have hvalidate := hall Options.validateTopics (·.validateTopics) id fun _ _ => (elim_id_eq_getD _ _).symm
  have hkeep := hall Options.keepLiterals (·.keepLiterals) id fun _ _ => (elim_id_eq_getD _ _).symm
  rw [List.map_cons, overrides_targetPath] at htarget
  rw [elim_id_eq_getD] at hname hvalidate hkeep
  exact {
    targetPath := ⟨_, says_text label h targetKey, htarget.trans (elim_none_some _)⟩
    basePackage := ⟨_, says_text label h packageKey, hpackage.trans (elim_none_some _)⟩
    characterSet := ⟨_, says_text label h characterSetKey, hname⟩
    validateTopics := ⟨_, says_boolean label h validateKey, hvalidate⟩
    keepLiterals := ⟨_, says_boolean label h keepKey, hkeep⟩ }

end Changes

theorem exists_of_mapping? {s : String} {m : Mapping} (h : mapping? s = some m) :
    ∃ d entries, Data.ofText? s = .ok (some d) ∧ d.value d.root = .mapping entries ∧
      entries.map (fun (key, id) => (key, d.value id)) = m := by
  rw [mapping?] at h
  split at h
  next d hread =>
    split at h
    next entries hroot => exact ⟨d, entries, hread, hroot, Option.some.inj h⟩
    next => cases h
  next => cases h

theorem keysApart_of_mapping? {s : String} {m : Mapping} (h : mapping? s = some m) : m.KeysApart := by
  obtain ⟨d, entries, hread, hroot, rfl⟩ := exists_of_mapping? h
  have happart := Data.keysApart_of_ofText? hread d.root
  rw [hroot] at happart
  rw [Entries.KeysApart, Entries.keys, List.map_map]
  exact happart

theorem ofText_of_mapping? (label : String) (directory : Option Path) {s : String} {m : Mapping}
    (h : mapping? s = some m) : ofText label directory s = (ofMapping label directory m).mapError .problems := by
  obtain ⟨d, entries, hread, hroot, rfl⟩ := exists_of_mapping? h
  rw [ofText, hread]
  dsimp only
  rw [hroot]

/-- What a text with a mapping in it gives: it is refused with all that is wrong with the mapping, and with nothing
else, or there are settings to which later changes may be made. -/
structure Checked (label : String) (directory : Option Path) (s : String) (m : Mapping) : Prop where
  keysApart : m.KeysApart
  refused_iff : (∃ e, ofText label directory s = .error e) ↔ Faulty m
  eq_complaints : ∀ e, ofText label directory s = .error e → e = .problems (complaints label m)
  applied : ¬ Faulty m →
    ∃ o, ofText label directory s = .ok o ∧ ∀ changes, Applied directory m changes (changes.foldl Options.override o)

theorem mapping_checked (label : String) (directory : Option Path) (s : String) (m : Mapping)
    (h : mapping? s = some m) : Checked label directory s m := by
  have happart := keysApart_of_mapping? h
  have hread := ofText_of_mapping? label directory h
  rw [ofMapping, problems_eq_complaints label happart] at hread
  have hnil := complaints_eq_nil_iff label (m := m)
  cases hfound : complaints label m with
  | nil =>
      rw [hfound] at hread
      have hgood := hnil.1 hfound
      have hnone : ∀ e, ofText label directory s ≠ .error e := by
        rintro e he
        rw [hread] at he
        cases he
      exact {
        keysApart := happart
        refused_iff := iff_of_false (fun ⟨e, he⟩ => hnone e he) hgood
        eq_complaints := fun e he => absurd he (hnone e)
        applied := fun _ => ⟨_, hread, applied_override label directory happart⟩ }
  | cons first rest =>
      rw [hfound] at hread
      have hbad := not_not.1 (mt hnil.2 (by rw [hfound]; exact List.cons_ne_nil first rest))
      exact {
        keysApart := happart
        refused_iff := iff_of_true ⟨_, hread⟩ hbad
        eq_complaints := fun e he => by
          rw [hread] at he
          rw [hfound]
          exact (Except.error.inj he).symm
        applied := fun hgood => absurd hbad hgood }

/-- Two unknown names and two values of the wrong kind among nulls. -/
def refusedSample : String :=
  "color: blue\ntarget-path: 5\n1: ~\nbase-package: ~\nvalidate-topic-syntax: never\n"

def acceptedSample : String :=
  "target-path: out\nbase-package: ~\nvalidate-topic-syntax: false\n"

theorem sample_mappings_checked :
    (∃ m, mapping? refusedSample = some m ∧ complaints "settings.yaml" m =
        [.unknownOption "settings.yaml" "color", .unknownOption "settings.yaml" "1", .noText "settings.yaml" targetKey,
          .noBoolean "settings.yaml" validateKey] ∧
      Checked "settings.yaml" (some (Path.ofText "/work")) refusedSample m) ∧
    (∃ m, mapping? acceptedSample = some m ∧ complaints "settings.yaml" m = [] ∧
      Checked "settings.yaml" (some (Path.ofText "/work")) acceptedSample m) ∧
    (ofText "settings.yaml" (some (Path.ofText "/work")) acceptedSample).toOption =
      some ⟨some (Path.ofText "/work/out"), none, "utf-8", false, false⟩ := by
  have hrefused : (mapping? refusedSample).map (complaints "settings.yaml") =
      some [.unknownOption "settings.yaml" "color", .unknownOption "settings.yaml" "1",
        .noText "settings.yaml" targetKey, .noBoolean "settings.yaml" validateKey] := by
    decide +kernel
  have haccepted : (mapping? acceptedSample).map (complaints "settings.yaml") = some [] := by
    decide +kernel
  obtain ⟨m, hm, hcomplaints⟩ := Option.map_eq_some_iff.1 hrefused
  obtain ⟨m', hm', hcomplaints'⟩ := Option.map_eq_some_iff.1 haccepted
  exact ⟨⟨m, hm, hcomplaints, mapping_checked _ _ _ _ hm⟩, ⟨m', hm', hcomplaints', mapping_checked _ _ _ _ hm'⟩,
    by decide +kernel⟩

end TopicBindings.Generation.OptionsFile
