import TopicBindings.Proofs.Declaration.Mentions
import TopicBindings.Proofs.Outcome
import TopicBindings.Proofs.Source.Layout
import TopicBindings.Source.Module

/-!
A module imports the home of every name that its declaration mentions, unless the name is built in or the
module is the home itself.
-/

namespace TopicBindings.Source

open Binding (QualifiedName TypeExpression)
open Declaration (Decorator Method Shape mentions mentionsAll)

theorem mem_modulesOf {names : List QualifiedName} {m : String} :
    m ∈ modulesOf names ↔ ∃ n ∈ names, moduleOf n = .ok (some m) := by
  simp only [modulesOf, List.mem_filterMap]
  constructor
  · rintro ⟨n, hn, h⟩
    refine ⟨n, hn, ?_⟩
    cases hm : moduleOf n with
    | ok m? =>
        rw [hm] at h
        exact congrArg Except.ok h
    | error fault =>
        rw [hm] at h
        cases h
  · rintro ⟨n, hn, h⟩
    exact ⟨n, hn, by rw [h]; rfl⟩

theorem mem_sortedModules {modules : List String} {m : String} :
    m ∈ sortedModules modules ↔ m ∈ modules := by
  rw [sortedModules, List.mem_mergeSort, List.mem_eraseDups]

section Located

variable {home : String}

def HasModule (n : QualifiedName) : Prop :=
  ∃ m?, moduleOf n = .ok m?

theorem hasModule_of_check {names : List QualifiedName} (h : checkModules names = .ok ()) :
    ∀ n ∈ names, HasModule n := by
  intro n hn
  obtain ⟨m?, hm, -⟩ := Outcome.map_ok.1 (Outcome.forM_ok.1 h n hn)
  exact ⟨m?, hm⟩

theorem hasModule_of_typeText {e : TypeExpression} {text : String} (h : typeText home e = .ok text) :
    ∀ n ∈ e.references, HasModule n := by
  obtain ⟨_, hcheck, -⟩ := Outcome.bind_ok.1 h
  exact hasModule_of_check hcheck

theorem hasModule_of_decorators {decorators : List Decorator} {texts : List String}
    (h : decorators.mapM (decorator home) = .ok texts) :
    ∀ n ∈ decorators.map Decorator.target, HasModule n := by
  intro n hn
  obtain ⟨d, hd, rfl⟩ := List.mem_map.1 hn
  obtain ⟨text, -, htext⟩ := Outcome.exists_of_forall₂ (Outcome.mapM_ok.1 h).flip hd
  obtain ⟨_, hcheck, -⟩ := Outcome.bind_ok.1 htext
  exact hasModule_of_check hcheck _ (.head _)

theorem hasModule_of_methodText {m : Method} {text : String} (h : methodText home m = .ok text) :
    ∀ n ∈ m.mentions, HasModule n := by
  obtain ⟨decorators, hdecorators, h⟩ := Outcome.bind_ok.1 h
  obtain ⟨name, -, h⟩ := Outcome.bind_ok.1 h
  obtain ⟨parameters, hparameters, h⟩ := Outcome.bind_ok.1 h
  intro n hn
  rcases List.mem_append.1 hn with hn | hn
  · rcases List.mem_append.1 hn with hn | hn
    · obtain ⟨p, hp, hn⟩ := List.mem_flatMap.1 hn
      obtain ⟨_, -, hp⟩ := Outcome.exists_of_forall₂ (Outcome.mapM_ok.1 hparameters).flip hp
      obtain ⟨_, -, hp⟩ := Outcome.bind_ok.1 hp
      obtain ⟨text, htext, -⟩ := Outcome.bind_ok.1 hp
      exact hasModule_of_typeText htext n hn
    · cases hreturns : m.returns with
      | none =>
          rw [hreturns] at hn
          cases hn
      | some e =>
          rw [hreturns] at hn
          simp only [hreturns] at h
          obtain ⟨result, hresult, -⟩ := Outcome.bind_ok.1 h
          exact hasModule_of_typeText hresult n hn
  · exact hasModule_of_decorators hdecorators n hn

theorem hasModule_of_classText {name : QualifiedName} {doc : Declaration.Doc} {shape : Shape}
    {pieces : List Piece} {text : String} (h : classText home name doc shape pieces = .ok text) :
    ∀ n ∈ shape.mentions, HasModule n := by
  obtain ⟨decorators, hdecorators, h⟩ := Outcome.bind_ok.1 h
  obtain ⟨className, -, h⟩ := Outcome.bind_ok.1 h
  obtain ⟨bases, hbases, -⟩ := Outcome.bind_ok.1 h
  intro n hn
  rcases List.mem_append.1 hn with hn | hn
  · obtain ⟨e, he, hn⟩ := List.mem_flatMap.1 hn
    obtain ⟨text, -, htext⟩ := Outcome.exists_of_forall₂ (Outcome.mapM_ok.1 hbases).flip he
    exact hasModule_of_typeText htext n hn
  · exact hasModule_of_decorators hdecorators n hn

mutual

theorem hasModule_of_piece : ∀ (d : Declaration) {piece : Piece}, pieceOf home d = .ok piece →
    ∀ n ∈ mentions d, HasModule n
  | .type name doc shape members, _, h, n, hn => by
      obtain ⟨pieces, text, hpieces, htext, -⟩ := pieceOf_type_ok.1 h
      rcases List.mem_append.1 hn with hn | hn
      · exact hasModule_of_classText htext n hn
      · exact hasModule_of_pieces members hpieces n hn
  | .enumeration .., _, _, n, hn => by
      obtain rfl := List.mem_singleton.1 hn
      exact ⟨some "enum", rfl⟩
  | .field f, _, h, n, hn => by
      obtain ⟨text, htext, -⟩ := pieceOf_field_ok.1 h
      obtain ⟨name, -, htext⟩ := Outcome.bind_ok.1 htext
      obtain ⟨type, htype, -⟩ := Outcome.bind_ok.1 htext
      exact hasModule_of_typeText htype n hn
  | .method m, _, h, n, hn => by
      obtain ⟨text, htext, -⟩ := pieceOf_method_ok.1 h
      exact hasModule_of_methodText htext n hn
  | .raw content, _, h, n, hn => hasModule_of_check (pieceOf_raw_ok.1 h).1 n hn

theorem hasModule_of_pieces : ∀ (ds : List Declaration) {pieces : List Piece},
    piecesOf home ds = .ok pieces → ∀ n ∈ mentionsAll ds, HasModule n
  | [], _, _, _, hn => by cases hn
  | d :: rest, _, h, n, hn => by
      obtain ⟨piece, others, hpiece, hothers, -⟩ := piecesOf_cons_ok.1 h
      rcases List.mem_append.1 hn with hn | hn
      · exact hasModule_of_piece d hpiece n hn
      · exact hasModule_of_pieces rest hothers n hn

end

end Located

mutual

theorem needed_or_annotated {home m : String} : ∀ (d : Declaration) {n : QualifiedName},
    n ∈ mentions d → moduleOf n = .ok (some m) →
      m = home ∨ m ∈ runtimeModules home d ∨ n ∈ annotatedNames d
  | .type name doc shape members, n, hn, hm => by
      -- A type mentions its bases, the names in its decorators, and what its members mention.
      rw [runtimeModules]
      rcases List.mem_append.1 hn with hn | hn
      · rcases List.mem_append.1 hn with hn | hn
        · by_cases hhome : m = home
          · exact .inl hhome
          · have hbase : m ∈ modulesOf (shape.bases.flatMap TypeExpression.references) :=
              mem_modulesOf.2 ⟨n, hn, hm⟩
            refine .inr (.inl (List.mem_append_right _ (List.mem_filter.2 ⟨hbase, ?_⟩)))
            simpa using hhome
        · refine .inr (.inl (List.mem_append_left _ (List.mem_append_right _ ?_)))
          exact mem_modulesOf.2 ⟨n, hn, hm⟩
      · rcases needed_or_annotatedAll members hn hm with h | h | h
        · exact .inl h
        · exact .inr (.inl (List.mem_append_left _ (List.mem_append_left _ h)))
        · exact .inr (.inr h)
  | .enumeration .., n, hn, hm => by
      obtain rfl := List.mem_singleton.1 hn
      obtain rfl := Option.some.inj (Except.ok.inj hm)
      exact .inr (.inl (.head _))
  | .field f, _, hn, _ => .inr (.inr hn)
  | .method method, n, hn, hm => by
      rcases List.mem_append.1 hn with hn | hn
      · exact .inr (.inr hn)
      · exact .inr (.inl (mem_modulesOf.2 ⟨n, hn, hm⟩))
  | .raw content, n, hn, hm => .inr (.inl (mem_modulesOf.2 ⟨n, hn, hm⟩))

theorem needed_or_annotatedAll {home m : String} : ∀ (ds : List Declaration) {n : QualifiedName},
    n ∈ mentionsAll ds → moduleOf n = .ok (some m) →
      m = home ∨ m ∈ runtimeModulesAll home ds ∨ n ∈ annotatedNamesAll ds
  | [], _, hn, _ => by cases hn
  | d :: rest, n, hn, hm => by
      rw [runtimeModulesAll, annotatedNamesAll, List.mem_append, List.mem_append]
      rcases List.mem_append.1 hn with hn | hn
      · rcases needed_or_annotated d hn hm with h | h | h
        · exact .inl h
        · exact .inr (.inl (.inl h))
        · exact .inr (.inr (.inl h))
      · rcases needed_or_annotatedAll rest hn hm with h | h | h
        · exact .inl h
        · exact .inr (.inl (.inr h))
        · exact .inr (.inr (.inr h))

end

section Lists

variable {home m : String} {d : Declaration}

theorem mem_runtimeImports_iff : m ∈ runtimeImports home d ↔
    m ∈ runtimeModules home d ∨ m = "typing" ∧ checkingImports home d ≠ [] := by
  rw [runtimeImports, mem_sortedModules]
  split
  next hempty => simp [List.isEmpty_iff.1 hempty]
  next hchecking => rw [List.mem_cons, or_comm, and_iff_left (by simpa using hchecking)]

theorem mem_checkingImports_iff : m ∈ checkingImports home d ↔
    (∃ n ∈ annotatedNames d, moduleOf n = .ok (some m)) ∧ m ≠ home ∧ m ∉ runtimeModules home d := by
  rw [checkingImports, mem_sortedModules, List.mem_filter, mem_modulesOf]
  simp

theorem mem_runtimeImports (h : m ∈ runtimeModules home d) : m ∈ runtimeImports home d :=
  mem_runtimeImports_iff.2 (.inl h)

theorem mem_imports_of_mention {n : QualifiedName} (hn : n ∈ mentions d) (hm : moduleOf n = .ok (some m))
    (hhome : m ≠ home) : m ∈ runtimeImports home d ∨ m ∈ checkingImports home d := by
  by_cases hneeded : m ∈ runtimeModules home d
  · exact .inl (mem_runtimeImports hneeded)
  · rcases needed_or_annotated d hn hm with h | h | h
    · exact absurd h hhome
    · exact absurd h hneeded
    · exact .inr (mem_checkingImports_iff.2 ⟨⟨n, h, hm⟩, hhome, hneeded⟩)

/-- Only what the guard of the other imports is taken from is imported in both ways. -/
theorem typing_of_both (h : m ∈ runtimeImports home d) (h' : m ∈ checkingImports home d) : m = "typing" := by
  rcases mem_runtimeImports_iff.1 h with hneeded | ⟨htyping, -⟩
  · exact absurd hneeded (mem_checkingImports_iff.1 h').2.2
  · exact htyping

theorem home_not_mem_checkingImports : home ∉ checkingImports home d := fun h =>
  (mem_checkingImports_iff.1 h).2.1 rfl

theorem mem_runtimeModulesAll {ds : List Declaration} :
    m ∈ runtimeModulesAll home ds ↔ ∃ d ∈ ds, m ∈ runtimeModules home d := by
  induction ds with
  | nil => simp [runtimeModulesAll]
  | cons d rest ih => simp [runtimeModulesAll, ih]

end Lists

/-- The text of the module of a declaration starts with the import of a module. -/
def ImportedBy (home : String) (d : Declaration) (text m : String) : Prop :=
  (m ∈ runtimeImports home d ∨ m ∈ checkingImports home d) ∧
    ∃ body, text = opening (runtimeImports home d) (checkingImports home d) ++ body

/-- A module imports the homes of the names that it mentions, and what the guard of its imports for type
checking is taken from. -/
structure ImportsAll (home : String) (d : Declaration) (text : String) : Prop where
  mentioned : ∀ n ∈ mentions d, n.isBuiltin = false →
    ∃ m, moduleOf n = .ok (some m) ∧ (m ≠ home → ImportedBy home d text m)
  guarded : checkingImports home d ≠ [] → "typing" ∈ runtimeImports home d

theorem exists_module {n : QualifiedName} (h : HasModule n) (hforeign : n.isBuiltin = false) :
    ∃ m, moduleOf n = .ok (some m) := by
  obtain ⟨m?, hm⟩ := h
  cases m? with
  | some m => exact ⟨m, hm⟩
  | none =>
      rw [moduleOf, hforeign] at hm
      cases horigin : n.importedFrom with
      | some origin =>
          rw [horigin] at hm
          cases hm
      | none =>
          rw [horigin] at hm
          obtain ⟨home, -, hnone⟩ := Outcome.map_ok.1 hm
          cases hnone

theorem hasModule_of_reference {n : QualifiedName} {text : String} (h : reference n = .ok text) : HasModule n := by
  rw [reference] at h
  rw [HasModule, moduleOf]
  split
  · exact ⟨none, rfl⟩
  next hforeign =>
    rw [if_neg hforeign] at h
    cases horigin : n.importedFrom with
    | some origin => exact ⟨some origin, rfl⟩
    | none =>
        rw [horigin] at h
        obtain ⟨home, hhome, -⟩ := Outcome.bind_ok.1 h
        exact ⟨some home, by rw [hhome]; rfl⟩

theorem importsAll_of_moduleText {home text : String} {d : Declaration} (h : moduleText home d = .ok text) :
    ImportsAll home d text := by
  obtain ⟨piece, hpiece, h⟩ := Outcome.bind_ok.1 h
  obtain rfl := Outcome.pure_ok.1 h
  refine ⟨fun n hn hforeign => ?_, fun hchecking => ?_⟩
  · obtain ⟨m, hm⟩ := exists_module (hasModule_of_piece d hpiece n hn) hforeign
    refine ⟨m, hm, fun hhome => ⟨mem_imports_of_mention hn hm hhome, "\n\n" ++ piece.text ++ "\n", ?_⟩⟩
    simp only [String.append_assoc]
  · exact mem_runtimeImports_iff.2 (.inr ⟨rfl, hchecking⟩)

end TopicBindings.Source
