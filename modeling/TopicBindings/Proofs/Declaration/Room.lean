import TopicBindings.Proofs.Declaration.Steps

/-!
What a scope holds at most after a declaration. A name that is free is not refused, and a type that was declared just now
has nothing in it.
-/

namespace TopicBindings.Declaration

theorem membersAt_nil (path : List String) : membersAt path [] = [] := by
  induction path with
  | nil => rfl
  | cons step path ih => exact ih

theorem membersAt_concat (path : List String) (step : String) (ds : List Declaration) :
    membersAt (path ++ [step]) ds = membersOf step (membersAt path ds) := by
  induction path generalizing ds with
  | nil => rfl
  | cons first path ih => exact ih _

/-- A change inside a type is seen from there, unless there is no such type. -/
theorem membersOf_changeMembersOf_or (step : String) (f : List Declaration → List Declaration)
    (ds : List Declaration) : membersOf step (changeMembersOf step f ds) = f (membersOf step ds) ∨
      membersOf step (changeMembersOf step f ds) = [] := by
  induction ds with
  | nil => exact .inr rfl
  | cons d rest ih =>
      cases d with
      | type n doc shape members =>
          by_cases hn : n.name = step
          · simp [changeMembersOf, membersOf, hn]
          · simpa [changeMembersOf, membersOf, hn] using ih
      | _ => exact ih

theorem membersAt_changeAt_or (path : List String) (f : List Declaration → List Declaration)
    (ds : List Declaration) : membersAt path (changeAt f path ds) = f (membersAt path ds) ∨
      membersAt path (changeAt f path ds) = [] := by
  induction path generalizing ds with
  | nil => exact .inl rfl
  | cons step path ih =>
      rw [membersAt, changeAt, membersAt]
      rcases membersOf_changeMembersOf_or step (changeAt f path) ds with h | h
      · rw [h]
        exact ih _
      · rw [h, membersAt_nil]
        exact .inr rfl

theorem membersOf_append_of_free {step : String} {ds : List Declaration} (h : some step ∉ ds.map memberName?)
    (es : List Declaration) : membersOf step (ds ++ es) = membersOf step es := by
  induction ds with
  | nil => rfl
  | cons d rest ih =>
      simp only [List.map_cons, List.mem_cons, not_or] at h
      cases d with
      | type n doc shape members =>
          have hn : n.name ≠ step := by simpa [memberName?, eq_comm] using h.1
          rw [List.cons_append, membersOf, if_neg hn, ih h.2]
      | _ => exact ih h.2

namespace Tree

variable {t : Tree} {scope : Scope}

theorem members_extend_or (t : Tree) (scope : Scope) (new : List Declaration) :
    (t.extend scope new).members scope = t.members scope ++ new ∨ (t.extend scope new).members scope = [] := by
  rw [members, members, extend, lookup_modifyPackage]
  cases t.package? scope.package with
  | none => exact .inr rfl
  | some p =>
      rw [Option.map_some, if_pos rfl]
      exact membersAt_changeAt_or scope.path (· ++ new) p.units

theorem free_extend {new : List Declaration} {name : String} (h : some name ∉ (t.members scope).map memberName?)
    (hnew : name ∉ new.filterMap memberName?) : some name ∉ ((t.extend scope new).members scope).map memberName? := by
  rcases members_extend_or t scope new with hmembers | hmembers
  · rw [hmembers, List.map_append, List.mem_append, not_or]
    refine ⟨h, fun hmem => hnew ?_⟩
    obtain ⟨d, hd, hname⟩ := List.mem_map.1 hmem
    exact List.mem_filterMap.2 ⟨d, hd, hname⟩
  · simp [hmembers]

theorem members_new {name : String} (h : some name ∉ (t.members scope).map memberName?) (doc : Doc) (shape : Shape) :
    (t.extend scope [.type (scope.nameOf name) doc shape []]).members (scope.child name) = [] := by
  have hconcat : ∀ t : Tree, t.members (scope.child name) = membersOf name (t.members scope) := by
    intro t
    rw [members, members, show (scope.child name).package = scope.package from rfl]
    cases t.package? scope.package with
    | none => rfl
    | some p => exact membersAt_concat scope.path name p.units
  rw [hconcat]
  rcases members_extend_or t scope [.type (scope.nameOf name) doc shape []] with hmembers | hmembers
  · rw [hmembers, membersOf_append_of_free h]
    exact if_pos rfl
  · rw [hmembers]
    rfl

theorem declare_of_free {new : Declaration}
    (h : ∀ name, new.memberName? = some name → some name ∉ (t.members scope).map memberName?) :
    t.declare scope new = .ok (t.extend scope [new]) := by
  rw [← append_eq_extend, declare]
  cases hname : new.memberName? with
  | none => rfl
  | some name => exact if_neg (h name hname)

end Tree

end TopicBindings.Declaration
