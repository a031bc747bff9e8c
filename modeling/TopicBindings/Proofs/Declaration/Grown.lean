import TopicBindings.Proofs.Declaration.Nodes

/-!
How declarations grow. Those that stand stay where they are and what they are, and new ones come behind them: at the
end of a package, and at the end of the types in it at any depth. A scope that is there once is there for good.
-/

namespace TopicBindings.Declaration

mutual

/-- A declaration and what may have become of it later: the same one, with more members if it is a type. -/
def Grown : Declaration → Declaration → Prop
  | .type name doc shape members, later =>
      ∃ members', later = .type name doc shape members' ∧ GrownAll members members'
  | .enumeration name doc literals, later => later = .enumeration name doc literals
  | .field f, later => later = .field f
  | .method m, later => later = .method m
  | .raw content, later => later = .raw content

def GrownAll : List Declaration → List Declaration → Prop
  | [], _ => True
  | d :: rest, later => ∃ d' rest', later = d' :: rest' ∧ Grown d d' ∧ GrownAll rest rest'

end

mutual

theorem Grown.refl : ∀ d : Declaration, Grown d d
  | .type _ _ _ members => ⟨members, rfl, GrownAll.refl members⟩
  | .enumeration .. => rfl
  | .field _ => rfl
  | .method _ => rfl
  | .raw _ => rfl

theorem GrownAll.refl : ∀ ds : List Declaration, GrownAll ds ds
  | [] => trivial
  | d :: rest => ⟨d, rest, rfl, Grown.refl d, GrownAll.refl rest⟩

end

mutual

theorem Grown.trans : ∀ {d e f : Declaration}, Grown d e → Grown e f → Grown d f
  | .type .., _, _, ⟨_, he, hmembers⟩, h' => by
      subst he
      obtain ⟨members, rfl, hmembers'⟩ := h'
      exact ⟨members, rfl, hmembers.trans hmembers'⟩
  | .enumeration .., _, _, h, h' => by
      subst h
      exact h'
  | .field _, _, _, h, h' => by
      subst h
      exact h'
  | .method _, _, _, h, h' => by
      subst h
      exact h'
  | .raw _, _, _, h, h' => by
      subst h
      exact h'

theorem GrownAll.trans : ∀ {ds es fs : List Declaration}, GrownAll ds es → GrownAll es fs → GrownAll ds fs
  | [], _, _, _, _ => trivial
  | _ :: _, _, _, ⟨_, _, he, hd, hrest⟩, h' => by
      subst he
      obtain ⟨d, rest, rfl, hd', hrest'⟩ := h'
      exact ⟨d, rest, rfl, hd.trans hd', hrest.trans hrest'⟩

end

theorem grownAll_append (ds new : List Declaration) : GrownAll ds (ds ++ new) := by
  induction ds with
  | nil => trivial
  | cons d rest ih => exact ⟨d, rest ++ new, rfl, .refl d, ih⟩

theorem GrownAll.memberNames {ds es : List Declaration} (h : GrownAll ds es) :
    ds.map memberName? <+: es.map memberName? := by
  induction ds generalizing es with
  | nil => exact List.nil_prefix
  | cons d rest ih =>
      obtain ⟨d', rest', rfl, hd, hrest⟩ := h
      have hname : d'.memberName? = d.memberName? := by
        cases d with
        | type name doc shape members =>
            obtain ⟨members', rfl, -⟩ := hd
            rfl
        | _ => exact congrArg memberName? hd
      rw [List.map_cons, List.map_cons, hname]
      exact (List.prefix_cons_inj _).2 (ih hrest)

section Change

variable {f : List Declaration → List Declaration}

theorem grownAll_changeMembersOf (hf : ∀ members, GrownAll members (f members)) (step : String)
    (ds : List Declaration) : GrownAll ds (changeMembersOf step f ds) := by
  induction ds with
  | nil => trivial
  | cons d rest ih =>
      cases d with
      | type name doc shape members =>
          rw [changeMembersOf]
          split
          · exact ⟨_, _, rfl, ⟨_, rfl, hf members⟩, .refl rest⟩
          · exact ⟨_, _, rfl, .refl _, ih⟩
      | _ => exact ⟨_, _, rfl, .refl _, ih⟩

theorem grownAll_changeAt (hf : ∀ members, GrownAll members (f members)) (path : List String)
    (ds : List Declaration) : GrownAll ds (changeAt f path ds) := by
  induction path generalizing ds with
  | nil => exact hf ds
  | cons step path ih => exact grownAll_changeMembersOf ih step ds

end Change

theorem GrownAll.membersOf {ds es : List Declaration} (h : GrownAll ds es) (step : String) :
    GrownAll (membersOf step ds) (membersOf step es) := by
  induction ds generalizing es with
  | nil => trivial
  | cons d rest ih =>
      obtain ⟨d', rest', rfl, hd, hrest⟩ := h
      cases d with
      | type name doc shape members =>
          obtain ⟨members', rfl, hmembers⟩ := hd
          simp only [Declaration.membersOf]
          split
          · exact hmembers
          · exact ih hrest
      | _ =>
          obtain rfl := hd
          simp only [Declaration.membersOf]
          exact ih hrest

theorem GrownAll.membersAt {ds es : List Declaration} (h : GrownAll ds es) (path : List String) :
    GrownAll (membersAt path ds) (membersAt path es) := by
  induction path generalizing ds es with
  | nil => exact h
  | cons step path ih => exact ih (h.membersOf step)

def HasType (step : String) (members : List Declaration) : Prop :=
  ∃ name doc shape inner, .type name doc shape inner ∈ members ∧ name.name = step

def IsPath : List String → List Declaration → Prop
  | [], _ => True
  | step :: path, members => HasType step members ∧ IsPath path (membersOf step members)

theorem isPath_concat {path : List String} {step : String} {ds : List Declaration} (hpath : IsPath path ds)
    (hstep : HasType step (membersAt path ds)) : IsPath (path ++ [step]) ds := by
  induction path generalizing ds with
  | nil => exact ⟨hstep, trivial⟩
  | cons first path ih => exact ⟨hpath.1, ih hpath.2 hstep⟩

theorem GrownAll.hasType {ds es : List Declaration} (h : GrownAll ds es) {step : String} (hstep : HasType step ds) :
    HasType step es := by
  obtain ⟨name, doc, shape, inner, hmem, hname⟩ := hstep
  induction ds generalizing es with
  | nil => cases hmem
  | cons d rest ih =>
      obtain ⟨d', rest', rfl, hd, hrest⟩ := h
      rcases List.mem_cons.1 hmem with rfl | hmem
      · obtain ⟨inner', rfl, -⟩ := hd
        exact ⟨name, doc, shape, inner', .head _, hname⟩
      · obtain ⟨name', doc', shape', inner', hmem', hname'⟩ := ih hrest hmem
        exact ⟨name', doc', shape', inner', .tail _ hmem', hname'⟩

theorem GrownAll.isPath {ds es : List Declaration} (h : GrownAll ds es) {path : List String} (hpath : IsPath path ds) :
    IsPath path es := by
  induction path generalizing ds es with
  | nil => trivial
  | cons step path ih => exact ⟨h.hasType hpath.1, ih (h.membersOf step) hpath.2⟩

theorem membersOf_changeMembersOf {step : String} {ds : List Declaration} (f : List Declaration → List Declaration)
    (h : HasType step ds) : membersOf step (changeMembersOf step f ds) = f (membersOf step ds) := by
  obtain ⟨name, doc, shape, inner, hmem, hname⟩ := h
  induction ds with
  | nil => cases hmem
  | cons d rest ih =>
      by_cases hrest : .type name doc shape inner ∈ rest
      · cases d with
        | type n _ _ _ =>
            by_cases hn : n.name = step
            · simp only [changeMembersOf, membersOf, if_pos hn]
            · simp only [changeMembersOf, membersOf, if_neg hn, ih hrest]
        | _ => exact ih hrest
      · obtain rfl : .type name doc shape inner = d := (List.mem_cons.1 hmem).resolve_right hrest
        simp only [changeMembersOf, membersOf, if_pos hname]

theorem membersAt_changeAt {path : List String} {ds : List Declaration} (f : List Declaration → List Declaration)
    (h : IsPath path ds) : membersAt path (changeAt f path ds) = f (membersAt path ds) := by
  induction path generalizing ds with
  | nil => rfl
  | cons step path ih =>
      rw [membersAt, changeAt, membersOf_changeMembersOf _ h.1, ih h.2, membersAt]

end TopicBindings.Declaration
