import TopicBindings.Proofs.Declaration.Steps
import TopicBindings.Proofs.Generation.Yields
import TopicBindings.Proofs.Outcome

/-!
Sequences of building operations on a tree that is empty at first, in any scopes and with bodies of any depth. They go
on after an operation that failed. Whatever they are, the tree stays lawful and only grows; an operation that fails
changes nothing, but a type whose body fails stays with what the body had declared.
-/

namespace TopicBindings.Generation

open Declaration (Doc EnumLiteral Field Method RawContent Scope Shape Tree)
open Declaration.Tree (Lawful Reached Stays Step)

/-- What may be done with the scopes of a tree. The operations of a body run inside the creation of a type, in its scope
or elsewhere; they may fail of themselves, and they may go on after a failure. -/
inductive Operation where
  | openPackage (name : String)
  | noteMetadata (package : String) (entries : Entries String String)
  | createType (scope : Scope) (name : String) (doc : Doc) (shape : Shape) (body : List Operation)
  | createEnum (scope : Scope) (name : String) (doc : Doc) (literals : List String) (keepLiterals : Bool)
      (note : EnumLiteral → EnumLiteral)
  | createField (scope : Scope) (field : Field)
  | createMethod (scope : Scope) (method : Method)
  | createRaw (scope : Scope) (content : RawContent)
  | fail (failure : Failure)
  | attempt (body : List Operation)

namespace Operation

mutual

def run : Operation → Build Unit
  | .openPackage name => do
      let _ ← Build.openPackage name
      return ()
  | .noteMetadata package entries => Build.noteMetadata package entries
  | .createType scope name doc shape body => do
      let _ ← Build.createType scope name doc shape fun _ => runAll body
      return ()
  | .createEnum scope name doc literals keepLiterals note =>
      Build.edit fun t => t.createEnum scope name doc literals keepLiterals note
  | .createField scope field => Build.createField scope field
  | .createMethod scope method => Build.createMethod scope method
  | .createRaw scope content => Build.createRaw scope content
  | .fail failure => throw failure
  | .attempt body => tryCatch (runAll body) fun _ => return ()

/-- Runs a body, up to the first operation that fails. -/
def runAll : List Operation → Build Unit
  | [] => return ()
  | op :: rest => do
      run op
      runAll rest

end

mutual

/-- The scopes that an operation declares something in or opens. -/
def scopes : Operation → List Scope
  | .openPackage name => [.ofPackage name]
  | .noteMetadata package _ => [.ofPackage package]
  | .createType scope _ _ _ body => scope :: scopesAll body
  | .createEnum scope .. | .createField scope _ | .createMethod scope _ | .createRaw scope _ => [scope]
  | .fail _ => []
  | .attempt body => scopesAll body

def scopesAll : List Operation → List Scope
  | [] => []
  | op :: rest => scopes op ++ scopesAll rest

end

def body : Operation → List Operation
  | .createType _ _ _ _ body | .attempt body => body
  | _ => []

section Runs

variable {w u v : Workspace} {failure : Failure} {scope : Scope} {name : String} {doc : Doc} {shape : Shape}

theorem runOn_runAll_cons (op : Operation) (rest : List Operation) (w : Workspace) :
    (runAll (op :: rest)).runOn w = match op.run.runOn w with
      | (.ok (), u) => (runAll rest).runOn u
      | (.error failure, u) => (.error failure, u) := by
  rw [runAll, Build.runOn_bind]
  rcases op.run.runOn w with ⟨_ | _, u⟩ <;> rfl

theorem runOn_runAll_singleton (op : Operation) (w : Workspace) : (runAll [op]).runOn w = op.run.runOn w := by
  rw [runOn_runAll_cons]
  rcases op.run.runOn w with ⟨_ | _, u⟩ <;> rfl

theorem runOn_attempt (body : List Operation) (w : Workspace) :
    (attempt body).run.runOn w = (.ok (), ((runAll body).runOn w).2) := by
  rw [run, Build.runOn_tryCatch]
  rcases (runAll body).runOn w with ⟨_ | _, u⟩ <;> rfl

theorem runOn_createType (body : List Operation) (w : Workspace) :
    (createType scope name doc shape body).run.runOn w = match w.tree.declareType scope name doc shape with
      | .ok tree => (runAll body).runOn { w with tree }
      | .error fault => (.error (.declaration fault), w) := by
  rw [run, Build.runOn_bind, Build.createType, Build.runOn_bind, Build.runOn_edit]
  cases w.tree.declareType scope name doc shape with
  | error fault => rfl
  | ok tree =>
      dsimp only
      rw [Build.runOn_bind]
      rcases (runAll body).runOn { w with tree } with ⟨_ | _, u⟩ <;> rfl

theorem declareType_of_mem {t : Tree} (hname : some name ∈ (t.members scope).map Declaration.memberName?)
    (doc : Doc) (shape : Shape) : t.declareType scope name doc shape = .error (.duplicate name scope) :=
  if_pos hname

theorem declareType_of_not_mem {t : Tree} (hname : some name ∉ (t.members scope).map Declaration.memberName?)
    (doc : Doc) (shape : Shape) : t.declareType scope name doc shape =
      .ok (t.append scope (.type (scope.nameOf name) doc shape [])) :=
  if_neg hname

theorem eq_of_run_error {op : Operation} (hbody : op.body = []) (h : op.run.runOn w = (.error failure, v)) :
    v = w := by
  have hedit : ∀ change : Tree → Except Declaration.Fault Tree,
      (Build.edit change).runOn w = (.error failure, v) → v = w := by
    intro change h
    rw [Build.runOn_edit] at h
    split at h
    · cases h
    · exact (Prod.mk.inj h).2.symm
  cases op with
  | openPackage name => cases h
  | noteMetadata package entries => cases h
  | createType scope name doc shape body =>
      obtain rfl : body = [] := hbody
      rw [runOn_createType] at h
      split at h
      · cases h
      · exact (Prod.mk.inj h).2.symm
  | createEnum scope name doc literals keepLiterals note =>
      exact hedit (fun t => t.createEnum scope name doc literals keepLiterals note) h
  | createField scope field => exact hedit (fun t => t.declareField scope field) h
  | createMethod scope method => exact hedit (fun t => t.declareMethod scope method) h
  | createRaw scope content => exact hedit (fun t => t.declareRaw scope content) h
  | fail failure => exact (Prod.mk.inj h).2.symm
  | attempt body =>
      rw [runOn_attempt] at h
      cases h

end Runs

section Steps

variable {S : Scope → Prop}

theorem reached_edit {change : Tree → Except Declaration.Fault Tree}
    (h : ∀ t t', change t = .ok t' → Reached S t t') (w : Workspace) :
    Reached S w.tree ((Build.edit change).runOn w).2.tree := by
  rw [Build.runOn_edit]
  cases hd : change w.tree with
  | error fault => exact .refl
  | ok tree => exact h _ _ hd

theorem reached_declare {scope : Scope} (hscope : S scope) (new : Declaration)
    (hnew : Declaration.Orderly scope.package scope.path new) (htop : scope.path = [] → new.qualifiedName?.isSome)
    {t t' : Tree} (h : t.declare scope new = .ok t') : Reached S t t' :=
  .single (.declare hscope hnew htop h)

theorem reached_declare_inside {scope : Scope} (hscope : S scope) {fault : Declaration.Fault} (new : Declaration)
    (hnew : Declaration.Orderly scope.package scope.path new) {t t' : Tree}
    (h : (if scope.path.isEmpty then .error fault else t.declare scope new) = Except.ok t') : Reached S t t' := by
  split at h
  · cases h
  next hpath => exact reached_declare hscope new hnew (fun hnil => absurd (List.isEmpty_iff.2 hnil) hpath) h

mutual

/-- What an operation comes to, failing or not, is a sequence of changes in its scopes. -/
theorem reached_run : ∀ (op : Operation) (w : Workspace), Reached (· ∈ op.scopes) w.tree (op.run.runOn w).2.tree
  | .openPackage _, _ => .single (.openPackage (.head _))
  | .noteMetadata _ entries, _ => .single (.noteMetadata (.head _) entries)
  | .createType scope name doc shape body, w => by
      rw [runOn_createType]
      cases hd : w.tree.declareType scope name doc shape with
      | error fault => exact .refl
      | ok tree =>
          have hdeclared : Reached (· ∈ (createType scope name doc shape body).scopes) w.tree tree :=
            reached_declare (.head _) (.type (scope.nameOf name) doc shape []) ⟨rfl, trivial⟩ (fun _ => rfl) hd
          exact hdeclared.trans ((reached_runAll body { w with tree }).mono fun _ hs => .tail _ hs)
  | .createEnum scope name doc literals keepLiterals note, w => by
      refine reached_edit (fun t t' h => ?_) w
      obtain ⟨entries, -, hd⟩ := Outcome.bind_ok.1 h
      exact reached_declare (.head _) (.enumeration (scope.nameOf name) doc (entries.map note)) rfl (fun _ => rfl) hd
  | .createField _ field, w =>
      reached_edit (fun _ _ h => reached_declare_inside (.head _) (.field field) trivial h) w
  | .createMethod _ method, w =>
      reached_edit (fun _ _ h => reached_declare_inside (.head _) (.method method) trivial h) w
  | .createRaw _ content, w =>
      reached_edit (fun _ _ h => reached_declare_inside (.head _) (.raw content) trivial h) w
  | .fail _, _ => .refl
  | .attempt body, w => by
      rw [runOn_attempt]
      exact reached_runAll body w

theorem reached_runAll : ∀ (ops : List Operation) (w : Workspace),
    Reached (· ∈ scopesAll ops) w.tree ((runAll ops).runOn w).2.tree
  | [], _ => .refl
  | op :: rest, w => by
      have hop := (reached_run op w).mono fun s hs => List.mem_append_left (scopesAll rest) hs
      rw [runOn_runAll_cons]
      rcases hrun : op.run.runOn w with ⟨_ | _, u⟩
      · rwa [hrun] at hop
      · rw [hrun] at hop
        exact hop.trans ((reached_runAll rest u).mono fun s hs => List.mem_append_right op.scopes hs)

end

end Steps

/-- The operations of a list that ends with a failure, up to the failure: those before the one that fails, and if it
fails in the body of a type that it creates, that type with what is left of its body. -/
inductive BrokenOff (failure : Failure) : Workspace → List Operation → List Operation → Prop where
  | here {w : Workspace} {op : Operation} (rest : List Operation) (h : op.run.runOn w = (.error failure, w)) :
      BrokenOff failure w [] (op :: rest)
  | inside {w : Workspace} {tree : Tree} {scope : Scope} {name : String} {doc : Doc} {shape : Shape}
      {kept body : List Operation} (rest : List Operation)
      (hdeclared : w.tree.declareType scope name doc shape = .ok tree)
      (hbody : BrokenOff failure { w with tree } kept body) :
      BrokenOff failure w [.createType scope name doc shape kept] (.createType scope name doc shape body :: rest)
  | behind {w u : Workspace} {op : Operation} {kept rest : List Operation} (hop : op.run.runOn w = (.ok (), u))
      (hrest : BrokenOff failure u kept rest) : BrokenOff failure w (op :: kept) (op :: rest)

section Breaking

variable {w v : Workspace} {failure : Failure} {kept ops : List Operation}

theorem BrokenOff.run_error (h : BrokenOff failure w kept ops) (hkept : (runAll kept).runOn w = (.ok (), v)) :
    (runAll ops).runOn w = (.error failure, v) := by
  induction h with
  | here rest hop =>
      obtain rfl := (Prod.mk.inj hkept).2
      rw [runOn_runAll_cons, hop]
  | @inside w tree scope name doc shape kept body rest hdeclared hbody ih =>
      rw [runOn_runAll_singleton, runOn_createType, hdeclared] at hkept
      rw [runOn_runAll_cons, runOn_createType, hdeclared]
      dsimp only at hkept ⊢
      rw [ih hkept]
  | behind hop hrest ih =>
      rw [runOn_runAll_cons, hop] at hkept ⊢
      exact ih hkept

theorem exists_brokenOff_here {op : Operation} (hbody : op.body = []) (rest : List Operation)
    (h : op.run.runOn w = (.error failure, v)) :
    ∃ kept, BrokenOff failure w kept (op :: rest) ∧ (runAll kept).runOn w = (.ok (), v) := by
  obtain rfl := eq_of_run_error hbody h
  exact ⟨[], .here rest h, rfl⟩

mutual

theorem exists_brokenOff_of_run : ∀ (op : Operation) (rest : List Operation) {w v : Workspace},
    op.run.runOn w = (.error failure, v) →
      ∃ kept, BrokenOff failure w kept (op :: rest) ∧ (runAll kept).runOn w = (.ok (), v)
  | .createType scope name doc shape body, rest, w, v, h => by
      have hrun := h
      rw [runOn_createType] at hrun
      cases hd : w.tree.declareType scope name doc shape with
      | error fault =>
          rw [hd] at hrun
          obtain rfl := (Prod.mk.inj hrun).2
          exact ⟨[], .here rest h, rfl⟩
      | ok tree =>
          rw [hd] at hrun
          obtain ⟨kept, hkept, hleft⟩ := exists_brokenOff body hrun
          refine ⟨[.createType scope name doc shape kept], .inside rest hd hkept, ?_⟩
          rw [runOn_runAll_singleton, runOn_createType, hd]
          exact hleft
  | .attempt body, rest, w, v, h => by
      rw [runOn_attempt] at h
      cases h
  | .openPackage _, rest, _, _, h => exists_brokenOff_here rfl rest h
  | .noteMetadata .., rest, _, _, h => exists_brokenOff_here rfl rest h
  | .createEnum .., rest, _, _, h => exists_brokenOff_here rfl rest h
  | .createField .., rest, _, _, h => exists_brokenOff_here rfl rest h
  | .createMethod .., rest, _, _, h => exists_brokenOff_here rfl rest h
  | .createRaw .., rest, _, _, h => exists_brokenOff_here rfl rest h
  | .fail _, rest, _, _, h => exists_brokenOff_here rfl rest h

theorem exists_brokenOff : ∀ (ops : List Operation) {w v : Workspace}, (runAll ops).runOn w = (.error failure, v) →
    ∃ kept, BrokenOff failure w kept ops ∧ (runAll kept).runOn w = (.ok (), v)
  | [], w, v, h => by cases h
  | op :: rest, w, v, h => by
      rcases hrun : op.run.runOn w with ⟨_ | _, u⟩
      · rw [runOn_runAll_cons, hrun] at h
        exact exists_brokenOff_of_run op rest (hrun.trans h)
      · rw [runOn_runAll_cons, hrun] at h
        obtain ⟨kept, hkept, hleft⟩ := exists_brokenOff rest h
        refine ⟨op :: kept, .behind hrun hkept, ?_⟩
        rw [runOn_runAll_cons, hrun]
        exact hleft

end

theorem runAll_error_iff : (runAll ops).runOn w = (.error failure, v) ↔
    ∃ kept, BrokenOff failure w kept ops ∧ (runAll kept).runOn w = (.ok (), v) :=
  ⟨exists_brokenOff ops, fun ⟨_, hkept, hleft⟩ => hkept.run_error hleft⟩

end Breaking

end Operation

open Operation

/-- The workspace after some operations. Each of them is tried, whether one before it failed or not. -/
def Workspace.after (w : Workspace) (ops : List Operation) : Workspace :=
  ops.foldl (fun w op => (op.run.runOn w).2) w

variable {w : Workspace} {scope : Scope} {name : String}

theorem reached_after (ops : List Operation) (w : Workspace) : Reached (fun _ => True) w.tree (w.after ops).tree := by
  induction ops generalizing w with
  | nil => exact .refl
  | cons op rest ih => exact ((reached_run op w).mono fun _ _ => trivial).trans (ih _)

theorem sound_after (hw : w.tree.Sound) (ops : List Operation) : (w.after ops).tree.Sound :=
  (reached_after ops w).sound hw

theorem stays_after (hw : w.tree.Sound) (ops : List Operation) : w.tree.Stays (w.after ops).tree :=
  (reached_after ops w).grows.stays (sound_after hw ops).distinct

theorem after_append (w : Workspace) (before behind : List Operation) :
    w.after (before ++ behind) = (w.after before).after behind :=
  List.foldl_append

theorem has_of_opened (hw : w.tree.Sound) {ops : List Operation} (hopen : .openPackage name ∈ ops) :
    (w.after ops).tree.Has (.ofPackage name) := by
  obtain ⟨before, behind, rfl⟩ := List.append_of_mem hopen
  rw [List.append_cons, after_append]
  refine (stays_after (sound_after hw _) behind).scopes _ ?_
  rw [after_append]
  exact Tree.has_openPackage (w.after before).tree name

section Creation

variable {doc : Doc} {shape : Shape} {body : List Operation}

def Workspace.withType (w : Workspace) (scope : Scope) (name : String) (doc : Doc) (shape : Shape) : Workspace :=
  { w with tree := w.tree.append scope (.type (scope.nameOf name) doc shape []) }

/-- What the creation of a type leaves where its name was free. The type is there whatever becomes of its body, and if
that fails, the type is left as if the body ended at the failure. -/
structure Created (w : Workspace) (scope : Scope) (name : String) (doc : Doc) (shape : Shape)
    (body : List Operation) : Prop where
  brokenOff : ∀ failure v, (createType scope name doc shape body).run.runOn w = (.error failure, v) ↔
    ∃ kept, BrokenOff failure (w.withType scope name doc shape) kept body ∧
      (createType scope name doc shape kept).run.runOn w = (.ok (), v)
  stays : (w.withType scope name doc shape).tree.Stays (w.after [createType scope name doc shape body]).tree
  confined : (∀ s ∈ scopesAll body, (scope.child name).Encloses s) →
    ∃ inner, (w.after [createType scope name doc shape body]).tree =
      w.tree.append scope (.type (scope.nameOf name) doc shape inner)
  there : w.tree.Has scope → (w.after [createType scope name doc shape body]).tree.Has (scope.child name) ∧
    ∀ new, (w.tree.append scope new).members scope = w.tree.members scope ++ [new]

theorem members_append (hw : w.tree.Sound) (hs : w.tree.Has scope) (new : Declaration) :
    (w.tree.append scope new).members scope = w.tree.members scope ++ [new] := by
  rw [Tree.append_eq_extend]
  exact Tree.members_changeScope hw.distinct hs _

section Free

variable (hfree : some name ∉ (w.tree.members scope).map Declaration.memberName?)

include hfree

theorem sound_withType (hw : w.tree.Sound) : (w.withType scope name doc shape).tree.Sound := by
  have hdeclared := declareType_of_not_mem hfree doc shape
  exact (hw.declare (.type (scope.nameOf name) doc shape []) ⟨rfl, trivial⟩ hdeclared).2.1

theorem runOn_createType_withType (body : List Operation) : (createType scope name doc shape body).run.runOn w =
    (runAll body).runOn (w.withType scope name doc shape) := by
  rw [runOn_createType, declareType_of_not_mem hfree doc shape]
  rfl

theorem after_createType (body : List Operation) : w.after [createType scope name doc shape body] =
    ((runAll body).runOn (w.withType scope name doc shape)).2 := by
  rw [← runOn_createType_withType hfree]
  rfl

theorem created (hw : w.tree.Sound) : Created w scope name doc shape body := by
  have hbegun : (w.withType scope name doc shape).tree.Sound := sound_withType hfree hw
  have hreached := reached_runAll body (w.withType scope name doc shape)
  rw [← after_createType hfree] at hreached
  have hstays := hreached.grows.stays (hreached.sound hbegun).distinct
  refine ⟨fun failure v => ?_, hstays, fun hinside => ?_, fun hs => ⟨?_, members_append hw hs⟩⟩
  · simp only [runOn_createType_withType hfree]
    exact runAll_error_iff
  · obtain ⟨f, hf⟩ := hreached.confined (List.append_ne_nil_of_right_ne_nil _ (List.cons_ne_nil _ _)) hinside
    refine ⟨f [], ?_⟩
    rw [hf, Workspace.withType, Tree.append_eq_extend, Tree.append_eq_extend]
    exact Tree.changeScope_child hw.distinct hfree doc shape f
  · have htype : Declaration.HasType name ((w.withType scope name doc shape).tree.members scope) := by
      rw [Workspace.withType, members_append hw hs]
      exact ⟨scope.nameOf name, doc, shape, [], by simp, rfl⟩
    have hscope : (w.withType scope name doc shape).tree.Has scope := by
      rw [Workspace.withType, Tree.append_eq_extend]
      exact (Tree.grows_changeScope (fun members => Declaration.grownAll_append members _) w.tree scope).has hs
    exact hstays.scopes _ (hscope.child hbegun.distinct htype)

end Free

end Creation

theorem operations_lawful (ops : List Operation) :
    (Workspace.empty.after ops).tree.Lawful ∧
    (∀ before behind, ops = before ++ behind →
      (Workspace.empty.after before).tree.Stays (Workspace.empty.after ops).tree) ∧
    (∀ name, .openPackage name ∈ ops → (Workspace.empty.after ops).tree.Has (.ofPackage name)) ∧
    (∀ (op : Operation) (w : Workspace), w.tree.Lawful →
      (op.run.runOn w).2.tree.Lawful ∧ w.tree.Stays (op.run.runOn w).2.tree) ∧
    (∀ (op : Operation) (w v : Workspace) failure, op.body = [] → op.run.runOn w = (.error failure, v) → v = w) ∧
    ∀ (w : Workspace) scope name doc shape body, w.tree.Lawful →
      if some name ∈ (w.tree.members scope).map Declaration.memberName? then
        (createType scope name doc shape body).run.runOn w = (.error (.declaration (.duplicate name scope)), w)
      else Created w scope name doc shape body := by
  have hempty : Workspace.empty.tree.Sound := Tree.Sound.empty
  refine ⟨(sound_after hempty ops).lawful, ?_, fun _ => has_of_opened hempty, ?_, fun _ _ _ _ => eq_of_run_error, ?_⟩
  · rintro before behind rfl
    rw [after_append]
    exact stays_after (sound_after hempty before) behind
  · exact fun op w hw => ⟨(sound_after hw.toSound [op]).lawful, stays_after hw.toSound [op]⟩
  · intro w scope name doc shape body hw
    split
    next htaken => rw [runOn_createType, declareType_of_mem htaken doc shape]
    next hfree => exact created hfree hw.toSound

section Sample

def sampleOpened : Workspace :=
  Workspace.empty.after [.openPackage "a"]

def sampleDevice : Scope :=
  (Scope.ofPackage "a").child "Device"

def sampleField : Field :=
  ⟨"name", .plain (.external "builtins" "str"), ⟨none, none⟩, true⟩

/-- Its second operation fails at the end of a body of its own, because it declares the field again; the third one is
never reached. -/
def sampleBody : List Operation :=
  [.createField sampleDevice sampleField,
    .createType sampleDevice "Inner" ⟨none, none⟩ .plain
      [.createRaw (sampleDevice.child "Inner") ⟨["pass"], []⟩, .createField sampleDevice sampleField],
    .createRaw sampleDevice ⟨["pass"], []⟩]

def sampleCreation (body : List Operation) : Operation :=
  .createType (.ofPackage "a") "Device" ⟨none, none⟩ .plain body

theorem operations_lawful_sample :
    (Workspace.empty.after [.openPackage "a", sampleCreation sampleBody, sampleCreation []]).tree.Lawful ∧
    sampleOpened.tree.Stays
      (Workspace.empty.after [.openPackage "a", sampleCreation sampleBody, sampleCreation []]).tree ∧
    ((createField (.ofPackage "a") sampleField).run.runOn sampleOpened).2 = sampleOpened ∧
    (∃ kept, BrokenOff (.declaration (.duplicate "name" sampleDevice))
        (sampleOpened.withType (.ofPackage "a") "Device" ⟨none, none⟩ .plain) kept sampleBody ∧
      (sampleCreation kept).run.runOn sampleOpened = (.ok (), sampleOpened.after [sampleCreation sampleBody])) ∧
    (∃ inner, (sampleOpened.after [sampleCreation sampleBody]).tree = sampleOpened.tree.append (.ofPackage "a")
      (.type ((Scope.ofPackage "a").nameOf "Device") ⟨none, none⟩ .plain inner)) ∧
    (sampleOpened.after [sampleCreation sampleBody]).tree.Has sampleDevice ∧
    (sampleCreation []).run.runOn (sampleOpened.after [sampleCreation sampleBody]) =
      (.error (.declaration (.duplicate "Device" (.ofPackage "a"))),
        sampleOpened.after [sampleCreation sampleBody]) := by
  obtain ⟨hlawful, hstays, -, -, hunchanged, hcreate⟩ :=
    operations_lawful [.openPackage "a", sampleCreation sampleBody, sampleCreation []]
  obtain ⟨hopened, -, hhas, hstep, -⟩ := operations_lawful [.openPackage "a"]
  have hfree : some "Device" ∉ (sampleOpened.tree.members (.ofPackage "a")).map Declaration.memberName? :=
    List.not_mem_nil
  have htaken : some "Device" ∈ ((sampleOpened.after [sampleCreation sampleBody]).tree.members
      (.ofPackage "a")).map Declaration.memberName? := .head _
  have hinside : ∀ s ∈ scopesAll sampleBody, sampleDevice.Encloses s := by
    intro s hs
    have hs : s = sampleDevice ∨ s = sampleDevice.child "Inner" ∨ s = sampleDevice := by
      simpa [sampleBody, scopesAll, scopes] using hs
    rcases hs with rfl | rfl | rfl
    · exact ⟨rfl, List.prefix_rfl⟩
    · exact ⟨rfl, List.prefix_append _ _⟩
    · exact ⟨rfl, List.prefix_rfl⟩
  have hfield := hunchanged (createField (.ofPackage "a") sampleField) sampleOpened _
    (.declaration (.fieldInPackage "name" "a")) rfl rfl
  have hcreated := hcreate sampleOpened (.ofPackage "a") "Device" ⟨none, none⟩ .plain sampleBody hopened
  rw [if_neg hfree] at hcreated
  have hduplicate := hcreate (sampleOpened.after [sampleCreation sampleBody]) (.ofPackage "a") "Device" ⟨none, none⟩
    .plain [] (hstep (sampleCreation sampleBody) sampleOpened hopened).1
  rw [if_pos htaken] at hduplicate
  exact ⟨hlawful, hstays [.openPackage "a"] _ rfl, hfield, (hcreated.brokenOff _ _).1 rfl,
    hcreated.confined hinside, (hcreated.there (hhas "a" (.head _))).1, hduplicate⟩

end Sample

end TopicBindings.Generation
