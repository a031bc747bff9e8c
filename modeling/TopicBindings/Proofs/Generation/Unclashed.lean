import TopicBindings.Proofs.Declaration.Room
import TopicBindings.Proofs.Generation.Adds

/-!
Runs that do not fail because a name is taken. A run declares some names in its scope; if these differ from each other and
are free, it ends with no clash. Both properties compose along the steps of a run, in one scope and over packages.
-/

namespace TopicBindings.Generation

open Build (Adds Lays Yields chained_extends chained_stages runOn_bind)
open Declaration (Doc EnumLiteral Scope Shape Tree)

/-- Whether a run failed because a name is taken or two literals have one constant. -/
def Failure.isClash : Failure → Bool
  | .declaration (.duplicate ..) | .declaration (.literalCollision ..) => true
  | _ => false

def Unclashed {α : Type} (b : Build α) (w : Workspace) : Prop :=
  ∀ failure v, b.runOn w = (.error failure, v) → failure.isClash = false

namespace Unclashed

variable {α β : Type} {b : Build α} {f : α → Build β} {w : Workspace}

theorem of_ok {a : α} {v : Workspace} (h : b.runOn w = (.ok a, v)) : Unclashed b w := by
  intro failure u hrun
  rw [h] at hrun
  cases hrun

theorem bind (h : Unclashed b w) (hf : ∀ a v, b.runOn w = (.ok a, v) → Unclashed (f a) v) : Unclashed (b >>= f) w := by
  intro failure v hrun
  rw [runOn_bind] at hrun
  rcases hb : b.runOn w with ⟨e | a, u⟩
  · rw [hb] at hrun
    obtain ⟨he, -⟩ := Prod.mk.inj hrun
    obtain rfl := Except.error.inj he
    exact h e u hb
  · rw [hb] at hrun
    exact hf a u hb failure v hrun

theorem ofExcept {ε : Type} {wrap : ε → Failure} {e : Except ε α}
    (h : ∀ fault, e = .error fault → (wrap fault).isClash = false) : Unclashed (Build.ofExcept wrap e) w := by
  intro failure v hrun
  cases e with
  | ok a => cases hrun
  | error fault =>
      obtain ⟨he, -⟩ := Prod.mk.inj hrun
      obtain rfl := Except.error.inj he
      exact h fault rfl

theorem edit {change : Tree → Except Declaration.Fault Tree}
    (h : ∀ fault, change w.tree = .error fault → (Failure.declaration fault).isClash = false) :
    Unclashed (Build.edit change) w := by
  intro failure v hrun
  rw [Build.runOn_edit] at hrun
  cases hchange : change w.tree with
  | ok tree =>
      rw [hchange] at hrun
      cases hrun
  | error fault =>
      rw [hchange] at hrun
      obtain ⟨he, -⟩ := Prod.mk.inj hrun
      obtain rfl := Except.error.inj he
      exact h fault hchange

end Unclashed

/-- A run that declares these names in a scope, and that ends with no clash if they differ and are free. -/
structure Declaring {α : Type} (b : Build α) (scope : Scope) (names : List String) : Prop where
  adds : Adds b scope fun out => out.filterMap Declaration.memberName? = names
  clear : names.Nodup → ∀ w, w.tree.Sound →
    (∀ name ∈ names, some name ∉ (w.tree.members scope).map Declaration.memberName?) → Unclashed b w

namespace Declaring

variable {α β : Type} {b : Build α} {f : α → Build β} {scope : Scope} {names names' : List String}

theorem done (a : α) : Declaring (pure a) scope [] where
  adds := (Yields.done (chained_extends scope) a).mono fun _ h => by rw [h]; rfl
  clear _ _ _ _ := Unclashed.of_ok rfl

theorem note (notice : Notice) : Declaring (Build.note notice) scope [] where
  adds := (Yields.note (chained_extends scope) notice).mono fun _ h => by rw [h]; rfl
  clear _ _ _ _ := Unclashed.of_ok rfl

theorem notes (notices : List Notice) : Declaring (notices.forM Build.note) scope [] where
  adds := (Yields.notes (chained_extends scope) notices).mono fun _ h => by rw [h]; rfl
  clear _ w _ _ := Unclashed.of_ok (Build.runOn_notes notices w)

theorem thrown {failure : Failure} (h : failure.isClash = false) : Declaring (throw failure : Build α) scope names where
  adds := Yields.thrown failure
  clear _ _ _ _ _ _ hrun := by
    obtain ⟨he, -⟩ := Prod.mk.inj hrun
    obtain rfl := Except.error.inj he
    exact h

theorem seq (h : Declaring b scope names) (hf : ∀ a, Declaring (f a) scope names') :
    Declaring (b >>= f) scope (names ++ names') where
  adds := by
    refine (Yields.seq (chained_extends scope) h.adds fun a => (hf a).adds).mono ?_
    rintro out ⟨first, second, hfirst, hsecond, rfl⟩
    rw [List.filterMap_append, hfirst, hsecond]
  clear hnodup w hw hfree := by
    obtain ⟨hnames, hnames', hapart⟩ := List.nodup_append.1 hnodup
    refine (h.clear hnames w hw fun name hn => hfree name (List.mem_append_left _ hn)).bind fun a u hb => ?_
    obtain ⟨out, hout, htree, hu⟩ := h.adds w a u hw hb
    -- Of the names that the second run needs, the first one has taken none.
    refine (hf a).clear hnames' u hu fun name hn => ?_
    rw [htree]
    refine Tree.free_extend (hfree name (List.mem_append_right _ hn)) fun hmem => ?_
    rw [hout] at hmem
    exact hapart name hmem name hn rfl

theorem after (h : Declaring b scope []) (hf : ∀ a, Declaring (f a) scope names) : Declaring (b >>= f) scope names :=
  h.seq hf

theorem before (h : Declaring b scope names) (hf : ∀ a, Declaring (f a) scope []) :
    Declaring (b >>= f) scope names := by
  simpa using h.seq hf

theorem ofExcept_bind {ε : Type} {wrap : ε → Failure} {e : Except ε α}
    (hwrap : ∀ fault, e = .error fault → (wrap fault).isClash = false)
    (h : ∀ a, e = .ok a → Declaring (f a) scope names) : Declaring (Build.ofExcept wrap e >>= f) scope names where
  adds := Yields.ofExcept_bind fun a ha => (h a ha).adds
  clear hnodup w hw hfree := by
    refine (Unclashed.ofExcept hwrap).bind fun a u hrun => ?_
    obtain ⟨ha, rfl⟩ := Build.runOn_ofExcept_ok.1 hrun
    exact (h a ha).clear hnodup _ hw hfree

theorem forM {ι : Type} {f : ι → Build PUnit} {items : List ι} {names : ι → List String}
    (h : ∀ item ∈ items, Declaring (f item) scope (names item)) :
    Declaring (items.forM f) scope (items.flatMap names) := by
  induction items with
  | nil => exact done _
  | cons item rest ih => exact seq (h item (.head _)) fun _ => ih fun i hi => h i (.tail _ hi)

theorem edit (new : Declaration) {change : Tree → Except Declaration.Fault Tree} {name : String}
    (hname : new.memberName? = some name) (hadds : Adds (Build.edit change) scope (· = [new]))
    (hchange : ∀ t, change t = t.declare scope new ∨
      ∃ fault, change t = .error fault ∧ (Failure.declaration fault).isClash = false) :
    Declaring (Build.edit change) scope [name] where
  adds := hadds.mono fun out hout => by simp [hout, hname]
  clear _ w _ hfree := Unclashed.edit fun fault hfault => by
    rcases hchange w.tree with hdeclare | ⟨other, hother, hclash⟩
    · have hok : w.tree.declare scope new = .ok (w.tree.extend scope [new]) :=
        Tree.declare_of_free fun n hn => by
          obtain rfl := Option.some.inj (hname.symm.trans hn)
          exact hfree name (.head _)
      rw [hdeclare, hok] at hfault
      cases hfault
    · obtain rfl := Except.error.inj (hother.symm.trans hfault)
      exact hclash

theorem createField (field : Declaration.Field) : Declaring (Build.createField scope field) scope [field.name] :=
  edit (.field field) rfl (Build.adds_field field) fun t => by
    rw [Tree.declareField]
    split
    · exact .inr ⟨_, rfl, rfl⟩
    · exact .inl rfl

theorem createMethod (method : Declaration.Method) :
    Declaring (Build.createMethod scope method) scope [method.name] :=
  edit (.method method) rfl (Build.adds_method method) fun t => by
    rw [Tree.declareMethod]
    split
    · exact .inr ⟨_, rfl, rfl⟩
    · exact .inl rfl

theorem createRaw (content : Declaration.RawContent) : Declaring (Build.createRaw scope content) scope [] where
  adds := (Build.adds_raw content).mono fun out hout => by rw [hout]; rfl
  clear _ w _ _ := Unclashed.edit fun fault hfault => by
    rw [Tree.declareRaw] at hfault
    split at hfault
    · obtain rfl := Except.error.inj hfault
      rfl
    · cases hfault

theorem createEnum {name : String} {doc : Doc} (entries : List EnumLiteral) :
    Declaring (Build.edit fun t => t.declareEnum scope name doc entries) scope [name] :=
  edit (.enumeration (scope.nameOf name) doc entries) rfl (Build.adds_enum _ _ _) fun _ => .inl rfl

/-- What is declared inside a new type meets nothing there. -/
theorem createType {name : String} {doc : Doc} {shape : Shape} {body : Scope → Build Unit}
    (h : Declaring (body (scope.child name)) (scope.child name) names) (hnames : names.Nodup) :
    Declaring (Build.createType scope name doc shape body) scope [name] where
  adds := (Build.adds_type h.adds).mono fun out hout => by
    obtain ⟨inner, -, rfl⟩ := hout
    rfl
  clear _ w hw hfree := by
    have hok : w.tree.declareType scope name doc shape =
        .ok (w.tree.extend scope [.type (scope.nameOf name) doc shape []]) :=
      Tree.declare_of_free fun n hn => by
        obtain rfl := Option.some.inj hn
        exact hfree name (.head _)
    refine (Unclashed.edit fun fault hfault => ?_).bind fun _ u hedit => ?_
    · rw [hok] at hfault
      cases hfault
    · obtain ⟨tree, htree, rfl⟩ := Build.runOn_edit_ok.1 hedit
      obtain rfl := Except.ok.inj (hok.symm.trans htree)
      -- The scope of the new type is empty: the names inside need only differ from each other.
      refine Unclashed.bind (h.clear hnames _ ?_ fun n hn => ?_) fun _ v hbody => ?_
      · exact (hw.declare (.type (scope.nameOf name) doc shape []) ⟨rfl, trivial⟩ htree).2.1
      · rw [Tree.members_new (hfree name (.head _)) doc shape]
        exact List.not_mem_nil
      · exact Unclashed.of_ok rfl

end Declaring

/-- A run that fills these packages, and that ends with no clash if they differ and are empty. -/
structure Filling {α : Type} (b : Build α) (packages : List String) : Prop where
  lays : Lays b fun stages => ∀ stage ∈ stages, stage.1 ∈ packages
  clear : packages.Nodup → ∀ w, w.tree.Sound →
    (∀ package ∈ packages, w.tree.members (.ofPackage package) = []) → Unclashed b w

namespace Filling

variable {α β : Type} {b : Build α} {f : α → Build β} {packages packages' : List String}

theorem done (a : α) : Filling (pure a) [] where
  lays := (Yields.done chained_stages a).mono fun _ h => by simp [h]
  clear _ _ _ _ := Unclashed.of_ok rfl

theorem note (notice : Notice) : Filling (Build.note notice) [] where
  lays := (Yields.note chained_stages notice).mono fun _ h => by simp [h]
  clear _ _ _ _ := Unclashed.of_ok rfl

theorem notes (notices : List Notice) : Filling (notices.forM Build.note) [] where
  lays := (Yields.notes chained_stages notices).mono fun _ h => by simp [h]
  clear _ w _ _ := Unclashed.of_ok (Build.runOn_notes notices w)

theorem noteMetadata (package : String) (entries : Entries String String) :
    Filling (Build.noteMetadata package entries) [] where
  lays := (Build.lays_metadata package entries).mono fun _ h => by simp [h]
  clear _ _ _ _ := Unclashed.of_ok rfl

theorem seq (h : Filling b packages) (hf : ∀ a, Filling (f a) packages') :
    Filling (b >>= f) (packages ++ packages') where
  lays := by
    refine (Yields.seq chained_stages h.lays fun a => (hf a).lays).mono ?_
    rintro stages ⟨first, second, hfirst, hsecond, rfl⟩ stage hs
    rcases List.mem_append.1 hs with hs | hs
    · exact List.mem_append_left _ (hfirst stage hs)
    · exact List.mem_append_right _ (hsecond stage hs)
  clear hnodup w hw hempty := by
    obtain ⟨hpackages, hpackages', hapart⟩ := List.nodup_append.1 hnodup
    refine (h.clear hpackages w hw fun p hp => hempty p (List.mem_append_left _ hp)).bind fun a u hb => ?_
    obtain ⟨stages, hstages, hlaid, hu⟩ := h.lays w a u hw hb
    refine (hf a).clear hpackages' u hu fun p hp => ?_
    have hnone : Build.under p stages = [] := Build.under_of_ne fun stage hs => hapart _ (hstages stage hs) p hp
    rw [hlaid p, hempty p (List.mem_append_right _ hp), hnone]
    rfl

theorem after (h : Filling b []) (hf : ∀ a, Filling (f a) packages) : Filling (b >>= f) packages :=
  h.seq hf

theorem before (h : Filling b packages) (hf : ∀ a, Filling (f a) []) : Filling (b >>= f) packages := by
  simpa using h.seq hf

theorem forM {ι : Type} {f : ι → Build PUnit} {items : List ι} {packages : ι → List String}
    (h : ∀ item ∈ items, Filling (f item) (packages item)) : Filling (items.forM f) (items.flatMap packages) := by
  induction items with
  | nil => exact done _
  | cons item rest ih => exact seq (h item (.head _)) fun _ => ih fun i hi => h i (.tail _ hi)

theorem ofExcept_bind {ε : Type} {wrap : ε → Failure} {e : Except ε α}
    (hwrap : ∀ fault, e = .error fault → (wrap fault).isClash = false) (h : ∀ a, Filling (f a) packages) : Filling (Build.ofExcept wrap e >>= f) packages where
  lays := Yields.ofExcept_bind fun a _ => (h a).lays
  clear hnodup w hw hempty := by
    refine (Unclashed.ofExcept hwrap).bind fun a u hrun => ?_
    obtain ⟨-, rfl⟩ := Build.runOn_ofExcept_ok.1 hrun
    exact (h a).clear hnodup _ hw hempty

theorem openPackage_bind {package : String} {f : Scope → Build β} {names : List String}
    (h : Declaring (f (.ofPackage package)) (.ofPackage package) names) (hnames : names.Nodup) :
    Filling (Build.openPackage package >>= f) [package] where
  lays := (Build.lays_package h.adds).mono fun stages hstages => by
    obtain ⟨ds, -, rfl⟩ := hstages
    simp
  clear _ w hw hempty := by
    intro failure v hrun
    rw [runOn_bind, Build.runOn_openPackage] at hrun
    refine h.clear hnames _ (hw.openPackage package) (fun name _ => ?_) failure v hrun
    rw [Tree.members_openPackage, hempty package (.head _)]
    exact List.not_mem_nil

theorem openPackage_before {γ : Type} {package : String} {f : Scope → Build γ} {rest : Build α} {names : List String}
    (h : Declaring (f (.ofPackage package)) (.ofPackage package) names) (hnames : names.Nodup)
    (hrest : Filling rest packages) :
    Filling (Build.openPackage package >>= fun scope => f scope >>= fun _ => rest) (package :: packages) := by
  rw [← bind_assoc]
  exact seq (openPackage_bind h hnames) fun _ => hrest

theorem opened {package : String} {f : Scope → Build β} (h : Filling (f (.ofPackage package)) packages) :
    Filling (Build.openPackage package >>= f) packages where
  lays := Build.lays_opened h.lays
  clear hnodup w hw hempty := by
    intro failure v hrun
    rw [runOn_bind, Build.runOn_openPackage] at hrun
    refine h.clear hnodup _ (hw.openPackage package) (fun p hp => ?_) failure v hrun
    rw [Tree.members_openPackage, hempty p hp]

end Filling

end TopicBindings.Generation
