import TopicBindings.Proofs.Generation.Closure
import TopicBindings.Proofs.Service.Grouping
import TopicBindings.Proofs.Source.PackageTexts

/-!
The packages of a run. Below the base package, which the check of the settings accepts, all of them have identifiers as
names, so that they are spelled as they are named; and nothing is noted about any package but the base package, so that its
file says what is known of the description and the others are plain.
-/

namespace TopicBindings

open Declaration (Scope Tree)

namespace Source

theorem isIdentifierPart_of_digit {c : Char} (h : c.isDigit = true) : Character.isIdentifierPart c = true :=
  Character.forall_digit (P := fun c => Character.isIdentifierPart c = true) (by decide) h

theorem isPackageName_of_identifier {name : String} (hdot : '.' ∉ name.toList) (h : isIdentifier name = true)
    (hkeyword : isKeyword name = false) : isPackageName name = true := by
  rw [isPackageName, Text.splitAt_of_not_mem hdot, List.all_cons, h, hkeyword]
  rfl

theorem isPackageName_versionIdentifier {label : String} (h : Service.Dotted label) :
    isPackageName (Naming.versionIdentifier label) = true := by
  have hlist := Service.toList_versionIdentifier label
  have hpart : ∀ c ∈ label.toList, (if c = '.' then '_' else c) ≠ '.' ∧
      Character.isIdentifierPart (if c = '.' then '_' else c) = true := by
    intro c hc
    by_cases hdot : c = '.'
    · rw [if_pos hdot]
      decide
    · rw [if_neg hdot]
      exact ⟨hdot, isIdentifierPart_of_digit (h.isDigit_of_mem hc hdot)⟩
  refine isPackageName_of_identifier ?_ ?_ ?_
  · rw [hlist]
    simpa using fun c hc heq => (hpart c hc).1 heq
  · rw [isIdentifier, hlist]
    simp only [Bool.and_eq_true, List.all_eq_true, List.mem_map]
    refine ⟨by decide, ?_⟩
    rintro _ ⟨c, hc, rfl⟩
    exact (hpart c hc).2
  · have hheads : ∀ word ∈ keywords, word.toList.head? ≠ some 'v' := by decide
    rw [Bool.eq_false_iff, ne_eq, mem_keywords]
    exact fun hmem => hheads _ hmem (by rw [hlist]; rfl)

end Source

namespace Declaration.Tree

def headers (t : Tree) : List (String × Entries String String) :=
  t.packages.map fun entry => (entry.1, entry.2.metadata)

theorem mem_headers {t : Tree} {name : String} {noted : Entries String String} :
    (name, noted) ∈ t.headers ↔ ∃ p, (name, p) ∈ t.packages ∧ p.metadata = noted := by
  simp only [headers, List.mem_map]
  constructor
  · rintro ⟨⟨other, p⟩, hp, heq⟩
    obtain ⟨rfl, rfl⟩ := Prod.mk.inj heq
    exact ⟨p, hp, rfl⟩
  · rintro ⟨p, hp, rfl⟩
    exact ⟨(name, p), hp, rfl⟩

theorem headers_extend (t : Tree) (scope : Scope) (new : List Declaration) : (t.extend scope new).headers = t.headers := by
  simp only [headers, extend, modifyPackage, List.map_map]
  refine List.map_congr_left fun entry _ => ?_
  simp only [Function.comp_apply]
  split <;> rfl

/-- The later tree has the packages of the earlier one with what is noted about them, and may have more of these names, with
nothing noted. -/
def Opened (t : Tree) (names : List String) (t' : Tree) : Prop :=
  t.headers ⊆ t'.headers ∧ ∀ header ∈ t'.headers, header ∈ t.headers ∨ header.1 ∈ names ∧ header.2 = []

theorem opened_openPackage (t : Tree) (name : String) : t.Opened [name] (t.openPackage name) := by
  rw [openPackage]
  split
  · exact ⟨List.Subset.refl _, fun _ h => .inl h⟩
  · rw [Opened, headers, headers, List.map_append]
    refine ⟨List.subset_append_left _ _, fun header h => ?_⟩
    rcases List.mem_append.1 h with h | h
    · exact .inl h
    · obtain rfl := List.mem_singleton.1 h
      exact .inr ⟨.head _, rfl⟩

end Declaration.Tree

namespace Generation

open Build (Adds Extends Yields runOn_bind runOn_openPackage)
open Schema (Message SchemaType)
open Service (Definitions Role)
open Source (RelativePath identifier initPath isPackageName packageSegments packageText plainPackageText render)

namespace Build

theorem chained_opened : Chained Tree.Opened where
  nil _ := ⟨List.Subset.refl _, fun _ h => .inl h⟩
  append h h' := by
    refine ⟨List.Subset.trans h.1 h'.1, fun header hheader => ?_⟩
    rcases h'.2 header hheader with hold | ⟨hname, hnoted⟩
    · exact (h.2 header hold).imp_right fun ⟨hname, hnoted⟩ => ⟨List.mem_append_left _ hname, hnoted⟩
    · exact .inr ⟨List.mem_append_right _ hname, hnoted⟩

variable {α β : Type}

abbrev Opens (b : Build α) (names : List String) : Prop :=
  Yields Tree.Opened b (· = names)

theorem opens_of_adds {b : Build α} {scope : Scope} {P : List Declaration → Prop} (h : Adds b scope P) :
    Opens b [] := by
  intro w a v hw hrun
  obtain ⟨new, -, hnew, hv⟩ := h w a v hw hrun
  rw [Extends] at hnew
  refine ⟨[], rfl, ?_, hv⟩
  rw [hnew, Tree.Opened, Tree.headers_extend]
  exact ⟨List.Subset.refl _, fun _ h => .inl h⟩

theorem opens_package {name : String} {f : Scope → Build β} {names : List String}
    (h : Opens (f (.ofPackage name)) names) : Opens (openPackage name >>= f) (name :: names) := by
  intro w c v hw hrun
  rw [runOn_bind, runOn_openPackage] at hrun
  obtain ⟨_, rfl, hmore, hv⟩ := h _ c v (hw.openPackage name) hrun
  exact ⟨_, rfl, chained_opened.append (w.tree.opened_openPackage name) hmore, hv⟩

theorem opens_seq {b : Build α} {f : α → Build β} {names more : List String} (h : Opens b names)
    (hf : ∀ a, Opens (f a) more) : Opens (b >>= f) (names ++ more) := by
  refine (Yields.seq chained_opened h hf).mono ?_
  rintro out ⟨first, second, rfl, rfl, rfl⟩
  rfl

theorem opens_forM {ι : Type} {f : ι → Build PUnit} {items : List ι} {names : ι → List String}
    (h : ∀ item ∈ items, Opens (f item) (names item)) : Opens (items.forM f) (items.flatMap names) :=
  (Yields.forM chained_opened h).mono fun _ hout => hout.flatMap_of_eq

theorem opens_forM_none {ι : Type} {f : ι → Build PUnit} {items : List ι} (h : ∀ item ∈ items, Opens (f item) []) :
    Opens (items.forM f) [] := by
  have hopens := opens_forM h
  rwa [List.flatMap_eq_nil_iff.2 fun _ _ => rfl] at hopens

end Build

open Build (Opens opens_forM opens_forM_none opens_of_adds opens_package opens_seq)

namespace Connector

theorem opens_assemble (c : Connector) (role : Role) : Opens (c.assemble role) (c.packages role) := by
  have hservices : ∀ version ∈ c.definitions.versions,
      Opens (c.createServices role version.1 version.2) [c.versionPackage role version.1] := fun version _ =>
    opens_package (opens_forM_none fun service _ =>
      opens_of_adds (Yields.before (Build.chained_extends _) (c.adds_serviceInterface role _ service) fun _ =>
        Yields.done (Build.chained_extends _) _))
  rw [packages, Entries.keys, List.map_map, List.map_eq_flatMap]
  refine opens_seq (opens_forM hservices) fun _ => opens_package ?_
  exact opens_of_adds (Yields.before (Build.chained_extends _) (Build.adds_type (c.adds_entryMembers role)) fun _ =>
    Yields.done (Build.chained_extends _) _)

theorem exists_of_mem_packages {c : Connector} {role : Role}
    (h : ∀ label ∈ c.definitions.versions.keys, Service.Dotted label) {name : String} (hname : name ∈ c.packages role) :
    ∃ inner, isPackageName inner = true ∧ name = c.resolver.packageName (some inner) := by
  have hrole : isPackageName role.packageName = true := by cases role <;> decide
  rcases List.mem_append.1 hname with hname | hname
  · obtain ⟨label, hlabel, rfl⟩ := List.mem_map.1 hname
    refine ⟨_, ?_, versionPackage_eq c role label⟩
    rw [Source.isPackageName_append, hrole, Source.isPackageName_versionIdentifier (h label hlabel)]
    rfl
  · exact ⟨role.packageName, hrole, List.mem_singleton.1 hname⟩

end Connector

namespace Plan

def innerPackages (p : Plan) (d : Definitions) : List String :=
  p.messagesPackage :: p.typesPackage :: Role.all.flatMap (Connector.mk p.resolver d).packages

theorem opens_inner (p : Plan) (s : Schema) (d : Definitions) :
    Opens (do
      let messages ← Build.openPackage p.messagesPackage
      (allMessages s).forM fun (_, message) => p.createMessage messages message
      let types ← Build.openPackage p.typesPackage
      s.types.forM fun type => p.createComponent types type.val
      Role.all.forM (Connector.mk p.resolver d).assemble) (p.innerPackages d) := by
  refine opens_package (Yields.after Build.chained_opened
    (opens_forM_none fun entry _ => opens_of_adds (p.adds_message _ entry.2)) fun _ => ?_)
  refine opens_package (Yields.after Build.chained_opened
    (opens_forM_none fun type _ => opens_of_adds (p.adds_component _ type.val)) fun _ => ?_)
  exact opens_forM fun role _ => Connector.opens_assemble _ role

theorem headers_noted (base : String) (about : Schema.About) :
    ((Tree.empty.openPackage base).noteMetadata base (rootMetadata about)).headers = [(base, rootMetadata about)] := by
  obtain ⟨title, version, description⟩ := about
  cases title <;> cases description <;>
    simp [Tree.empty, Tree.openPackage, Tree.noteMetadata, Tree.modifyPackage, Tree.headers, rootMetadata, Entries.update,
      Entries.set]

theorem headers_declareSchema {p : Plan} {s : Schema} {d : Definitions} {journal : List Notice} {w : Workspace}
    (h : (declareSchema s p d).runOn ⟨.empty, journal⟩ = (.ok (), w)) :
    (p.resolver.basePackage, rootMetadata s.about) ∈ w.tree.headers ∧ ∀ header ∈ w.tree.headers,
      header = (p.resolver.basePackage, rootMetadata s.about) ∨ header.1 ∈ p.innerPackages d ∧ header.2 = [] := by
  rw [declareSchema, Binding.Resolver.packageName_none, runOn_bind, runOn_openPackage] at h
  dsimp only at h
  rw [runOn_bind, Build.runOn_noteMetadata] at h
  have hsound := (Tree.Sound.empty.openPackage p.resolver.basePackage).noteMetadata p.resolver.basePackage
    (rootMetadata s.about)
  obtain ⟨_, rfl, hopened, -⟩ := p.opens_inner s d _ _ _ hsound h
  rw [Tree.Opened] at hopened
  dsimp only [Scope.ofPackage] at hopened
  rw [headers_noted] at hopened
  simpa using hopened

theorem exists_of_mem_innerPackages {p : Plan} {d : Definitions} (h : ∀ label ∈ d.versions.keys, Service.Dotted label)
    {name : String} (hname : name ∈ p.innerPackages d) :
    ∃ inner, isPackageName inner = true ∧ name = p.resolver.packageName (some inner) := by
  rcases List.mem_cons.1 hname with rfl | hname
  · exact ⟨Schema.messagesSpace, by decide, rfl⟩
  · rcases List.mem_cons.1 hname with rfl | hname
    · exact ⟨Schema.typesSpace, by decide, rfl⟩
    · obtain ⟨role, -, hname⟩ := List.mem_flatMap.1 hname
      exact Connector.exists_of_mem_packages (c := ⟨p.resolver, d⟩) h hname

end Plan

section Runs

variable {s : Schema} {o : Options} {r : Result}

theorem isPackageName_of_check {baseTopic : Option String} (h : o.check baseTopic = .ok ()) :
    o.effectiveBase baseTopic = "" ∨ isPackageName (o.effectiveBase baseTopic) = true := by
  rw [Options.check] at h
  split at h
  · cases h
  · split at h
    next hfound =>
      by_contra hbase
      rw [not_or] at hbase
      rw [Options.problems] at hfound
      simp [hbase.1, hbase.2] at hfound
    · cases h

theorem isPackageName_packageName {resolver : Binding.Resolver} {inner : String}
    (hbase : resolver.basePackage = "" ∨ isPackageName resolver.basePackage = true) (h : isPackageName inner = true) :
    isPackageName (resolver.packageName (some inner)) = true := by
  have hinner : inner ≠ "" := by
    rintro rfl
    exact absurd h (by decide)
  rw [resolver.packageName_some hinner]
  split
  · exact h
  next hne => rw [Source.isPackageName_append, hbase.resolve_left hne, h, Bool.and_self]

/-- The packages of a run: the base package, described as the description is, and others below it. -/
theorem headers_of_run (h : (run s o []).outcome = .ok r) :
    (o.effectiveBase s.baseTopic, rootMetadata s.about) ∈ r.tree.headers ∧
    (o.effectiveBase s.baseTopic = "" ∨ isPackageName (o.effectiveBase s.baseTopic) = true) ∧
    ∀ header ∈ r.tree.headers, header = (o.effectiveBase s.baseTopic, rootMetadata s.about) ∨
      header.1 ≠ o.effectiveBase s.baseTopic ∧ isPackageName header.1 = true ∧ header.2 = [] := by
  obtain ⟨registry, core, hrun⟩ := finished_of_run h
  obtain ⟨-, rfl⟩ := Prod.mk.inj hrun.extended
  have hbase := isPackageName_of_check hrun.checked
  obtain ⟨hroot, hheaders⟩ := Plan.headers_declareSchema hrun.declared
  refine ⟨hroot, hbase, fun header hheader => (hheaders header hheader).imp_right fun ⟨hname, hnoted⟩ => ?_⟩
  have hdotted : ∀ label ∈ r.definitions.versions.keys, Service.Dotted label := by
    intro label hlabel
    obtain ⟨version, hversion, rfl⟩ := List.mem_map.1 hlabel
    exact Service.dotted_of_mem hrun.aggregated hversion
  obtain ⟨inner, hinner, heq⟩ := Plan.exists_of_mem_innerPackages hdotted hname
  have hne : inner ≠ "" := by
    rintro rfl
    exact absurd hinner (by decide)
  have hapart := (o.plan s registry [] .standard).resolver.packageName_ne_root hne
  rw [Binding.Resolver.packageName_none, ← heq] at hapart
  exact ⟨hapart, heq ▸ isPackageName_packageName hbase hinner, hnoted⟩

/-- The package files of a rendered tree: that of the base package says what is known of the description, the others are
plain. -/
structure BaseDescribed (base : String) (about : Schema.About) (files : Entries RelativePath String) : Prop where
  own : files.lookup (initPath (packageSegments base)) =
    some (packageText (Source.Docstring.render? about.title about.description) (some about.version))
  others : ∀ file ∈ files, file.1.getLast? = some "__init__.py" → file.1 ≠ initPath (packageSegments base) →
    file.2 = plainPackageText

theorem packageFileText_rootMetadata (about : Schema.About) : Source.packageFileText (rootMetadata about) =
    packageText (Source.Docstring.render? about.title about.description) (some about.version) := by
  obtain ⟨title, version, description⟩ := about
  cases title <;> cases description <;> rfl

theorem structured_of_perm {t t' : Tree} (ht : t.packages.Perm t'.packages) (h : t'.Structured) : t.Structured := by
  intro unit hunit
  obtain ⟨p, hp, hd⟩ := Tree.mem_units_iff.1 hunit
  exact h unit (Tree.mem_units_iff.2 ⟨p, ht.mem_iff.1 hp, hd⟩)

theorem base_or_plain_of_perm (h : (run s o []).outcome = .ok r) {t : Tree} (ht : t.packages.Perm r.tree.packages) :
    ∀ entry ∈ t.packages,
      entry.1 = o.effectiveBase s.baseTopic ∧ entry.2.metadata = rootMetadata s.about ∨
        isPackageName entry.1 = true ∧ entry.2.metadata = [] := by
  obtain ⟨-, -, hheaders⟩ := headers_of_run h
  intro entry hentry
  rcases hheaders _ (Tree.mem_headers.2 ⟨entry.2, ht.mem_iff.1 hentry, rfl⟩) with heq | ⟨-, hvalid, hempty⟩
  · exact .inl (Prod.mk.inj heq)
  · exact .inr ⟨hvalid, hempty⟩

theorem base_package_kept (h : (run s o []).outcome = .ok r) {t : Tree} (ht : t.packages.Perm r.tree.packages)
    {files : Entries RelativePath String} (hfiles : render t = .ok files) :
    o.effectiveBase s.baseTopic ∈ t.names ∧ Source.Verbatim t ∧
      BaseDescribed (o.effectiveBase s.baseTopic) s.about files := by
  obtain ⟨registry, hbuilt⟩ := built_of_run h
  have hstructured := structured_of_perm ht (hbuilt.structured (by simp))
  obtain ⟨hroot, hbase, -⟩ := headers_of_run h
  have hcases := base_or_plain_of_perm h ht
  obtain ⟨p, hp, hnoted⟩ := Tree.mem_headers.1 hroot
  have hthere := ht.mem_iff.2 hp
  have hnames : ∀ name ∈ t.names, name = "" ∨ isPackageName name = true := by
    intro name hname
    obtain ⟨entry, hentry, rfl⟩ := List.mem_map.1 hname
    rcases hcases entry hentry with ⟨heq, -⟩ | ⟨hvalid, -⟩
    · exact heq ▸ hbase
    · exact .inr hvalid
  -- Only the base package has something noted about it, so that its directory is the only one with a text of its own.
  have hown : ∀ entry ∈ t.packages,
      Source.packageDirectory entry.1 = .ok (packageSegments (o.effectiveBase s.baseTopic)) →
      entry.2.metadata.isEmpty = false → Source.packageFileText entry.2.metadata =
        packageText (Source.Docstring.render? s.about.title s.about.description) (some s.about.version) := by
    intro entry hentry _ hnonempty
    rcases hcases entry hentry with ⟨-, heq⟩ | ⟨-, hempty⟩
    · rw [heq, packageFileText_rootMetadata]
    · rw [hempty] at hnonempty
      cases hnonempty
  have hothers : ∀ entry ∈ t.packages, ∀ d, Source.packageDirectory entry.1 = .ok d →
      d ≠ packageSegments (o.effectiveBase s.baseTopic) → entry.2.metadata.isEmpty = true := by
    intro entry hentry d hd hne
    rcases hcases entry hentry with ⟨heq, -⟩ | ⟨-, hempty⟩
    · rw [heq, Source.packageDirectory_eq hbase] at hd
      exact absurd (Except.ok.inj hd).symm hne
    · rw [hempty]
      rfl
  have hsome : ∃ entry ∈ t.packages, entry.2.metadata.isEmpty = false :=
    ⟨_, hthere, by rw [hnoted]; rfl⟩
  obtain ⟨hfile, hplain⟩ := Source.described_of_render hstructured hown hothers hsome hfiles
  exact ⟨List.mem_map_of_mem hthere, Source.verbatim_of_isPackageName hnames, hfile, hplain⟩

/-- A base package of two segments, and all packages in the opposite order. -/
theorem base_package_kept_reversed : ∃ r files,
    (run .sample { sampleOptions with basePackage := some "acme.api" } []).outcome = .ok r ∧
    render ⟨r.tree.packages.reverse⟩ = .ok files ∧ "acme.api" ∈ (Tree.mk r.tree.packages.reverse).names ∧
    Source.Verbatim ⟨r.tree.packages.reverse⟩ ∧ BaseDescribed "acme.api" Schema.sample.about files := by
  have hrendered : ∃ files, (run .sample { sampleOptions with basePackage := some "acme.api" } []).outcome >>=
      (fun r => (render ⟨r.tree.packages.reverse⟩).mapError .spelling) = .ok files :=
    Outcome.exists_ok_of_isSome (by decide +kernel)
  obtain ⟨files, hrendered⟩ := hrendered
  obtain ⟨r, hr, hfiles⟩ := Outcome.bind_ok.1 hrendered
  have hfiles := Outcome.mapError_ok.1 hfiles
  obtain ⟨hthere, hverbatim, hdescribed⟩ := base_package_kept hr (List.reverse_perm _) hfiles
  have hbase : ({ sampleOptions with basePackage := some "acme.api" } : Options).effectiveBase Schema.sample.baseTopic =
      "acme.api" := by decide
  rw [hbase] at hthere hdescribed
  exact ⟨r, files, hr, hfiles, hthere, hverbatim, hdescribed⟩

end Runs

end Generation

end TopicBindings
