import TopicBindings.Proofs.Generation.Accessors
import TopicBindings.Proofs.Generation.Calls
import TopicBindings.Proofs.Generation.Identifiers
import TopicBindings.Proofs.Registry
import TopicBindings.Proofs.Service.Latest

/-!
Why a run fails because a name is taken. It does so only if two entries of the description that belong to one scope come
to one identifier, if a service is accessed as a version is, or if a property has the name of its own type.
-/

namespace TopicBindings.Generation

open Declaration (Scope Tree)
open Schema (DeclaredType Message Property SchemaType)
open Service (Definitions Dotted Role)

section Filling

theorem TopicLookup.isClash_of_entries {c : Context} {topic : Topic} {failure : Failure}
    (h : TopicLookup.entries c topic = .error failure) : failure.isClash = false := by
  have hentry : ∀ {ref : Schema.MessageRef}, TopicLookup.entry c topic.name ref = .error failure →
      failure.isClash = false := by
    intro ref h
    rcases Outcome.bind_error.1 h with h | ⟨name, -, h⟩
    · rcases Outcome.bind_error.1 h with h | ⟨message, -, h⟩
      · obtain ⟨fault, -, rfl⟩ := Outcome.mapError_error.1 h
        rfl
      · cases h
    · rcases Outcome.bind_error.1 h with h | ⟨target, -, h⟩
      · obtain ⟨fault, -, rfl⟩ := Outcome.mapError_error.1 h
        rfl
      · cases h
  rcases Outcome.bind_error.1 h with h | ⟨publish, -, h⟩
  · obtain ⟨ref, -, h⟩ := Outcome.exists_of_mapM_error h
    exact hentry h
  · rcases Outcome.bind_error.1 h with h | ⟨subscribe, -, h⟩
    · obtain ⟨ref, -, h⟩ := Outcome.exists_of_mapM_error h
      exact hentry h
    · cases h

theorem TopicLookup.filling_generate (c : Context) :
    Filling (TopicLookup.generate c) [c.resolver.packageName (some TopicLookup.package)] := by
  refine Filling.ofExcept_bind (fun fault hfault => ?_) fun rows => ?_
  · obtain ⟨topic, -, h⟩ := Outcome.exists_of_mapM_error hfault
    exact TopicLookup.isClash_of_entries h
  · refine Filling.openPackage_bind (Declaring.before (Declaring.createType (Declaring.createRaw _) .nil) fun _ =>
      Declaring.note _) (List.nodup_singleton _)

/-- Whether the identifiers of the messages and components differ, and those inside of each of them. -/
structure Apart (s : Schema) : Prop where
  messages : ((allMessages s).map fun entry => Naming.typeName entry.2.name).Nodup
  components : (s.types.flatMap fun type => (type.val.introduced.map Naming.typeName).toList).Nodup
  inner : ∀ type ∈ declaredTypes s, type.Apart

theorem filling_schema {s : Schema} (p : Plan) {d : Definitions} (hnamed : s.MessagesNamed) (h : Apart s)
    (hd : (Connector.mk p.resolver d).Apart) : Filling (declareSchema s p d)
      (p.messagesPackage :: p.typesPackage :: Role.all.flatMap (Connector.mk p.resolver d).packages) := by
  have hmessages : Declaring ((allMessages s).forM fun entry =>
      p.createMessage (.ofPackage p.messagesPackage) entry.2) (.ofPackage p.messagesPackage)
      ((allMessages s).flatMap fun entry => [Naming.typeName entry.2.name]) :=
    Declaring.forM fun entry hentry => Plan.declaring_message
      (fun type htype => h.inner type (List.mem_append_left _ (List.mem_flatMap.2 ⟨entry, hentry, htype⟩)))
      (hnamed.payload (of_mem_allMessages hentry).2)
  have htypes : Declaring (s.types.forM fun type => p.createComponent (.ofPackage p.typesPackage) type.val)
      (.ofPackage p.typesPackage) (s.types.flatMap fun type => (type.val.introduced.map Naming.typeName).toList) :=
    Declaring.forM fun component hcomponent => Plan.declaring_component fun type htype =>
      h.inner type (List.mem_append_right _ (List.mem_flatMap.2 ⟨component, hcomponent, htype⟩))
  have hnames := h.messages
  rw [List.map_eq_flatMap] at hnames
  refine Filling.opened (Filling.after (Filling.noteMetadata _ _) fun _ => ?_)
  exact Filling.openPackage_before hmessages hnames (Filling.openPackage_before htypes h.components
    (Filling.forM fun role _ => Connector.filling_assemble hd))

theorem filling_extensions (p : Plan) (d : Definitions) (h : ∀ e ∈ p.extensions, e = TopicLookup.extension) :
    Filling (runExtensions p d)
      (p.extensions.flatMap fun _ => [p.resolver.packageName (some TopicLookup.package)]) :=
  Filling.forM fun e he => Filling.after (Filling.note _) fun _ => by
    rw [h e he]
    exact TopicLookup.filling_generate ⟨p.resolver, d⟩

theorem nodup_allPackages {p : Plan} {d : Definitions} (hextensions : p.extensions.Sublist [TopicLookup.extension])
    (hversions : d.versions.keys.Nodup) (hdotted : ∀ label ∈ d.versions.keys, Dotted label) :
    ((p.messagesPackage :: p.typesPackage :: Role.all.flatMap (Connector.mk p.resolver d).packages) ++
      p.extensions.flatMap fun _ => [p.resolver.packageName (some TopicLookup.package)]).Nodup := by
  have hroles : ∀ {space : String}, space ≠ "" → (∀ role : Role, ¬ role.packageName.toList <+: space.toList) →
      p.resolver.packageName (some space) ∉ Role.all.flatMap (Connector.mk p.resolver d).packages :=
    fun hspace hrole hmem => by
      obtain ⟨role, -, hmem⟩ := List.mem_flatMap.1 hmem
      exact Connector.packages_ne_space ⟨p.resolver, d⟩ hspace (hrole role) hmem rfl
  have hextra : (p.extensions.flatMap fun _ => [p.resolver.packageName (some TopicLookup.package)]).Sublist
      [p.resolver.packageName (some TopicLookup.package)] := by
    rw [← List.map_eq_flatMap]
    exact hextensions.map _
  -- There is one table at most; with it the packages differ by the segment behind the base package.
  refine List.Nodup.sublist (List.Sublist.append_left hextra _) ?_
  refine List.nodup_append.2 ⟨List.nodup_cons.2 ⟨?_, List.nodup_cons.2 ⟨?_, ?_⟩⟩, List.nodup_singleton _, ?_⟩
  · rw [List.mem_cons, not_or]
    exact ⟨p.messagesPackage_ne_typesPackage, hroles (by decide) fun role => by cases role <;> decide⟩
  · exact hroles (by decide) fun role => by cases role <;> decide
  · exact Connector.nodup_packages hversions hdotted
  · rintro package hpackage other hother rfl
    obtain rfl := List.mem_singleton.1 hother
    rcases List.mem_cons.1 hpackage with heq | hpackage
    · exact absurd (p.resolver.packageName_inj (by decide) (by decide) heq) (by decide)
    rcases List.mem_cons.1 hpackage with heq | hpackage
    · exact absurd (p.resolver.packageName_inj (by decide) (by decide) heq) (by decide)
    · exact hroles (by decide) (fun role => by cases role <;> decide) hpackage

/-- A run over a description with identifiers that differ does not end because a name is taken. -/
theorem unclashed_build {s : Schema} {o : Options} {extensions : List Extension} (hnamed : s.MessagesNamed)
    (hextensions : extensions.Sublist [TopicLookup.extension])
    (h : ∀ registry, Registry.ofSchema s = .ok registry → Apart s)
    (hd : ∀ c : Connector, Service.aggregate s.topics o.validateTopics = .ok c.definitions → c.Apart) :
    Unclashed (build s o extensions .standard) .empty := by
  refine (Unclashed.ofExcept fun _ _ => rfl).bind fun _ w hrun => ?_
  obtain ⟨-, rfl⟩ := Build.runOn_ofExcept_ok.1 hrun
  refine (Unclashed.ofExcept fun _ _ => rfl).bind fun registry w hrun => ?_
  obtain ⟨hregistry, rfl⟩ := Build.runOn_ofExcept_ok.1 hrun
  refine (Unclashed.ofExcept fun _ _ => rfl).bind fun d w hrun => ?_
  obtain ⟨haggregate, rfl⟩ := Build.runOn_ofExcept_ok.1 hrun
  have hversions := Service.distinct_versions haggregate
  have hdotted : ∀ label ∈ d.versions.keys, Dotted label := by
    intro label hlabel
    obtain ⟨version, hversion, rfl⟩ := List.mem_map.1 hlabel
    exact Service.dotted_of_mem haggregate hversion
  -- After the checks, every package is filled once, first for the description and then by the extensions.
  have hfilling := Filling.after (Filling.notes (aggregationNotices d)) fun _ =>
    Filling.seq (filling_schema (o.plan s registry extensions .standard) hnamed (h registry hregistry)
      (hd _ haggregate)) fun _ =>
    Filling.before (filling_extensions (o.plan s registry extensions .standard) d fun e he =>
      List.mem_singleton.1 (hextensions.subset he)) fun _ => Filling.done d
  exact hfilling.clear (nodup_allPackages hextensions hversions.versions hdotted) .empty Tree.Sound.empty fun _ _ => rfl

end Filling

section Causes

/-- Two entries of a description that belong to one scope and come to one identifier. -/
inductive Coincidence (s : Schema) : Prop
  /-- Two services of one version. -/
  | services {t t' : Topic} : t ∈ s.topics → t' ∈ s.topics →
      t.classification.version = t'.classification.version → t.classification.service ≠ t'.classification.service →
      Service.typeName t.classification.service = Service.typeName t'.classification.service → Coincidence s
  /-- Two services with one access. -/
  | accessors {t t' : Topic} : t ∈ s.topics → t' ∈ s.topics → t.classification.service ≠ t'.classification.service →
      Connector.serviceAccessor t.classification.service = Connector.serviceAccessor t'.classification.service →
      Coincidence s
  /-- Two topics with messages, of one version and service. -/
  | topics {t t' : Topic} : [t, t'].Sublist s.topics → t.carriesMessage = true → t'.carriesMessage = true →
      t.classification.version = t'.classification.version → t.classification.service = t'.classification.service →
      t.classification.methodName = t'.classification.methodName → Coincidence s
  | messages {m m' : Message} : m ∈ s.messages ++ s.topics.flatMap inlineMessages →
      m' ∈ s.messages ++ s.topics.flatMap inlineMessages → m.name ≠ m'.name →
      Naming.typeName m.name = Naming.typeName m'.name → Coincidence s
  /-- Two components, or the items of arrays that are components. -/
  | components {a b : DeclaredType} {name name' : String} : [a, b].Sublist s.types → a.val.introduced = some name →
      b.val.introduced = some name' → Naming.typeName name = Naming.typeName name' → Coincidence s
  /-- Two properties of one object, or the types that they introduce. -/
  | properties {place : Schema.Place} {properties : List (Property SchemaType)} {doc : Schema.Documentation}
      {a b : Property SchemaType} {identifier : String} : .object place properties doc ∈ declaredTypes s →
      [a, b].Sublist properties → identifier ∈ a.identifiers → identifier ∈ b.identifiers → Coincidence s
  | literals {place : Schema.Place} {literals : List String} {doc : Schema.Documentation} {l l' : String} :
      .enumeration place literals doc ∈ declaredTypes s → [l, l'].Sublist literals →
      Naming.constantName l = Naming.constantName l' → Coincidence s

/-- What is derived from one entry and comes to one identifier with something else that is derived. -/
inductive SelfCollision (s : Schema) : Prop
  /-- A service is accessed like a version. -/
  | accessor {t t' : Topic} : t ∈ s.topics → t' ∈ s.topics →
      Connector.serviceAccessor t.classification.service = Naming.versionIdentifier t'.classification.version →
      SelfCollision s
  /-- The field of a property is called like the type that the property introduces. -/
  | property {place : Schema.Place} {properties : List (Property SchemaType)} {doc : Schema.Documentation}
      {property : Property SchemaType} {name : String} : .object place properties doc ∈ declaredTypes s →
      property ∈ properties → property.type.introduced = some name →
      Naming.typeName name = Naming.lowerUnderscore property.name → SelfCollision s

variable {s : Schema} {validate : Bool} {c : Connector}

theorem apart_of_inner {type : SchemaType} (htype : type ∈ declaredTypes s) (h : ¬ Coincidence s)
    (hself : ¬ SelfCollision s) : type.Apart := by
  cases type with
  | object place properties doc =>
      refine List.nodup_flatMap.2 ⟨fun property hproperty => ?_, List.pairwise_iff_forall_sublist.2 ?_⟩
      · rw [Property.identifiers]
        cases hname : property.type.introduced with
        | none => exact List.nodup_singleton _
        | some name =>
            simpa using fun heq => hself (.property htype hproperty hname heq)
      · exact fun hab identifier ha hb => h (.properties htype hab ha hb)
  | enumeration place literals doc =>
      exact List.pairwise_map.2 (List.pairwise_iff_forall_sublist.2 fun hl heq => h (.literals htype hl heq))
  | _ => trivial

theorem apart_of_no_coincidence {registry : Registry} (hregistry : Registry.ofSchema s = .ok registry)
    (h : ¬ Coincidence s) (hself : ¬ SelfCollision s) : Apart s where
  messages := by
    have hmem : ∀ entry ∈ allMessages s, entry.2 ∈ s.messages ++ s.topics.flatMap inlineMessages := by
      intro entry hentry
      rcases (of_mem_allMessages hentry).2 with hm | ⟨t, ht, hm⟩
      · exact List.mem_append_left _ hm
      · exact List.mem_append_right _ (List.mem_flatMap.2 ⟨t, ht, mem_inlineMessages.2 hm⟩)
    -- Messages of one name are declared once, so two declared messages have different names.
    have hkeys := nodup_keys_allMessages (Registry.nodup_messages hregistry)
    refine List.pairwise_map.2 ((List.pairwise_map.1 hkeys).imp_of_mem fun {entry other} hentry hother hne heq => ?_)
    rw [(of_mem_allMessages hentry).1, (of_mem_allMessages hother).1] at hne
    exact h (.messages (hmem entry hentry) (hmem other hother) hne heq)
  components := by
    refine List.nodup_flatMap.2 ⟨fun type _ => ?_, List.pairwise_iff_forall_sublist.2 ?_⟩
    · cases type.val.introduced with
      | none => exact .nil
      | some name => exact List.nodup_singleton _
    · intro a b hab identifier ha hb
      simp only [Option.mem_toList, Option.map_eq_some_iff] at ha hb
      obtain ⟨name, hname, rfl⟩ := ha
      obtain ⟨name', hname', heq⟩ := hb
      exact h (.components hab hname hname' heq.symm)
  inner type htype := apart_of_inner htype h hself

theorem exists_of_service (haggregate : Service.aggregate s.topics validate = .ok c.definitions)
    {version : String × Entries String (List Topic)} (hversion : version ∈ c.definitions.versions) {service : String}
    (hservice : service ∈ version.2.keys) :
    ∃ t ∈ s.topics, t.classification.version = version.1 ∧ t.classification.service = service := by
  rwa [Service.keys_services haggregate hversion, Service.mem_servicesAt] at hservice

theorem exists_of_latest (haggregate : Service.aggregate s.topics validate = .ok c.definitions)
    {entry : String × Service.Latest} (hentry : entry ∈ c.definitions.latest) :
    ∃ t ∈ s.topics, t.classification.service = entry.2.service ∧ Service.typeName t.classification.service = entry.1 := by
  have hlookup := Entries.lookup_of_mem (Service.nodup_keys_latest haggregate) hentry
  obtain ⟨t, ht, hservice⟩ := Option.map_eq_some_iff.1 (Service.latestAmong_of_lookup haggregate hlookup).first
  have htype := List.find?_some ht
  simp only [decide_eq_true_eq] at htype
  exact ⟨t, List.mem_of_find?_eq_some ht, hservice, htype.2⟩

theorem nodup_entryIdentifiers (haggregate : Service.aggregate s.topics validate = .ok c.definitions)
    (h : ¬ Coincidence s) (hself : ¬ SelfCollision s) : c.entryIdentifiers.Nodup := by
  have hlabels : ∀ label ∈ c.definitions.versions.keys, ∃ t ∈ s.topics, t.classification.version = label :=
    fun label hlabel => (Service.mem_keys_versions haggregate).1 hlabel
  have hdotted : ∀ label ∈ c.definitions.versions.keys, Dotted label := by
    intro label hlabel
    obtain ⟨t, -, rfl⟩ := hlabels label hlabel
    exact Service.dotted_classification t
  refine List.nodup_append.2
    ⟨Connector.nodup_versionIdentifiers (Service.distinct_versions haggregate).versions hdotted, ?_, ?_⟩
  · refine List.pairwise_map.2 ((List.pairwise_map.1 (Service.nodup_keys_latest haggregate)).imp_of_mem ?_)
    intro entry other hentry hother hne heq
    obtain ⟨t, ht, hservice, htype⟩ := exists_of_latest haggregate hentry
    obtain ⟨t', ht', hservice', htype'⟩ := exists_of_latest haggregate hother
    rw [← hservice, ← hservice'] at heq
    exact h (.accessors ht ht' (fun hsame => hne (by rw [← htype, ← htype', hsame])) heq)
  -- The interface of a version begins with a capital, so a service can only meet the access to a version.
  · rintro name hname other hother rfl
    obtain ⟨label, hlabel, hname⟩ := List.mem_flatMap.1 hname
    obtain ⟨entry, hentry, haccess⟩ := List.mem_map.1 hother
    obtain ⟨t, ht, hservice, -⟩ := exists_of_latest haggregate hentry
    obtain ⟨t', ht', rfl⟩ := hlabels label hlabel
    rcases List.mem_cons.1 hname with hname | hname
    · exact Connector.versionTypeName_ne_serviceAccessor (hdotted _ hlabel) _ (hname.symm.trans haccess.symm)
    · rw [← hservice] at haccess
      exact hself (.accessor ht ht' (haccess.trans (List.mem_singleton.1 hname)))

theorem mem_identifiers (haggregate : Service.aggregate s.topics validate = .ok c.definitions) {t : Topic}
    (ht : t ∈ s.topics) {identifier : String} (h : identifier ∈ c.identifiers t) :
    t.carriesMessage = true ∧ identifier = t.classification.methodName := by
  rw [Connector.identifiers] at h
  split at h
  next hcarries =>
    rw [List.mem_singleton, Connector.methodName, Service.information_of_mem haggregate ht] at h
    exact ⟨hcarries, h⟩
  · cases h

theorem connector_apart (haggregate : Service.aggregate s.topics validate = .ok c.definitions)
    (h : ¬ Coincidence s) (hself : ¬ SelfCollision s) : c.Apart where
  services version hversion := by
    refine ((Service.distinct_versions haggregate).services version hversion).map_on ?_
    intro service hservice other hother heq
    obtain ⟨t, ht, hlabel, rfl⟩ := exists_of_service haggregate hversion hservice
    obtain ⟨t', ht', hlabel', rfl⟩ := exists_of_service haggregate hversion hother
    by_contra hne
    exact h (.services ht ht' (hlabel.trans hlabel'.symm) hne heq)
  accessors version hversion := by
    refine ((Service.distinct_versions haggregate).services version hversion).map_on ?_
    intro service hservice other hother heq
    obtain ⟨t, ht, -, rfl⟩ := exists_of_service haggregate hversion hservice
    obtain ⟨t', ht', -, rfl⟩ := exists_of_service haggregate hversion hother
    by_contra hne
    exact h (.accessors ht ht' hne heq)
  topics version hversion service hservice := by
    rw [Service.topics_of_service haggregate hversion hservice]
    refine List.nodup_flatMap.2 ⟨fun t _ => ?_, List.pairwise_iff_forall_sublist.2 ?_⟩
    · rw [Connector.identifiers]
      split
      · exact List.nodup_singleton _
      · exact .nil
    · intro t t' hpair identifier ht ht'
      have hin : ∀ t ∈ s.topics.filter (Topic.belongsTo version.1 service.1), t ∈ s.topics ∧
          t.classification.version = version.1 ∧ t.classification.service = service.1 := by
        intro t ht
        simpa [Topic.belongsTo] using ht
      obtain ⟨hmem, hlabel, hservice⟩ := hin t (hpair.subset (.head _))
      obtain ⟨hmem', hlabel', hservice'⟩ := hin t' (hpair.subset (.tail _ (.head _)))
      obtain ⟨hcarries, rfl⟩ := mem_identifiers haggregate hmem ht
      obtain ⟨hcarries', hname⟩ := mem_identifiers haggregate hmem' ht'
      exact h (.topics (hpair.trans List.filter_sublist) hcarries hcarries' (hlabel.trans hlabel'.symm)
        (hservice.trans hservice'.symm) hname)
  entry := nodup_entryIdentifiers haggregate h hself

/-- A run fails because a name is taken only if two entries coincide, a service is accessed like a version, or a property
is called like its own type. -/
theorem clash_explained {text : String} {o : Options} {extensions : List Extension} {failure : Failure}
    (hread : Schema.ofText text = .ok s) (hextensions : extensions.Sublist [TopicLookup.extension])
    (hrun : (run s o extensions).outcome = .error failure) (hclash : failure.isClash = true) :
    Coincidence s ∨ SelfCollision s := by
  by_contra hnone
  rw [not_or] at hnone
  have hunclashed := unclashed_build (o := o) (Schema.messagesNamed_of_text hread) hextensions
    (fun registry hregistry => apart_of_no_coincidence hregistry hnone.1 hnone.2)
    fun c haggregate => connector_apart haggregate hnone.1 hnone.2
  rcases hbuild : (build s o extensions .standard).runOn .empty with ⟨e | d, w⟩
  · rw [run, hbuild] at hrun
    obtain rfl : e = failure := Except.error.inj hrun
    exact absurd hclash (Bool.eq_false_iff.1 (hunclashed _ _ hbuild))
  · rw [run, hbuild] at hrun
    cases hrun

/-- Two literals of an enumeration have one constant. -/
def twinLiteralsText : String :=
  "\x7basyncapi: 1.0.0,host: h,info: \x7bversion: v\x7d,topics: \x7b\x7d,components: \x7bschemas: \x7b" ++
  "A: \x7btype: string,enum: [a b,aB]\x7d\x7d\x7d\x7d"

def twinLiterals : Schema where
  baseTopic := none
  host := "h"
  schemes := []
  about := ⟨none, "v", none⟩
  topics := []
  messages := []
  types := [⟨.enumeration ⟨Schema.typesSpace, [], "A"⟩ ["a b", "aB"] ⟨none, none⟩, rfl⟩]

set_option maxRecDepth 100000 in
theorem clash_explained_twin_literals : Schema.ofText twinLiteralsText = .ok twinLiterals ∧
    (∃ failure, (run twinLiterals sampleOptions [TopicLookup.extension]).outcome = .error failure ∧
      failure.isClash = true) ∧ (Coincidence twinLiterals ∨ SelfCollision twinLiterals) := by
  have hread : Schema.ofText twinLiteralsText = .ok twinLiterals := Schema.ofText_eq_of_decide (by decide +kernel)
  obtain ⟨failure, hrun, hclash⟩ : ∃ failure,
      (run twinLiterals sampleOptions [TopicLookup.extension]).outcome = .error failure ∧ failure.isClash = true :=
    Outcome.exists_error_of_any (by decide +kernel)
  exact ⟨hread, ⟨failure, hrun, hclash⟩, clash_explained hread (List.Sublist.refl _) hrun hclash⟩

def entryCount : SchemaType → Nat
  | .object _ properties _ => properties.length
  | .enumeration _ literals _ => literals.length
  | _ => 0

theorem no_coincidence_of_alone (htopics : s.topics.length ≤ 1)
    (hmessages : (s.messages ++ s.topics.flatMap inlineMessages).length ≤ 1) (htypes : s.types.length ≤ 1)
    (hinner : ∀ type ∈ declaredTypes s, entryCount type ≤ 1) : ¬ Coincidence s := by
  have hsame : ∀ {α : Type} {xs : List α} {a b : α}, xs.length ≤ 1 → a ∈ xs → b ∈ xs → a = b := by
    intro α xs a b hlength ha hb
    cases xs with
    | nil => cases ha
    | cons x rest =>
        obtain rfl : rest = [] := List.length_eq_zero_iff.1 (Nat.le_zero.1 (Nat.le_of_succ_le_succ hlength))
        rw [List.mem_singleton.1 ha, List.mem_singleton.1 hb]
  have hpair : ∀ {α : Type} {xs : List α} {a b : α}, xs.length ≤ 1 → ¬ [a, b].Sublist xs := fun hlength hsub =>
    absurd (hsub.length_le.trans hlength) (by simp)
  rintro (⟨ht, ht', -, hne, -⟩ | ⟨ht, ht', hne, -⟩ | ⟨hsub, -⟩ | ⟨hm, hm', hne, -⟩ | ⟨hsub, -⟩ | ⟨htype, hsub, -⟩ |
    ⟨htype, hsub, -⟩)
  · exact hne (by rw [hsame htopics ht ht'])
  · exact hne (by rw [hsame htopics ht ht'])
  · exact hpair htopics hsub
  · exact hne (by rw [hsame hmessages hm hm'])
  · exact hpair htypes hsub
  · exact hpair (hinner _ htype) hsub
  · exact hpair (hinner _ htype) hsub

/-- The only topic belongs to a service that is called like its version. -/
def versionNamedText : String :=
  "\x7basyncapi: 1.0.0,host: h,info: \x7bversion: v\x7d,topics: \x7bv1.1.t.r.a: \x7b" ++
  "publish: \x7bpayload: \x7btype: string\x7d\x7d\x7d\x7d\x7d"

def versionNamed : Schema where
  baseTopic := none
  host := "h"
  schemes := []
  about := ⟨none, "v", none⟩
  topics := [⟨"v1.1.t.r.a", some (.inline ⟨"Publish.v1.1.t.r.a", .primitive "payload" .string ⟨none, none⟩, none, none,
    false⟩), none⟩]
  messages := []
  types := []

/-- The only property introduces a type, and its name has no letters with case. -/
def caselessText : String :=
  "\x7basyncapi: 1.0.0,host: h,info: \x7bversion: v\x7d,topics: \x7b\x7d,components: \x7bschemas: \x7b" ++
  "A: \x7btype: object,properties: \x7b日: \x7btype: string,enum: [c]\x7d\x7d\x7d\x7d\x7d\x7d"

def caseless : Schema where
  baseTopic := none
  host := "h"
  schemes := []
  about := ⟨none, "v", none⟩
  topics := []
  messages := []
  types := [⟨.object ⟨Schema.typesSpace, [], "A"⟩
    [⟨"日", .enumeration ⟨Schema.typesSpace, ["A"], "日"⟩ ["c"] ⟨none, none⟩, false, none⟩] ⟨none, none⟩, rfl⟩]

set_option maxRecDepth 100000 in
theorem clash_without_coincidence :
    (Schema.ofText versionNamedText = .ok versionNamed ∧ ¬ Coincidence versionNamed ∧
      ∃ failure, (run versionNamed sampleOptions []).outcome = .error failure ∧ failure.isClash = true) ∧
    Schema.ofText caselessText = .ok caseless ∧ ¬ Coincidence caseless ∧
      ∃ failure, (run caseless sampleOptions []).outcome = .error failure ∧ failure.isClash = true :=
  ⟨⟨Schema.ofText_eq_of_decide (by decide +kernel),
      no_coincidence_of_alone (by decide) (by decide) (by decide) (by decide),
      Outcome.exists_error_of_any (by decide +kernel)⟩,
    Schema.ofText_eq_of_decide (by decide +kernel),
    no_coincidence_of_alone (by decide) (by decide) (by decide) (by decide),
    Outcome.exists_error_of_any (by decide +kernel)⟩

end Causes

end TopicBindings.Generation
