import TopicBindings.Proofs.Generation.ServiceInterfaces
import TopicBindings.Proofs.Generation.Unclashed
import TopicBindings.Proofs.Naming.Initials

/-!
The identifiers of the interfaces. The interface of a service has a method for every topic with a message, the one of a
version gives access to its services, and the one of a role gives access to every version and to the latest version of
every service. If the identifiers of each interface differ, the interfaces are declared with no clash.
-/

namespace TopicBindings.Generation

open Declaration (Method Scope Shape)
open Service (Dotted Role)

namespace Connector

variable {c : Connector} {role : Role} {scope : Scope}

section Identifiers

def identifiers (c : Connector) (t : Topic) : List String :=
  if t.carriesMessage then [c.methodName t] else []

def versionIdentifiers (version : String) : List String :=
  [versionTypeName version, Naming.versionIdentifier version]

def entryIdentifiers (c : Connector) : List String :=
  c.definitions.versions.keys.flatMap versionIdentifiers ++
    c.definitions.latest.map fun entry => serviceAccessor entry.2.service

structure Apart (c : Connector) : Prop where
  services : ∀ version ∈ c.definitions.versions, (version.2.keys.map Service.typeName).Nodup
  accessors : ∀ version ∈ c.definitions.versions, (version.2.keys.map serviceAccessor).Nodup
  topics : ∀ version ∈ c.definitions.versions, ∀ service ∈ version.2, (service.2.flatMap c.identifiers).Nodup
  entry : c.entryIdentifiers.Nodup

theorem name_of_topicMethod {t : Topic} {method : Method} (h : c.topicMethod role t = .ok (some method)) :
    c.identifiers t = [method.name] := by
  obtain ⟨e?, hoffer, h⟩ := Outcome.bind_ok.1 h
  obtain ⟨e, rfl, rfl⟩ := Option.map_eq_some_iff.1 (Outcome.pure_ok.1 h)
  rcases offer_ok hoffer with ⟨hnone, -⟩ | ⟨e', -, hcarries, -⟩
  · cases hnone
  · exact if_pos hcarries

theorem declaring_topicMethod (t : Topic) :
    Declaring (c.createTopicMethod role scope t) scope (c.identifiers t) := by
  refine Declaring.ofExcept_bind (fun _ _ => rfl) fun method? hmethod => ?_
  cases method? with
  | none =>
      rw [identifiers, silent_of_topicMethod hmethod]
      exact Declaring.note _
  | some method =>
      rw [name_of_topicMethod hmethod]
      exact Declaring.createMethod method

theorem filling_services (h : c.Apart) {version : String × Entries String (List Topic)}
    (hversion : version ∈ c.definitions.versions) :
    Filling (c.createServices role version.1 version.2) [c.versionPackage role version.1] := by
  have hservice : ∀ service ∈ version.2, Declaring
      (Build.createType (.ofPackage (c.versionPackage role version.1)) (Service.typeName service.1) ⟨none, none⟩
        Shape.protocol (fun inner => service.2.forM (c.createTopicMethod role inner)) >>= fun _ => pure ())
      (.ofPackage (c.versionPackage role version.1)) [Service.typeName service.1] := fun service hservice =>
    Declaring.before (Declaring.createType (Declaring.forM fun t _ => declaring_topicMethod t)
      (h.topics version hversion service hservice)) fun _ => Declaring.done _
  have hnames := h.services version hversion
  rw [Entries.keys, List.map_map, List.map_eq_flatMap] at hnames
  exact Filling.openPackage_bind (Declaring.forM hservice) hnames

theorem declaring_version {version : String} {services : List String} (h : (services.map serviceAccessor).Nodup) :
    Declaring (c.createVersion role scope version services) scope (versionIdentifiers version) := by
  rw [List.map_eq_flatMap] at h
  exact Declaring.seq (Declaring.createType (Declaring.forM fun service _ => Declaring.createMethod _) h) fun _ =>
    Declaring.createMethod _

theorem declaring_entry (h : c.Apart) : Declaring (do
      c.definitions.versions.forM fun (version, services) => c.createVersion role scope version services.keys
      c.definitions.latest.forM fun (typeName, latest) =>
        Build.createMethod scope (c.latestMethod role typeName latest)) scope c.entryIdentifiers := by
  have hversions : Declaring (c.definitions.versions.forM fun (version, services) =>
      c.createVersion role scope version services.keys) scope
      (c.definitions.versions.flatMap fun version => versionIdentifiers version.1) :=
    Declaring.forM fun version hversion => declaring_version (h.accessors version hversion)
  rw [entryIdentifiers, Entries.keys, List.flatMap_map, List.map_eq_flatMap]
  exact Declaring.seq hversions fun _ => Declaring.forM fun entry _ => Declaring.createMethod _

theorem filling_assemble (h : c.Apart) : Filling (c.assemble role) (c.packages role) := by
  have hversions : Filling (c.definitions.versions.forM fun (version, services) =>
      c.createServices role version services)
      (c.definitions.versions.flatMap fun version => [c.versionPackage role version.1]) :=
    Filling.forM fun version hversion => filling_services h hversion
  rw [packages, Entries.keys, List.map_map, List.map_eq_flatMap]
  exact Filling.seq hversions fun _ => Filling.openPackage_bind
    (Declaring.before (Declaring.createType (declaring_entry h) h.entry) fun _ => Declaring.done _)
    (List.nodup_singleton _)

end Identifiers

section Names

variable {label other : String}

theorem toList_versionTypeName (h : Dotted label) : (versionTypeName label).toList =
    'V' :: label.toList.map fun c => if c = '.' then '_' else c := by
  have hkept : ∀ c ∈ label.toList, Character.upper (if c = '.' then '_' else c) = [if c = '.' then '_' else c] := by
    intro c hc
    by_cases hdot : c = '.'
    · rw [if_pos hdot]
      decide
    · rw [if_neg hdot]
      exact Character.upper_digit (h.isDigit_of_mem hc hdot)
  rw [versionTypeName, Naming.toUpper, String.toList_ofList, Service.toList_versionIdentifier, Naming.upperText,
    List.flatMap_cons, List.flatMap_map, List.flatMap_congr hkept, ← List.map_eq_flatMap]
  rfl

theorem versionTypeName_inj (h : Dotted label) (h' : Dotted other) (heq : versionTypeName label = versionTypeName other) :
    label = other := by
  have hlist := congrArg String.toList heq
  rw [toList_versionTypeName h, toList_versionTypeName h'] at hlist
  refine h.versionIdentifier_inj h' (String.toList_injective ?_)
  rw [Service.toList_versionIdentifier, Service.toList_versionIdentifier, (List.cons.inj hlist).2]

theorem versionTypeName_ne_versionIdentifier (h : Dotted label) : versionTypeName label ≠ Naming.versionIdentifier other := by
  intro heq
  have hlist := congrArg String.toList heq
  rw [toList_versionTypeName h, Service.toList_versionIdentifier] at hlist
  exact absurd (List.cons.inj hlist).1 (by decide)

theorem versionTypeName_ne_serviceAccessor (h : Dotted label) (service : String) :
    versionTypeName label ≠ serviceAccessor service := by
  intro heq
  have hlist := congrArg String.toList heq
  rw [toList_versionTypeName h, serviceAccessor, Naming.lowerCamel, String.toList_ofList] at hlist
  exact Naming.head?_camelWith_uncapitalize service.toList (by rw [← hlist]; rfl)

theorem nodup_versionIdentifiers {labels : List String} (hlabels : labels.Nodup) (h : ∀ label ∈ labels, Dotted label) :
    (labels.flatMap versionIdentifiers).Nodup := by
  refine List.nodup_flatMap.2 ⟨fun label hlabel => ?_, ?_⟩
  · simpa [versionIdentifiers] using versionTypeName_ne_versionIdentifier (h label hlabel)
  · refine hlabels.imp_of_mem fun {label other} hlabel hother hne name hname hname' => ?_
    rcases List.mem_cons.1 hname with rfl | hname <;> rcases List.mem_cons.1 hname' with heq | hname'
    · exact hne (versionTypeName_inj (h label hlabel) (h other hother) heq)
    · exact versionTypeName_ne_versionIdentifier (h label hlabel) (List.mem_singleton.1 hname')
    · obtain rfl := List.mem_singleton.1 hname
      exact versionTypeName_ne_versionIdentifier (h other hother) heq.symm
    · obtain rfl := List.mem_singleton.1 hname
      exact hne ((h label hlabel).versionIdentifier_inj (h other hother) (List.mem_singleton.1 hname'))

end Names

section Packages

theorem nodup_packages (hversions : c.definitions.versions.keys.Nodup)
    (hdotted : ∀ label ∈ c.definitions.versions.keys, Dotted label) : (Role.all.flatMap c.packages).Nodup := by
  -- A package belongs to one role only: the segment behind the base package names the role.
  have hinj : ∀ {role other : Role} {package : String}, package ∈ c.packages role → package ∈ c.packages other →
      role = other := by
    intro role other package h h'
    rcases List.mem_append.1 h with h | h <;> rcases List.mem_append.1 h' with h' | h'
    · obtain ⟨label, hlabel, rfl⟩ := List.mem_map.1 h
      obtain ⟨label', hlabel', heq⟩ := List.mem_map.1 h'
      exact (versionPackage_inj (hdotted label hlabel) (hdotted label' hlabel') heq.symm).1
    · obtain ⟨label, -, rfl⟩ := List.mem_map.1 h
      exact absurd (List.mem_singleton.1 h') (versionPackage_ne_rolePackage role other label)
    · obtain ⟨label', -, rfl⟩ := List.mem_map.1 h'
      exact absurd (List.mem_singleton.1 h) (versionPackage_ne_rolePackage other role label')
    · exact rolePackage_inj ((List.mem_singleton.1 h).symm.trans (List.mem_singleton.1 h'))
  refine List.nodup_flatMap.2 ⟨fun role _ => ?_, ?_⟩
  · refine List.nodup_append.2 ⟨hversions.map_on fun label hlabel label' hlabel' heq => ?_, List.nodup_singleton _, ?_⟩
    · exact (versionPackage_inj (hdotted label hlabel) (hdotted label' hlabel') heq).2
    · rintro package hpackage own hown rfl
      obtain ⟨label, -, heq⟩ := List.mem_map.1 hpackage
      exact versionPackage_ne_rolePackage role role label (heq.trans (List.mem_singleton.1 hown))
  · have hroles : Role.all.Nodup := by decide
    exact hroles.imp fun hne package h h' => hne (hinj h h')

end Packages

end Connector

end TopicBindings.Generation
