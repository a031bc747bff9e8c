import TopicBindings.Entries
import TopicBindings.Schema.Basic
import TopicBindings.Topic.Grammar

/-!
Topics grouped by version and service, and the latest version of every service. Versions stand in
ascending order, equal ones such as `1` and `1.0` in the order of their labels; services and topics keep
the order of the description.
-/

namespace TopicBindings.Service

open Topic (Information GrammarFault)

/-- The latest version of a service: the version with its label, and the service as topics spell it. -/
structure Latest where
  version : Version
  label : String
  service : String
  deriving DecidableEq

/-- Topics with their classification, the groups of topics by version label and service, the latest
versions by type name, and the topics that were classified by fallback. -/
structure Definitions where
  topics : Entries Topic Information
  versions : Entries String (Entries String (List Topic))
  latest : Entries String Latest
  diagnostics : List GrammarFault

def typeName (service : String) : String :=
  Naming.typeName service

/-- Classifies a topic. Outside the grammar it is an error or, if the syntax is not to be validated, the
fallback together with the fault. -/
def classify (validate : Bool) (topic : Topic) :
    Except GrammarFault (Information × Option GrammarFault) :=
  match Topic.parse topic.name with
  | .ok information => .ok (information, none)
  | .error fault =>
      if validate then .error fault else .ok (Information.fallback topic.name, some fault)

abbrev Groups := Entries String (Entries String (List Topic))

def file (groups : Groups) (information : Information) (topic : Topic) : Groups :=
  groups.alter information.version [(information.service, [topic])]
    fun services => services.alter information.service [topic] (· ++ [topic])

/-- The value of a version label. The labels that topics are filed under are all dotted numerals. -/
def versionOf (label : String) : Version :=
  match Version.parse label with
  | .ok version => version
  | .error _ => ⟨[0], by simp⟩

def labelLE (a b : String) : Bool :=
  (((versionOf a).compare (versionOf b)).then (compare a b)).isLE

def sortedVersions (groups : Groups) : Groups :=
  groups.mergeSort fun a b => labelLE a.1 b.1

/-- Takes a service at a version into account: it is the latest unless one that is not lower is known. -/
def noteLatest (label : String) (known : Entries String Latest) (service : String) :
    Entries String Latest :=
  let version := versionOf label
  match known.lookup (typeName service) with
  | some current =>
      if version.compare current.version = .gt then
        known.set (typeName service) ⟨version, label, service⟩
      else known
  | none => known.set (typeName service) ⟨version, label, service⟩

/-- The latest version of every service, the versions being visited in ascending order. -/
def latestOf (versions : Groups) : Entries String Latest :=
  versions.foldl (fun known (label, services) => services.keys.foldl (noteLatest label) known) []

/-- Groups topics, in the order of the description. -/
def aggregate (topics : List Topic) (validate : Bool) : Except GrammarFault Definitions := do
  let classified ← topics.mapM fun topic => do
    let (information, fault) ← classify validate topic
    return (topic, information, fault)
  let versions := sortedVersions (classified.foldl (fun groups (t, i, _) => file groups i t) [])
  return {
    topics := classified.foldl (fun known (t, i, _) => known.set t i) []
    versions
    latest := latestOf versions
    diagnostics := classified.filterMap fun (_, _, fault) => fault }

def Definitions.information (d : Definitions) (topic : Topic) : Option Information :=
  d.topics.lookup topic

end TopicBindings.Service
