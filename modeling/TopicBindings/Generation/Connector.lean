import TopicBindings.Generation.Build

/-!
The interfaces of a role: one for every service of every version, with a method for each topic that
carries a message, and one for the role itself, which gives access to every version and to the latest
version of every service.
-/

namespace TopicBindings.Generation

open Binding (QualifiedName Resolver TypeExpression)
open Declaration (Doc Method Scope Shape)
open Service (Definitions Latest Role)

structure Connector where
  resolver : Resolver
  definitions : Definitions

namespace Connector

def runtimeModule : String := "asyncapi_codegen.runtime"

def publish : QualifiedName := .external runtimeModule "Publish"

def subscribe : QualifiedName := .external runtimeModule "Subscribe"

def publishSubscribe : QualifiedName := .external runtimeModule "PublishSubscribe"

/-- The nested interface of a version, such as `V1_0`. -/
def versionTypeName (version : String) : String :=
  Naming.toUpper (Naming.versionIdentifier version)

def serviceAccessor (service : String) : String :=
  Naming.lowerCamel service

def rolePackage (c : Connector) (role : Role) : String :=
  c.resolver.packageName (some role.packageName)

def versionPackage (c : Connector) (role : Role) (version : String) : String :=
  Binding.joinPackage [some (c.rolePackage role), some (Naming.versionIdentifier version)]

def serviceName (c : Connector) (role : Role) (version service : String) : QualifiedName :=
  .inPackage (c.versionPackage role version) (Service.typeName service)

/-- The type of what a topic offers a role, if it carries any message. -/
def offer (c : Connector) (role : Role) (topic : Topic) :
    Except Binding.Fault (Option TypeExpression) := do
  match role.sent topic, role.received topic with
  | none, none => return none
  | some out, none => return some (.apply publish [← c.resolver.messageType out])
  | none, some into => return some (.apply subscribe [← c.resolver.messageType into])
  | some out, some into =>
      let first ← c.resolver.messageType out
      return some (.apply publishSubscribe [first, ← c.resolver.messageType into])

def methodName (c : Connector) (topic : Topic) : String :=
  ((c.definitions.information topic).map Topic.Information.methodName).getD ""

def topicMethod (c : Connector) (role : Role) (topic : Topic) :
    Except Binding.Fault (Option Method) := do
  return (← c.offer role topic).map fun type => {
    name := c.methodName topic
    returns := some type
    parameters := []
    summary := some ("Topic '" ++ topic.name ++ "'.")
    body := []
    decorators := []
    delegateTo := [] }

def accessor (name : String) (type : QualifiedName) (summary : Option String)
    (delegateTo : List String) : Method where
  name := name
  returns := some (.plain type)
  parameters := []
  summary := summary
  body := []
  decorators := []
  delegateTo := delegateTo

def createTopicMethod (c : Connector) (role : Role) (scope : Scope) (topic : Topic) : Build Unit := do
  match ← Build.ofExcept .binding (c.topicMethod role topic) with
  | some method => Build.createMethod scope method
  | none => Build.note (.silentTopic topic.name role)

def createServices (c : Connector) (role : Role) (version : String)
    (services : Entries String (List Topic)) : Build Unit := do
  let package ← Build.openPackage (c.versionPackage role version)
  services.forM fun (service, topics) => do
    let _ ← Build.createType package (Service.typeName service) ⟨none, none⟩ Shape.protocol
      fun scope => topics.forM (c.createTopicMethod role scope)

def serviceMethod (c : Connector) (role : Role) (version service : String) : Method :=
  accessor (serviceAccessor service) (c.serviceName role version service) none []

def versionDoc (version : String) : Doc :=
  ⟨some ("Services of version " ++ version ++ "."), none⟩

def versionMethod (scope : Scope) (version : String) : Method :=
  accessor (Naming.versionIdentifier version) (scope.nameOf (versionTypeName version))
    (some ("Access the services of version " ++ version ++ ".")) []

def createVersion (c : Connector) (role : Role) (scope : Scope) (version : String)
    (services : List String) : Build Unit := do
  let _ ← Build.createType scope (versionTypeName version) (versionDoc version) Shape.protocol
    fun inner => services.forM fun service =>
      Build.createMethod inner (c.serviceMethod role version service)
  Build.createMethod scope (versionMethod scope version)

def latestMethod (c : Connector) (role : Role) (typeName : String) (latest : Latest) : Method :=
  accessor (serviceAccessor latest.service) (c.serviceName role latest.label latest.service)
    (some ("Access the latest version (" ++ latest.label ++ ") of " ++ typeName ++ "."))
    [Naming.versionIdentifier latest.label, serviceAccessor latest.service]

def entryDoc (role : Role) : Doc :=
  ⟨some ("Entry point of the " ++ role.packageName ++ " side."), none⟩

def assemble (c : Connector) (role : Role) : Build Unit := do
  c.definitions.versions.forM fun (version, services) => c.createServices role version services
  let package ← Build.openPackage (c.rolePackage role)
  let _ ← Build.createType package role.typeName (entryDoc role) Shape.protocol fun scope => do
    c.definitions.versions.forM fun (version, services) =>
      c.createVersion role scope version services.keys
    c.definitions.latest.forM fun (typeName, latest) =>
      Build.createMethod scope (c.latestMethod role typeName latest)

end Connector

end TopicBindings.Generation
