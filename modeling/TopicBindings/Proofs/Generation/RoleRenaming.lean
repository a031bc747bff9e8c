import TopicBindings.Proofs.Generation.Follows
import TopicBindings.Proofs.Generation.ServiceInterfaces
import TopicBindings.Proofs.Service.Exchange

/-!
The names of the client in the place of those of the server, and what becomes of everything that the interfaces
of the server are made of.
-/

namespace TopicBindings

open Binding (QualifiedName Resolver TypeExpression)

namespace Binding.Resolver

variable (r : Resolver)

def baseSegments : List String :=
  if r.basePackage = "" then [] else Text.splitAt '.' r.basePackage

theorem splitAt_packageName {name : String} (h : name ≠ "") :
    Text.splitAt '.' (r.packageName (some name)) = r.baseSegments ++ Text.splitAt '.' name := by
  rw [packageName_some r h, baseSegments]
  by_cases hb : r.basePackage = ""
  · rw [if_pos hb, if_pos hb, List.nil_append]
  · rw [if_neg hb, if_neg hb]
    exact Text.splitAt_append_sep '.' r.basePackage name

end Binding.Resolver

namespace Generation

open Declaration (Doc Method Renaming Scope Shape Tree)
open Service (Definitions Role)

def roleSegments (r : Resolver) (role : Role) : List String :=
  r.baseSegments ++ [role.packageName]

/-- The package with the segment of the server behind the base package turned into that of the client. -/
def clientPackage (r : Resolver) (package : String) : String :=
  if roleSegments r .server <+: Text.splitAt '.' package then
    Text.join "." (roleSegments r .client ++ (Text.splitAt '.' package).drop (roleSegments r .server).length)
  else package

section Packages

variable {r : Resolver}

theorem splitAt_rolePackage (role : Role) :
    Text.splitAt '.' (r.packageName (some role.packageName)) = roleSegments r role := by
  rw [r.splitAt_packageName (by cases role <;> decide), Text.splitAt_of_not_mem (by cases role <;> decide)]
  rfl

theorem splitAt_below (role : Role) (inner : String) :
    Text.splitAt '.' (r.packageName (some (role.packageName ++ "." ++ inner))) =
      roleSegments r role ++ Text.splitAt '.' inner := by
  have hsplit : Text.splitAt '.' (role.packageName ++ "." ++ inner) =
      Text.splitAt '.' role.packageName ++ Text.splitAt '.' inner :=
    Text.splitAt_append_sep '.' role.packageName inner
  rw [r.splitAt_packageName (by cases role <;> simp [Role.packageName]), hsplit,
    Text.splitAt_of_not_mem (by cases role <;> decide), ← List.append_assoc]
  rfl

theorem clientPackage_of_segments {package : String} {inner : List String}
    (h : Text.splitAt '.' package = roleSegments r .server ++ inner) :
    clientPackage r package = Text.join "." (roleSegments r .client ++ inner) := by
  rw [clientPackage, h, if_pos (List.prefix_append _ _), List.drop_left]

theorem clientPackage_rolePackage :
    clientPackage r (r.packageName (some Role.server.packageName)) =
      r.packageName (some Role.client.packageName) := by
  have hserver := (splitAt_rolePackage (r := r) .server).trans (List.append_nil _).symm
  rw [clientPackage_of_segments hserver, List.append_nil, ← splitAt_rolePackage]
  exact Text.join_splitAt '.' _

theorem clientPackage_below (inner : String) :
    clientPackage r (r.packageName (some (Role.server.packageName ++ "." ++ inner))) =
      r.packageName (some (Role.client.packageName ++ "." ++ inner)) := by
  rw [clientPackage_of_segments (splitAt_below .server inner), ← splitAt_below]
  exact Text.join_splitAt '.' _

theorem clientPackage_beside {name : String} (hne : name ≠ "") (hdot : '.' ∉ name.toList)
    (hother : name ≠ Role.server.packageName) :
    clientPackage r (r.packageName (some name)) = r.packageName (some name) := by
  rw [clientPackage, if_neg]
  rw [r.splitAt_packageName hne, Text.splitAt_of_not_mem hdot]
  intro hprefix
  have heq := hprefix.eq_of_length (by simp [roleSegments])
  exact hother (List.singleton_inj.1 (List.append_cancel_left heq)).symm

theorem clientPackage_inj {package other : String} (h : roleSegments r .server <+: Text.splitAt '.' package)
    (h' : roleSegments r .server <+: Text.splitAt '.' other)
    (heq : clientPackage r package = clientPackage r other) : package = other := by
  obtain ⟨inner, hinner⟩ := h
  obtain ⟨inner', hinner'⟩ := h'
  have hback : ∀ {name : String} {inner : List String}, roleSegments r .server ++ inner = Text.splitAt '.' name →
      Text.splitAt '.' (Text.join "." (roleSegments r .client ++ inner)) = roleSegments r .client ++ inner := by
    intro name inner hname
    refine Text.splitAt_join (by simp [roleSegments]) fun segment hsegment => ?_
    rcases List.mem_append.1 hsegment with hsegment | hsegment
    · rw [← splitAt_rolePackage] at hsegment
      exact Text.not_mem_of_mem_splitAt hsegment
    · have hmem : segment ∈ Text.splitAt '.' name := hname ▸ List.mem_append_right _ hsegment
      exact Text.not_mem_of_mem_splitAt hmem
  rw [clientPackage_of_segments hinner.symm, clientPackage_of_segments hinner'.symm] at heq
  have hsegments := congrArg (Text.splitAt '.') heq
  rw [hback hinner, hback hinner'] at hsegments
  have hsame : Text.splitAt '.' package = Text.splitAt '.' other := by
    rw [← hinner, ← hinner', List.append_cancel_left hsegments]
  rw [← Text.join_splitAt '.' package, hsame, Text.join_splitAt]

end Packages

/-- The names of the client in the place of those of the server: the segment of the package, the outermost type
of the package of the role, and the word in its summary. -/
def roleRenaming (r : Resolver) : Renaming where
  package := clientPackage r
  outermost package name :=
    if package = r.packageName (some Role.server.packageName) ∧ name = Role.server.typeName then
      Role.client.typeName
    else name
  about name doc :=
    if name = .inPackage (r.packageName (some Role.server.packageName)) Role.server.typeName ∧
        doc = Connector.entryDoc .server then
      Connector.entryDoc .client
    else doc
  Known package := roleSegments r .server <+: Text.splitAt '.' package
  Admits package name :=
    package = r.packageName (some Role.server.packageName) → name = Role.server.typeName
  package_inj := clientPackage_inj
  outermost_inj := by
    intro package name other hname hother heq
    by_cases hpackage : package = r.packageName (some Role.server.packageName)
    · rw [hname hpackage, hother hpackage]
    · simpa [hpackage] using heq

namespace Connector

def swap (c : Connector) : Connector :=
  ⟨c.resolver, c.definitions.swap⟩

abbrev toClient (c : Connector) : Renaming :=
  roleRenaming c.resolver

variable (c : Connector)

section Names

theorem known_rolePackage : c.toClient.Known (c.rolePackage .server) := by
  show roleSegments c.resolver .server <+: Text.splitAt '.' (c.resolver.packageName _)
  rw [splitAt_rolePackage]

theorem known_versionPackage (label : String) :
    c.toClient.Known (c.versionPackage .server label) := by
  show roleSegments c.resolver .server <+: Text.splitAt '.' _
  rw [versionPackage_eq, splitAt_below]
  exact List.prefix_append _ _

theorem package_rolePackage :
    c.toClient.package (c.rolePackage .server) = c.rolePackage .client :=
  clientPackage_rolePackage

theorem package_versionPackage (label : String) :
    c.toClient.package (c.versionPackage .server label) = c.versionPackage .client label := by
  rw [versionPackage_eq, versionPackage_eq]
  exact clientPackage_below _

theorem outermost_rolePackage :
    c.toClient.outermost (c.rolePackage .server) Role.server.typeName = Role.client.typeName :=
  if_pos ⟨rfl, rfl⟩

theorem outermost_of_ne {package : String} (h : package ≠ c.rolePackage .server) (name : String) :
    c.toClient.outermost package name = name :=
  if_neg fun hroot => h hroot.1

theorem admits_of_ne {package : String} (h : package ≠ c.rolePackage .server) (name : String) :
    c.toClient.Admits package name :=
  fun heq => absurd heq h

theorem about_root : c.toClient.about
    ((Scope.ofPackage (c.rolePackage .server)).nameOf Role.server.typeName) (entryDoc .server) =
      entryDoc .client :=
  if_pos ⟨rfl, rfl⟩

theorem about_beside {package : String} (h : package ≠ c.rolePackage .server) (name : String) (doc : Doc) :
    c.toClient.about (.inPackage package name) doc = doc :=
  if_neg fun hroot => h (QualifiedName.mk.inj hroot.1).1

theorem about_inside {s : Scope} (h : s.path ≠ []) (name : String) (doc : Doc) :
    c.toClient.about (s.nameOf name) doc = doc :=
  if_neg fun hroot => h (QualifiedName.mk.inj hroot.1).2.2.1

theorem name_serviceName (label service : String) :
    c.toClient.name (c.serviceName .server label service) =
      c.serviceName .client label service := by
  have hne := versionPackage_ne_rolePackage (c := c) .server .server label
  rw [serviceName, Renaming.name_inPackage, package_versionPackage, outermost_of_ne c hne]
  rfl

theorem method_accessor (ρ : Renaming) (name : String) (type : QualifiedName) (summary : Option String)
    (delegateTo : List String) : ρ.method (accessor name type summary delegateTo) =
      accessor name (ρ.name type) summary delegateTo :=
  rfl

theorem method_serviceMethod (label service : String) :
    c.toClient.method (c.serviceMethod .server label service) =
      c.swap.serviceMethod .client label service := by
  rw [serviceMethod, method_accessor, name_serviceName]
  rfl

theorem method_latestMethod (typeName : String) (latest : Service.Latest) :
    c.toClient.method (c.latestMethod .server typeName latest) =
      c.swap.latestMethod .client typeName latest := by
  rw [latestMethod, method_accessor, name_serviceName]
  rfl

theorem scope_entryScope :
    c.toClient.scope (c.entryScope .server) = c.swap.entryScope .client := by
  rw [entryScope, Renaming.scope_child, Renaming.own_ofPackage, outermost_rolePackage,
    Renaming.scope_ofPackage, package_rolePackage]
  rfl

theorem method_versionMethod (label : String) :
    c.toClient.method (versionMethod (c.entryScope .server) label) =
      versionMethod (c.swap.entryScope .client) label := by
  have hown : c.toClient.own (c.entryScope .server) (versionTypeName label) =
      versionTypeName label := Renaming.own_child ..
  rw [versionMethod, method_accessor, Renaming.name_nameOf, scope_entryScope, hown]
  rfl

theorem messagesPackage_ne :
    c.resolver.packageName (some Schema.messagesSpace) ≠ c.rolePackage .server := fun heq =>
  absurd (c.resolver.packageName_inj (by decide) (by decide) heq) (by decide)

theorem expression_messageClass (message : Schema.Message) :
    c.toClient.expression (c.messageClass message) = c.messageClass message := by
  have hpackage : c.toClient.package (c.resolver.packageName (some Schema.messagesSpace)) =
      c.resolver.packageName (some Schema.messagesSpace) :=
    clientPackage_beside (by decide) (by decide) (by decide)
  rw [messageClass, Renaming.expression_plain, Renaming.name_inPackage, hpackage,
    outermost_of_ne c c.messagesPackage_ne]

/-- What a topic offers mentions the messages only, which belong to no role. -/
theorem expression_of_offers {out into : Option Schema.MessageRef} {e : TypeExpression}
    (h : c.Offers out into e) : c.toClient.expression e = e := by
  cases h <;> simp only [publish, subscribe, publishSubscribe, Renaming.expression_external,
    Renaming.expressions, expression_messageClass]

end Names

end Connector

end Generation

end TopicBindings
