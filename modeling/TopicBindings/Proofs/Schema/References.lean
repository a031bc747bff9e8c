import TopicBindings.Schema.Basic

/-!
The references in a type, divided into those that its own name leads to and those in the properties of its
objects.
-/

namespace TopicBindings.Schema.SchemaType

mutual

def references : SchemaType → List TypeKey
  | .reference key => [key]
  | .array _ item _ _ => references item
  | .object _ properties _ => referencesAll properties
  | .primitive .. | .enumeration .. => []

def referencesAll : List (Property SchemaType) → List TypeKey
  | [] => []
  | ⟨_, type, _, _⟩ :: rest => references type ++ referencesAll rest

end

def outerReferences : SchemaType → List TypeKey
  | .reference key => [key]
  | .array _ item _ _ => outerReferences item
  | .object .. | .primitive .. | .enumeration .. => []

def innerReferences : SchemaType → List TypeKey
  | .object _ properties _ => referencesAll properties
  | .array _ item _ _ => innerReferences item
  | .reference _ | .primitive .. | .enumeration .. => []

theorem mem_references_iff {key : TypeKey} : ∀ {t : SchemaType},
    key ∈ t.references ↔ key ∈ t.outerReferences ∨ key ∈ t.innerReferences
  | .reference _ => by simp [references, outerReferences, innerReferences]
  | .array _ item _ _ => by
      have ih : key ∈ item.references ↔ key ∈ item.outerReferences ∨ key ∈ item.innerReferences :=
        mem_references_iff
      simpa [references, outerReferences, innerReferences] using ih
  | .object .. => by simp [references, outerReferences, innerReferences]
  | .primitive .. => by simp [references, outerReferences, innerReferences]
  | .enumeration .. => by simp [references, outerReferences, innerReferences]

end TopicBindings.Schema.SchemaType
