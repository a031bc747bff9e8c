import TopicBindings.Declaration.Basic

/-!
The names that a declaration mentions: its bases and decorators, the types of its fields and methods, and
what its verbatim lines refer to.
-/

namespace TopicBindings.Declaration

open Binding (QualifiedName TypeExpression)

def enumerationBase : QualifiedName :=
  .external "enum" "Enum"

namespace Shape

def mentions (shape : Shape) : List QualifiedName :=
  shape.bases.flatMap TypeExpression.references ++ shape.decorators.map Decorator.target

end Shape

namespace Method

def annotations (m : Method) : List QualifiedName :=
  m.parameters.flatMap (fun p => p.type.references) ++
    ((m.returns.map TypeExpression.references).getD [])

def mentions (m : Method) : List QualifiedName :=
  m.annotations ++ m.decorators.map Decorator.target

end Method

mutual

def mentions : Declaration → List QualifiedName
  | .type _ _ shape members => shape.mentions ++ mentionsAll members
  | .enumeration .. => [enumerationBase]
  | .field f => f.type.references
  | .method m => m.mentions
  | .raw content => content.references

def mentionsAll : List Declaration → List QualifiedName
  | [] => []
  | d :: rest => mentions d ++ mentionsAll rest

end

theorem mem_mentionsAll {n : QualifiedName} {ds : List Declaration} :
    n ∈ mentionsAll ds ↔ ∃ d ∈ ds, n ∈ mentions d := by
  induction ds with
  | nil => simp [mentionsAll]
  | cons d rest ih => simp [mentionsAll, ih]

/-- Every generated name that a declaration mentions has a property. -/
def Confined (K : QualifiedName → Prop) (d : Declaration) : Prop :=
  ∀ n ∈ mentions d, n.isGenerated = true → K n

section Confined

variable {K : QualifiedName → Prop}

theorem Confined.type {name : QualifiedName} {doc : Doc} {shape : Shape} {members : List Declaration}
    (hshape : ∀ n ∈ shape.mentions, n.isGenerated = false) (h : ∀ d ∈ members, Confined K d) :
    Confined K (.type name doc shape members) := by
  intro n hn hgenerated
  rcases List.mem_append.1 hn with hn | hn
  · rw [hshape n hn] at hgenerated
    cases hgenerated
  · obtain ⟨d, hd, hn⟩ := mem_mentionsAll.1 hn
    exact h d hd n hn hgenerated

theorem Confined.enumeration (name : QualifiedName) (doc : Doc) (literals : List EnumLiteral) :
    Confined K (.enumeration name doc literals) := by
  intro n hn hgenerated
  obtain rfl := List.mem_singleton.1 hn
  cases hgenerated

end Confined

end TopicBindings.Declaration
