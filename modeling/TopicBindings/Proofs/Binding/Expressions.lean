import TopicBindings.Binding.Resolver
import TopicBindings.Proofs.Outcome
import TopicBindings.Proofs.Schema.Places

/-!
The generated names in the expression of a type are output names of objects and enumerations, of those that
the type spells out or of those that components do.
-/

namespace TopicBindings.Binding

open Schema (SchemaType)
open Schema.SchemaType (structured)

def TypeExpression.Within (K : QualifiedName → Prop) (e : TypeExpression) : Prop :=
  ∀ n ∈ e.references, n.isGenerated = true → K n

namespace TypeExpression

variable {K : QualifiedName → Prop}

theorem within_plain {n : QualifiedName} (h : n.isGenerated = true → K n) : (plain n).Within K := by
  intro m hm hgenerated
  obtain rfl := List.mem_singleton.1 hm
  exact h hgenerated

theorem within_apply {n : QualifiedName} {arguments : List TypeExpression}
    (h : n.isGenerated = true → K n) (harguments : ∀ e ∈ arguments, e.Within K) :
    (apply n arguments).Within K := by
  intro m hm hgenerated
  rw [references] at hm
  rcases List.mem_cons.1 hm with rfl | hm
  · exact h hgenerated
  · induction arguments with
    | nil => cases hm
    | cons e rest ih =>
        rcases List.mem_append.1 hm with hm | hm
        · exact harguments e (.head _) m hm hgenerated
        · exact ih (fun f hf => harguments f (.tail _ hf)) (.tail _ hm) hm

end TypeExpression

namespace Resolver

variable {r : Resolver} {K : QualifiedName → Prop}

def Names (r : Resolver) (K : QualifiedName → Prop) (types : List SchemaType) : Prop :=
  ∀ t ∈ types, ∀ name, r.outputName t = .ok name → K name

/-- A resolver with the types of the generated language, whose components have names with a property. -/
structure Finds (r : Resolver) (K : QualifiedName → Prop) : Prop where
  table : r.table = .standard
  components : ∀ key type, r.registry.lookupType key = .ok type → r.Names K type.val.structured

theorem Finds.boxed (h : r.Finds K) (kind : Schema.Primitive) : (r.table.boxed kind).isGenerated = false := by
  rw [h.table]
  cases kind <;> rfl

theorem Finds.collection (h : r.Finds K) (unique : Bool) : (r.collection unique).isGenerated = false := by
  rw [Resolver.collection, h.table]
  cases unique <;> rfl

theorem Finds.expressionWith (hr : r.Finds K) {follow : Schema.TypeKey → Except Fault TypeExpression}
    (hfollow : ∀ key e, follow key = .ok e → e.Within K) : ∀ (type : SchemaType) {e : TypeExpression},
    r.Names K type.structured → r.expressionWith follow type = .ok e → e.Within K
  | .primitive _ kind _, _, _, h => by
      obtain rfl := Except.ok.inj h
      refine TypeExpression.within_plain fun hgenerated => ?_
      rw [hr.boxed] at hgenerated
      cases hgenerated
  | .array _ item unique _, _, hnames, h => by
      obtain ⟨inner, hinner, h⟩ := Outcome.bind_ok.1 h
      obtain rfl := Outcome.pure_ok.1 h
      refine TypeExpression.within_apply (fun hgenerated => ?_) fun e he => ?_
      · rw [hr.collection] at hgenerated
        cases hgenerated
      · obtain rfl := List.mem_singleton.1 he
        exact hr.expressionWith hfollow item hnames hinner
  | .object place properties doc, _, hnames, h => by
      obtain rfl := Except.ok.inj h
      exact TypeExpression.within_plain fun _ => hnames _ (.head _) _ rfl
  | .enumeration place literals doc, _, hnames, h => by
      obtain rfl := Except.ok.inj h
      exact TypeExpression.within_plain fun _ => hnames _ (.head _) _ rfl
  | .reference key, e, _, h => hfollow key e h

theorem Finds.keyExpression (hr : r.Finds K) (hops : Nat) : ∀ (key : Schema.TypeKey) (e : TypeExpression),
    r.keyExpression hops key = .ok e → e.Within K := by
  induction hops with
  | zero =>
      intro key e h
      obtain ⟨found, -, h⟩ := Outcome.bind_ok.1 h
      cases h
  | succ hops ih =>
      intro key e h
      obtain ⟨found, hfound, h⟩ := Outcome.bind_ok.1 h
      have hnames := hr.components key found (Outcome.mapError_ok.1 hfound)
      exact hr.expressionWith ih found.val hnames h

theorem Finds.propertyType (hr : r.Finds K) {type : SchemaType} (hnames : r.Names K type.structured)
    {e : TypeExpression} (h : r.propertyType type = .ok e) : e.Within K :=
  hr.expressionWith (hr.keyExpression _) type hnames h

end Resolver

end TopicBindings.Binding
