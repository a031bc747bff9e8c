/-!
The types that a description declares: primitives, objects with properties, enumerations, arrays and
references to types declared elsewhere.
-/

namespace TopicBindings.Schema

inductive Primitive where
  | boolean
  | integer
  | number
  | string
  | datetime
  deriving DecidableEq, Repr

namespace Primitive

def all : List Primitive :=
  [.boolean, .integer, .number, .string, .datetime]

def name : Primitive → String
  | .boolean => "boolean"
  | .integer => "integer"
  | .number => "number"
  | .string => "string"
  | .datetime => "datetime"

def ofName? (name : String) : Option Primitive :=
  all.find? fun p => p.name == name

theorem ofName?_name (p : Primitive) : ofName? p.name = some p := by
  cases p <;> decide

end Primitive

structure Documentation where
  title : Option String
  description : Option String
  deriving DecidableEq, Repr

/-- Where a structured type stands: its namespace, the names around it from the outside in, and its
own name. -/
structure Place where
  space : String
  parents : List String
  name : String
  deriving DecidableEq, Repr

/-- What a type is registered and referred to under. -/
structure TypeKey where
  space : String
  name : String
  deriving DecidableEq, Repr

def TypeKey.label (key : TypeKey) : String :=
  key.space ++ "." ++ key.name

structure Property (α : Type) where
  name : String
  type : α
  required : Bool
  description : Option String
  deriving DecidableEq, Repr

inductive SchemaType where
  | primitive (name : String) (kind : Primitive) (doc : Documentation)
  | object (place : Place) (properties : List (Property SchemaType)) (doc : Documentation)
  | enumeration (place : Place) (literals : List String) (doc : Documentation)
  | array (name : String) (item : SchemaType) (unique : Bool) (doc : Documentation)
  | reference (key : TypeKey)
  deriving Repr

namespace SchemaType

mutual

def decideEq : (a b : SchemaType) → Decidable (a = b)
  | .primitive n k d, .primitive n' k' d' =>
      if h : n = n' ∧ k = k' ∧ d = d' then isTrue (by simp [h])
      else isFalse (by intro e; injection e; exact h ⟨‹_›, ‹_›, ‹_›⟩)
  | .object p ps d, .object p' ps' d' =>
      match decideEqProperties ps ps' with
      | isTrue hps =>
          if h : p = p' ∧ d = d' then isTrue (by simp [h, hps])
          else isFalse (by intro e; injection e; exact h ⟨‹_›, ‹_›⟩)
      | isFalse hps => isFalse (by intro e; injection e; exact hps ‹_›)
  | .enumeration p ls d, .enumeration p' ls' d' =>
      if h : p = p' ∧ ls = ls' ∧ d = d' then isTrue (by simp [h])
      else isFalse (by intro e; injection e; exact h ⟨‹_›, ‹_›, ‹_›⟩)
  | .array n t u d, .array n' t' u' d' =>
      match decideEq t t' with
      | isTrue ht =>
          if h : n = n' ∧ u = u' ∧ d = d' then isTrue (by simp [h, ht])
          else isFalse (by intro e; injection e; exact h ⟨‹_›, ‹_›, ‹_›⟩)
      | isFalse ht => isFalse (by intro e; injection e; exact ht ‹_›)
  | .reference k, .reference k' =>
      if h : k = k' then isTrue (by simp [h])
      else isFalse (by intro e; injection e; exact h ‹_›)
  | .primitive .., .object .. | .primitive .., .enumeration .. | .primitive .., .array ..
  | .primitive .., .reference .. | .object .., .primitive .. | .object .., .enumeration ..
  | .object .., .array .. | .object .., .reference .. | .enumeration .., .primitive ..
  | .enumeration .., .object .. | .enumeration .., .array .. | .enumeration .., .reference ..
  | .array .., .primitive .. | .array .., .object .. | .array .., .enumeration ..
  | .array .., .reference .. | .reference .., .primitive .. | .reference .., .object ..
  | .reference .., .enumeration .. | .reference .., .array .. =>
      isFalse (by intro e; nomatch e)

def decideEqProperties : (ps qs : List (Property SchemaType)) → Decidable (ps = qs)
  | [], [] => isTrue rfl
  | ⟨n, t, r, d⟩ :: ps, ⟨n', t', r', d'⟩ :: qs =>
      match decideEq t t', decideEqProperties ps qs with
      | isTrue ht, isTrue hps =>
          if h : n = n' ∧ r = r' ∧ d = d' then isTrue (by simp [h, ht, hps])
          else isFalse (by intro e; injection e with e _; injection e; exact h ⟨‹_›, ‹_›, ‹_›⟩)
      | isFalse ht, _ =>
          isFalse (by intro e; injection e with e _; injection e; exact ht ‹_›)
      | _, isFalse hps => isFalse (by intro e; injection e; exact hps ‹_›)
  | [], _ :: _ | _ :: _, [] => isFalse (by intro e; nomatch e)

end

instance : DecidableEq SchemaType := decideEq

def name : SchemaType → String
  | .primitive name _ _ | .array name _ _ _ => name
  | .object place _ _ | .enumeration place _ _ => place.name
  | .reference key => key.name

def kind : SchemaType → String
  | .primitive .. => "primitive"
  | .object .. => "object"
  | .enumeration .. => "enum"
  | .array .. => "array"
  | .reference .. => "reference"

def documentation : SchemaType → Documentation
  | .primitive _ _ doc | .object _ _ doc | .enumeration _ _ doc | .array _ _ _ doc => doc
  | .reference _ => ⟨none, none⟩

/-- Whether a type is spelled out rather than referred to. -/
def isDeclared : SchemaType → Bool
  | .reference _ => false
  | _ => true

/-- An enumeration whose literals keep their first occurrences. -/
def enumerationOf (place : Place) (literals : List String) (doc : Documentation) : SchemaType :=
  .enumeration place literals.eraseDups doc

end SchemaType

/-- A type that is spelled out, as components have to be. -/
abbrev DeclaredType := { type : SchemaType // type.isDeclared = true }

end TopicBindings.Schema
