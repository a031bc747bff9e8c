import TopicBindings.Entries
import TopicBindings.Schema.Basic

/-!
The components of a description under the keys they are referred to by. Objects and enumerations are
registered under their own namespace, primitives and arrays under the namespace of types. No key is
given twice.
-/

namespace TopicBindings

open Schema (DeclaredType Message MessageRef SchemaType TypeKey)

structure Registry where
  types : Entries TypeKey DeclaredType
  messages : Entries String Message

namespace Registry

inductive Duplicate where
  | type (key : TypeKey)
  | message (name : String)
  deriving DecidableEq, Repr

def Duplicate.describe : Duplicate → String
  | .type key => "Duplicate type '" ++ key.label ++ "'"
  | .message name => "Duplicate message '" ++ name ++ "'"

inductive Unknown where
  | type (key : TypeKey)
  | message (name : String)
  deriving DecidableEq, Repr

namespace Unknown

def reference : Unknown → String
  | .type key => key.label
  | .message name => name

def describe : Unknown → String
  | .type key => "Unknown type '" ++ key.label ++ "' referenced"
  | .message name => "Unknown message '" ++ name ++ "' referenced"

end Unknown

def keyOf (type : SchemaType) : TypeKey :=
  match type with
  | .object place _ _ | .enumeration place _ _ => ⟨place.space, place.name⟩
  | _ => ⟨Schema.typesSpace, type.name⟩

/-- The first entry whose key stands earlier in the list already. -/
def firstRepeated {κ : Type} [DecidableEq κ] : List κ → List κ → Option κ
  | _, [] => none
  | seen, key :: rest => if key ∈ seen then some key else firstRepeated (key :: seen) rest

def ofSchema (s : Schema) : Except Duplicate Registry :=
  match firstRepeated [] (s.types.map fun t => keyOf t.val) with
  | some key => .error (.type key)
  | none => match firstRepeated [] (s.messages.map Message.name) with
    | some name => .error (.message name)
    | none => .ok {
        types := s.types.map fun t => (keyOf t.val, t)
        messages := s.messages.map fun m => (m.name, m) }

def lookupType (r : Registry) (key : TypeKey) : Except Unknown DeclaredType :=
  match r.types.lookup key with
  | some type => .ok type
  | none => .error (.type key)

def resolveType (r : Registry) : SchemaType → Except Unknown SchemaType
  | .reference key => (r.lookupType key).map Subtype.val
  | type => .ok type

def lookupMessage (r : Registry) : MessageRef → Except Unknown Message
  | .inline message => .ok message
  | .named name => match r.messages.lookup name with
    | some message => .ok message
    | none => .error (.message name)

end Registry

end TopicBindings
