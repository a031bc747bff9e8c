import TopicBindings.Binding.Expression
import TopicBindings.Schema.Type

/-!
The output types of primitives and collections.
-/

namespace TopicBindings.Binding

open Schema (Primitive)

/-- Names for values that may be absent, for values that are always there, and for collections with
and without repeated items. -/
structure TypeTable where
  boxed : Primitive → QualifiedName
  unboxed : Primitive → QualifiedName
  uniqueCollection : QualifiedName
  sequenceCollection : QualifiedName

namespace TypeTable

def standardPrimitive : Primitive → QualifiedName
  | .boolean => .builtin "bool"
  | .integer => .builtin "int"
  | .number => .builtin "float"
  | .string => .builtin "str"
  | .datetime => .external "datetime" "datetime"

def standard : TypeTable where
  boxed := standardPrimitive
  unboxed := standardPrimitive
  uniqueCollection := .builtin "set"
  sequenceCollection := .builtin "list"

end TypeTable

end TopicBindings.Binding
