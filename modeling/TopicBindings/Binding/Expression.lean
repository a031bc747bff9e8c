import TopicBindings.Binding.Name

/-!
Expressions for output types, such as `list[Device]`. `render` spells an expression and `references`
lists the names in it from the outside in.
-/

namespace TopicBindings.Binding

/-- A type name applied to type arguments, if it takes any. -/
inductive TypeExpression where
  | apply (target : QualifiedName) (arguments : List TypeExpression)
  deriving Repr

namespace TypeExpression

def plain (target : QualifiedName) : TypeExpression :=
  .apply target []

mutual

def render (spell : QualifiedName → String) : TypeExpression → String
  | .apply target arguments =>
      match arguments with
      | [] => spell target
      | first :: rest =>
          spell target ++ "[" ++ Text.join ", " (render spell first :: renderAll spell rest) ++ "]"

def renderAll (spell : QualifiedName → String) : List TypeExpression → List String
  | [] => []
  | e :: rest => render spell e :: renderAll spell rest

end

mutual

/-- The text of an expression in a spelling that may fail; the first name that fails decides. -/
def tryRender {ε : Type} (spell : QualifiedName → Except ε String) :
    TypeExpression → Except ε String
  | .apply target arguments => do
      let head ← spell target
      match arguments with
      | [] => return head
      | first :: rest =>
          let inner ← tryRender spell first
          let others ← tryRenderAll spell rest
          return head ++ "[" ++ Text.join ", " (inner :: others) ++ "]"

def tryRenderAll {ε : Type} (spell : QualifiedName → Except ε String) :
    List TypeExpression → Except ε (List String)
  | [] => .ok []
  | e :: rest => do
      let first ← tryRender spell e
      let others ← tryRenderAll spell rest
      return first :: others

end

mutual

/-- The names that an expression mentions, outermost first. -/
def references : TypeExpression → List QualifiedName
  | .apply target arguments => target :: referencesAll arguments

def referencesAll : List TypeExpression → List QualifiedName
  | [] => []
  | e :: rest => references e ++ referencesAll rest

end

def toText (e : TypeExpression) : String :=
  e.render QualifiedName.toText

end TypeExpression

end TopicBindings.Binding
