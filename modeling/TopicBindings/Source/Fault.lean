/-!
Why a tree of declarations cannot be spelled as source files.
-/

namespace TopicBindings.Source

inductive Fault where
  | emptyIdentifier
  | invalidIdentifier (text : String)
  | sameFile (declaration path : String)
  | sameDirectory (declaration directory : String)
  deriving DecidableEq, Repr

def Fault.message : Fault → String
  | .emptyIdentifier => "Cannot generate an empty identifier"
  | .invalidIdentifier text => "'" ++ text ++ "' is not a valid Python identifier"
  | .sameFile declaration path =>
      "Declaration '" ++ declaration ++ "' collides with another declaration in '" ++ path ++ "'"
  | .sameDirectory declaration directory =>
      "Declaration '" ++ declaration ++ "' collides with package directory '" ++ directory ++ "'"

end TopicBindings.Source
