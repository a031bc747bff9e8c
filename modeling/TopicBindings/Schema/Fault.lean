import TopicBindings.Markup.Fault

/-!
What can be wrong with the description of an interface in a document.
-/

namespace TopicBindings.Schema.Document

def supportedVersion : String := "1.0.0"

inductive Cause where
  | noMapping
  | missing (key : String)
  | noText (key : String)
  | noTexts (key : String)
  | noBoolean (key : String)
  | unsupportedVersion (version : String)
  | unsupportedType (name : String)
  | unknownFormat (name : String)
  | emptyReference
  | noNamespace (reference : String)
  deriving DecidableEq, Repr

/-- A cause and the place of its entry in the document; the empty location is the document itself. -/
structure Fault where
  location : String
  cause : Cause
  deriving DecidableEq, Repr

def Cause.message : Cause → String
  | .noMapping => " must be a YAML mapping"
  | .missing key => ": missing required field '" ++ key ++ "'"
  | .noText key => ": '" ++ key ++ "' must be a string"
  | .noTexts key => ": '" ++ key ++ "' must be a list of strings"
  | .noBoolean key => ": '" ++ key ++ "' must be a boolean"
  | .unsupportedVersion version =>
      ": only version '" ++ supportedVersion ++ "' is supported, this is version '" ++ version ++ "'"
  | .unsupportedType name => ": unsupported type '" ++ name ++ "'"
  | .unknownFormat name => ": unknown data format '" ++ name ++ "'"
  | .emptyReference => ": empty reference"
  | .noNamespace reference => ": type reference '" ++ reference ++ "' names no namespace"

def Fault.message (label : String) (f : Fault) : String :=
  (if f.location.isEmpty then label else label ++ ": " ++ f.location) ++ f.cause.message

end TopicBindings.Schema.Document

namespace TopicBindings.Schema

inductive Unreadable where
  | markup (fault : Markup.Fault)
  | entry (fault : Document.Fault)
  deriving DecidableEq, Repr

end TopicBindings.Schema
