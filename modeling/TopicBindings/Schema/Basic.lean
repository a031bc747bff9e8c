import TopicBindings.Schema.Type

/-!
Messages, topics and whole descriptions.
-/

namespace TopicBindings

namespace Schema

structure Message where
  name : String
  payload : SchemaType
  summary : Option String
  description : Option String
  deprecated : Bool
  deriving DecidableEq, Repr

/-- A message that stands where it is used, or the name of a component message. -/
inductive MessageRef where
  | inline (message : Message)
  | named (name : String)
  deriving DecidableEq, Repr

structure About where
  title : Option String
  version : String
  description : Option String
  deriving DecidableEq, Repr

end Schema

/-- A channel with at most one message in each direction. -/
structure Topic where
  name : String
  publish : Option Schema.MessageRef
  subscribe : Option Schema.MessageRef
  deriving DecidableEq, Repr

structure Schema where
  baseTopic : Option String
  host : String
  schemes : List String
  about : Schema.About
  topics : List Topic
  messages : List Schema.Message
  types : List Schema.DeclaredType
  deriving DecidableEq

namespace Schema

def typesSpace : String := "types"

def messagesSpace : String := "messages"

end Schema

end TopicBindings
