import TopicBindings.Schema.Basic

/-!
The two sides of a connection. A client publishes what a topic lists under publish and subscribes to what
it lists under subscribe; a server does the opposite.
-/

namespace TopicBindings

/-- The topic with its two messages exchanged. -/
def Topic.swap (t : Topic) : Topic :=
  ⟨t.name, t.subscribe, t.publish⟩

namespace Service

inductive Role where
  | client
  | server
  deriving DecidableEq, Repr

namespace Role

def all : List Role :=
  [.client, .server]

def packageName : Role → String
  | .client => "client"
  | .server => "server"

def typeName : Role → String
  | .client => "Client"
  | .server => "Server"

def sent : Role → Topic → Option Schema.MessageRef
  | .client, t => t.publish
  | .server, t => t.subscribe

def received : Role → Topic → Option Schema.MessageRef
  | .client, t => t.subscribe
  | .server, t => t.publish

end Role

end Service

end TopicBindings
