/-!
Sending and receiving on topics. An endpoint hands what it sends to its transport and what arrives to its
listeners, the oldest first; a connection sends through one endpoint and listens to another.
-/

namespace TopicBindings.Messaging

inductive Event (μ : Type) where
  | sent (message : μ)
  | received (listener : String) (message : μ)
  deriving DecidableEq, Repr

structure Endpoint where
  listeners : List String
  deriving DecidableEq, Repr

namespace Endpoint

def empty : Endpoint :=
  ⟨[]⟩

def publish {μ : Type} (_ : Endpoint) (message : μ) : List (Event μ) :=
  [.sent message]

def subscribe (e : Endpoint) (listener : String) : Endpoint :=
  ⟨e.listeners ++ [listener]⟩

/-- Ends one subscription of a listener, if it has any. -/
def close (e : Endpoint) (listener : String) : Endpoint :=
  ⟨e.listeners.erase listener⟩

def deliver {μ : Type} (e : Endpoint) (message : μ) : List (Event μ) :=
  e.listeners.map fun listener => .received listener message

end Endpoint

structure Connection where
  outbound : Endpoint
  inbound : Endpoint
  deriving DecidableEq, Repr

namespace Connection

def empty : Connection :=
  ⟨.empty, .empty⟩

def publish {μ : Type} (c : Connection) (message : μ) : List (Event μ) :=
  c.outbound.publish message

def subscribe (c : Connection) (listener : String) : Connection :=
  { c with inbound := c.inbound.subscribe listener }

end Connection

/-- Whether something with these attributes can be sent as a message: it has to carry a payload. -/
def isMessage (attributes : List String) : Bool :=
  attributes.contains "payload"

end TopicBindings.Messaging
