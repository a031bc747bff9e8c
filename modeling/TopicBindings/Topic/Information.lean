import TopicBindings.Text.Fields
import TopicBindings.Naming.Style

/-!
What a topic name says: service, version, type, resources, action and, for events, a status.
-/

namespace TopicBindings.Topic

/-- The state that an event reports about the action. -/
inductive Status where
  | queued
  | succeed
  | failed
  | done
  deriving DecidableEq, Repr

namespace Status

def name : Status → String
  | .queued => "QUEUED"
  | .succeed => "SUCCEED"
  | .failed => "FAILED"
  | .done => "DONE"

def word : Status → String
  | .queued => "queued"
  | .succeed => "succeed"
  | .failed => "failed"
  | .done => "done"

def all : List Status :=
  [.queued, .succeed, .failed, .done]

/-- The status that a token names in any mixture of cases. -/
def ofToken? (token : String) : Option Status :=
  all.find? fun s => s.name == Naming.toUpper token

end Status

structure Information where
  service : String
  version : String
  type : String
  resources : List String
  action : String
  status : Option Status
  deriving DecidableEq, Repr

namespace Information

/-- The classification of a name outside the grammar: the whole name becomes the resources of a
`send` event of the service `Topics`. -/
def fallback (topic : String) : Information where
  service := "Topics"
  version := "1"
  type := "event"
  resources := Text.splitAt '.' topic
  action := "send"
  status := none

def tokens (i : Information) (status : List String) : List String :=
  [i.service] ++ Text.splitAt '.' i.version ++ [i.type] ++ i.resources ++ [i.action] ++ status

/-- The method of a topic: type, resources, action and status in camel case. -/
def methodName (i : Information) : String :=
  Naming.lowerCamel (Text.join "."
    ([i.type] ++ i.resources ++ [i.action] ++ (i.status.map Status.word).toList))

end Information

end TopicBindings.Topic
