import TopicBindings.Topic.Information
import TopicBindings.Version

/-!
The grammar of topic names:
`<service> . <version>+ . <type> . <resource>+ . <action> [ . <status> ]`, where the version is the
longest run of numerals after the service. A last token that names a status counts as one only for
the type `event` and only if a resource and an action remain before it.
-/

namespace TopicBindings.Topic

inductive Gap where
  | service
  | version
  | type
  | action
  | resource
  | emptyResource
  deriving DecidableEq, Repr

def Gap.reason : Gap → String
  | .service => "missing service name"
  | .version => "missing version"
  | .type => "missing type"
  | .action => "missing action"
  | .resource => "missing resource"
  | .emptyResource => "empty resource token"

structure GrammarFault where
  topic : String
  gap : Gap
  deriving DecidableEq, Repr

def GrammarFault.message (f : GrammarFault) : String :=
  "Wrong topic syntax in '" ++ f.topic ++ "': " ++ f.gap.reason

def isNumeral (token : String) : Bool :=
  Version.isNumeral token.toList

/-- Divides the tokens after the type into those before the status and the status itself. -/
def cutStatus (type : String) (tail : List String) : List String × Option Status :=
  if type = "event" ∧ tail.length > 2 then
    match tail.getLast?.bind Status.ofToken? with
    | some status => (tail.dropLast, some status)
    | none => (tail, none)
  else (tail, none)

def parseTail (type : String) (tail : List String) :
    Except Gap (List String × String × Option Status) :=
  let (rest, status) := cutStatus type tail
  match rest.getLast? with
  | none => .error .action
  | some action =>
      if action = "" then .error .action
      else if rest.dropLast = [] then .error .resource
      else if "" ∈ rest.dropLast then .error .emptyResource
      else .ok (rest.dropLast, action, status)

def parseTokens : List String → Except Gap Information
  | [] => .error .service
  | service :: rest =>
      if service = "" then .error .service
      else
        let version := rest.takeWhile isNumeral
        if version = [] then .error .version
        else match rest.dropWhile isNumeral with
          | [] => .error .type
          | type :: tail =>
              if type = "" then .error .type
              else do
                let (resources, action, status) ← parseTail type tail
                return { service, version := Text.join "." version, type, resources, action, status }

def parse (topic : String) : Except GrammarFault Information :=
  (parseTokens (Text.splitAt '.' topic)).mapError (GrammarFault.mk topic)

end TopicBindings.Topic
