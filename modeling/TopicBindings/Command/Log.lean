import TopicBindings.Generation.Build

/-!
The log of a run. Every notice has a level and the name of the part of the program it comes from; without a
wish for more only warnings are shown.
-/

namespace TopicBindings.Command

open Generation (Notice)

inductive Level where
  | debug
  | info
  | warning
  deriving DecidableEq, Repr

def Level.name : Level → String
  | .debug => "DEBUG"
  | .info => "INFO"
  | .warning => "WARNING"

structure LogEntry where
  level : Level
  origin : String
  text : String
  deriving DecidableEq, Repr

namespace LogEntry

def servicesOrigin : String := "asyncapi_codegen.compiler.services"
def interfacesOrigin : String := "asyncapi_codegen.compiler.connectors"
def runOrigin : String := "asyncapi_codegen.compiler.generator"
def filesOrigin : String := "asyncapi_codegen.emitter.python"

def ofNotice? : Notice → Option LogEntry
  | .outsideGrammar fault => some ⟨.warning, servicesOrigin,
      "Topic '" ++ fault.topic ++ "' does not follow the topic grammar, using fallback: " ++
        fault.gap.reason⟩
  | .aggregated topics versions => some ⟨.debug, servicesOrigin,
      "Aggregated " ++ toString topics ++ " topic(s) into " ++ toString versions ++ " version(s)"⟩
  | .primitiveComponent name => some ⟨.debug, runOrigin,
      "Component type '" ++ name ++ "' is primitive, nothing to declare"⟩
  | .silentTopic topic role => some ⟨.debug, interfacesOrigin,
      "Topic '" ++ topic ++ "' carries no message for the " ++ role.packageName ++ " role"⟩
  | .literalOffered .. => none
  | .extensionStarted name => some ⟨.debug, runOrigin, "Running extension " ++ name⟩
  | .remark origin text => some ⟨.debug, origin, text⟩

def writing (target : String) : LogEntry :=
  ⟨.info, runOrigin, "Writing generated sources to " ++ target⟩

def wrote (files : Nat) (target : String) : LogEntry :=
  ⟨.info, filesOrigin, "Wrote " ++ toString files ++ " file(s) to " ++ target⟩

def line (e : LogEntry) : String :=
  e.level.name ++ " " ++ e.origin ++ ": " ++ e.text

def lines (verbose : Bool) (entries : List LogEntry) : List String :=
  (entries.filter fun e => verbose || e.level = .warning).map line

end LogEntry

end TopicBindings.Command
