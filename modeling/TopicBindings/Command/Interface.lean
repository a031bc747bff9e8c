/-!
What the program accepts on its command line: a command, its options and its operand, each with a text that
says what it is for.
-/

namespace TopicBindings.Command

structure Flag where
  names : List String
  value : Option String
  help : String
  deriving DecidableEq, Repr

/-- What stands beside the options: a single operand, or the name of a command that takes all that
follows it. -/
inductive Operand where
  | single (name help : String)
  | command (name : String) (choices : List (String × String))
  deriving DecidableEq, Repr

structure Interface where
  program : String
  about : String
  flags : List Flag
  operand : Operand
  deriving DecidableEq, Repr

def Flag.helpFlag : Flag := ⟨["-h", "--help"], none, "show this help message and exit"⟩

def Flag.verbose : Flag := ⟨["-v", "--verbose"], none, "Log the progress of the run to stderr"⟩

def Flag.target : Flag :=
  ⟨["-o", "--target"], some "TARGET", "Directory to write the generated package tree to"⟩

def Flag.basePackage : Flag :=
  ⟨["--base-package"], some "BASE_PACKAGE",
    "Package prefix of all generated names (default: the document's baseTopic)"⟩

def Flag.characterSet : Flag :=
  ⟨["--character-set"], some "CHARACTER_SET", "Encoding of the generated files (default: utf-8)"⟩

def optionsFileName : String := ".asyncapi-codegen.yaml"

def Flag.config : Flag :=
  ⟨["--config"], some "CONFIG",
    "Path to an options file (default: " ++ optionsFileName ++ " next to the document)"⟩

def Flag.fallback : Flag :=
  ⟨["--no-validate-topic-syntax"], none,
    "Classify topics outside the topic grammar by fallback instead of failing"⟩

def Flag.keepLiterals : Flag :=
  ⟨["--keep-original-literal-values"], none,
    "Use the schema literals as enum values instead of the constant names"⟩

def Flag.json : Flag :=
  ⟨["--json"], none, "Also generate JSON wire names and the topic-to-message lookup"⟩

inductive Verb where
  | generate
  | inspect
  deriving DecidableEq, Repr

namespace Verb

def all : List Verb := [.generate, .inspect]

def name : Verb → String
  | .generate => "generate"
  | .inspect => "inspect"

def summary : Verb → String
  | .generate => "Generate Python bindings from an AsyncAPI document"
  | .inspect => "Show the services and versions of an AsyncAPI document"

def ofName? (name : String) : Option Verb :=
  all.find? fun v => v.name == name

theorem ofName?_name (v : Verb) : ofName? v.name = some v := by
  cases v <;> decide

end Verb

namespace Interface

def programName : String := "asyncapi-codegen"

def main : Interface where
  program := programName
  about := "asyncapi-codegen: typed Python bindings for AsyncAPI services"
  flags := [.helpFlag, .verbose]
  operand := .command "COMMAND" (Verb.all.map fun v => (v.name, v.summary))

def document : Operand := .single "document" "Path to the AsyncAPI YAML document"

def ofVerb : Verb → Interface
  | .generate => {
      program := programName ++ " " ++ Verb.generate.name
      about := "Generate message classes, types and versioned client and server interfaces from an " ++
        "AsyncAPI document. Options are read from '" ++ optionsFileName ++
        "' next to the document if present; command-line options take precedence."
      flags := [.helpFlag, .target, .basePackage, .characterSet, .config, .fallback, .keepLiterals, .json]
      operand := document }
  | .inspect => {
      program := programName ++ " " ++ Verb.inspect.name
      about := "List the topics of a document grouped by version and service, and the latest version " ++
        "of each service."
      flags := [.helpFlag, .fallback]
      operand := document }

end Interface

end TopicBindings.Command
