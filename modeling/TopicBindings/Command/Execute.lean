import TopicBindings.Command.Log
import TopicBindings.Command.Request
import TopicBindings.Generation.OptionsFile
import TopicBindings.Generation.Output
import TopicBindings.Generation.TopicLookup
import TopicBindings.Schema.Document
import TopicBindings.Text.Lines

/-!
What requests do on a file system: what they print, and the code that they end with. Some faults end
everything at once, before anything is printed.
-/

namespace TopicBindings.Command

open File (CharacterSet Disk Path Refusal)
open Generation (Options Overrides Problem)
open Markup (ValueFault)

structure Finished where
  code : Nat
  out : List String
  err : List String
  deriving DecidableEq, Repr

/-- What ends everything at once: a scalar without value, a null character in a name, or a character set that
is not meant for texts. -/
inductive Abort where
  | scalar (fault : ValueFault)
  | nullInPath
  | nullInCharacterSet
  | misused (characterSet : String) (misuse : CharacterSet.Misuse)
  deriving DecidableEq, Repr

def Abort.message : Abort → String
  | .scalar fault => fault.message
  | .nullInPath => "null character in a path"
  | .nullInCharacterSet => "null character in the name of the character set"
  | .misused characterSet misuse => misuse.message characterSet

inductive Trouble where
  | abort (reason : Abort)
  | message (text : String)
  deriving DecidableEq, Repr

abbrev Ending := Except Abort Finished

def Ending.code : Ending → Nat
  | .ok finished => finished.code
  | .error _ => 1

def Trouble.ending (log : List String) : Trouble → Ending
  | .abort reason => .error reason
  | .message text => .ok ⟨1, [], log ++ ["Error: " ++ text]⟩

variable {m : Type → Type} [Monad m]

def readLines (disk : Disk m) (path : Path) : m (Except Refusal String) := do
  return (← disk.readText path).map fun text => String.ofList (Text.plainLineEnds text.toList)

def schemaTrouble (label : String) : Schema.Unreadable → Trouble
  | .markup (.unreadable fault) => .abort (.scalar fault)
  | .markup (.malformed _) => .message ("Invalid YAML in " ++ label)
  | .entry fault => .message (fault.message label)

def loadSchema (disk : Disk m) (path : Path) : m (Except Trouble Schema) := do
  match ← readLines disk path with
  | .error .noEntry => return .error (.message ("Document not found: " ++ path.toText))
  | .error .nullInName => return .error (.abort .nullInPath)
  | .error refusal => return .error (.message ("Cannot read document: " ++ refusal.describe path))
  | .ok text => return (Schema.ofText text).mapError (schemaTrouble path.toText)

def optionsTrouble : Generation.OptionsFile.Unreadable → Trouble
  | .scalar fault => .abort (.scalar fault)
  | .problems found => .message (Problem.report found)

/-- The settings in a file, which relative targets are seen from. -/
def loadOptionsFile (disk : Disk m) (path : Path) : m (Except Trouble Options) := do
  match ← readLines disk path with
  | .error .noEntry => return .error (optionsTrouble (.problems [.missingFile path.toText]))
  | .error .nullInName => return .error (.abort .nullInPath)
  | .error refusal => return .error (optionsTrouble (.problems [.unreadableFile (refusal.describe path)]))
  | .ok text =>
      return (Generation.OptionsFile.ofText path.toText (some path.parent) text).mapError optionsTrouble

/-- The settings in the file that is named, or else in the one beside the document if there is one. -/
def loadOptions (disk : Disk m) (document : Path) (config : Option String) :
    m (Except Trouble Options) := do
  match config with
  | some name => loadOptionsFile disk (Path.ofText name)
  | none =>
      let beside := document.parent.append [optionsFileName]
      if ← disk.holds beside then loadOptionsFile disk beside else return .ok Options.default

/-- The settings that a command line makes. An empty target counts as none. -/
def GenerateArguments.overrides (g : GenerateArguments) : Overrides where
  targetPath := (g.target.filter (!·.isEmpty)).map Path.ofText
  basePackage := g.basePackage
  characterSet := g.characterSet
  validateTopics := if g.fallback then some false else none
  keepLiterals := if g.keepLiterals then some true else none

def fallbackLines (count : Nat) : List String :=
  if count = 0 then []
  else [toString count ++ " topic(s) do not follow the topic grammar and were classified by fallback."]

def outputTrouble : Generation.Output.Failure → Trouble
  | .unwritable _ ⟨.nullInName, _⟩ => .abort .nullInPath
  | .misused characterSet misuse => .abort (.misused characterSet misuse)
  | failure => .message failure.message

def runTrouble : Generation.Failure → Trouble
  | .options .nullInCharacterSet => .abort .nullInCharacterSet
  | failure => .message failure.message

def store (disk : Disk m) (verbose : Bool) (o : Options) (log : List String)
    (result : Generation.Result) : m Ending := do
  match o.destination? with
  | none => return .ok ⟨1, [], log⟩
  | some destination =>
      let target := destination.target.toText
      let log := log ++ LogEntry.lines verbose [.writing target]
      match ← Generation.Output.write disk destination result.tree with
      | .error failure => return (outputTrouble failure).ending log
      | .ok files =>
          return .ok {
            code := 0
            out := fallbackLines result.definitions.diagnostics.length ++
              ["Generated " ++ toString files.length ++ " file(s) in '" ++ target ++ "'."]
            err := log ++ LogEntry.lines verbose [.wrote files.length target] }

def generate (disk : Disk m) (verbose : Bool) (g : GenerateArguments) : m Ending := do
  let document := Path.ofText g.document
  match ← loadSchema disk document with
  | .error trouble => return trouble.ending []
  | .ok schema => match ← loadOptions disk document g.config with
    | .error trouble => return trouble.ending []
    | .ok fromFile =>
        let o := fromFile.override g.overrides
        let extensions := if g.json then [Generation.TopicLookup.extension] else []
        let report := Generation.run schema o extensions
        let log := LogEntry.lines verbose (report.journal.filterMap LogEntry.ofNotice?)
        match report.outcome with
        | .error failure => return (runTrouble failure).ending log
        | .ok result => store disk verbose o log result

def topicLine (topic : Topic) : String :=
  let sides := (if topic.publish.isSome then ["publish"] else []) ++
    (if topic.subscribe.isSome then ["subscribe"] else [])
  "      " ++ topic.name ++ " [" ++
    (if sides.isEmpty then "no messages" else Text.join ", " sides) ++ "]"

def listing (d : Service.Definitions) : List String :=
  (d.versions.flatMap fun (version, services) =>
    ("  version " ++ version) :: services.flatMap fun (service, topics) =>
      ("    " ++ service) :: topics.map topicLine) ++
    "  latest" :: d.latest.map fun (name, latest) => "    " ++ name ++ ": " ++ latest.label

def inspect (disk : Disk m) (verbose : Bool) (i : InspectArguments) : m Ending := do
  match ← loadSchema disk (Path.ofText i.document) with
  | .error trouble => return trouble.ending []
  | .ok schema => match Service.aggregate schema.topics (!i.fallback) with
    | .error fault => return (Trouble.message fault.message).ending []
    | .ok definitions =>
        let title := (schema.about.title.filter (!·.isEmpty)).getD i.document
        let log := (Generation.aggregationNotices definitions).filterMap LogEntry.ofNotice?
        return .ok {
          code := 0
          out := (title ++ " " ++ schema.about.version) :: listing definitions
          err := LogEntry.lines verbose log ++
            definitions.diagnostics.map fun fault => "Warning: " ++ fault.message }

def Request.execute (disk : Disk m) : Request → m Ending
  | .help about => return .ok ⟨0, about.help, []⟩
  | .generate verbose g => Command.generate disk verbose g
  | .inspect verbose i => Command.inspect disk verbose i

/-- Does what a command line asks for. A misuse is reported below the usage. -/
def run (disk : Disk m) (args : List String) : m Ending :=
  match Request.ofArguments args with
  | .ok request => request.execute disk
  | .error misuse => return .ok ⟨2, [], misuse.reader.usage ++ [misuse.message]⟩

end TopicBindings.Command
