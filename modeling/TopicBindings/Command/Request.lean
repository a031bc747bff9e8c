import TopicBindings.Command.Arguments
import TopicBindings.Command.Help

/-!
What a command line asks for.
-/

namespace TopicBindings.Command

structure GenerateArguments where
  document : String
  target : Option String
  basePackage : Option String
  characterSet : Option String
  config : Option String
  fallback : Bool
  keepLiterals : Bool
  json : Bool
  deriving DecidableEq, Repr

structure InspectArguments where
  document : String
  fallback : Bool
  deriving DecidableEq, Repr

inductive Request where
  | help (about : Interface)
  | generate (verbose : Bool) (arguments : GenerateArguments)
  | inspect (verbose : Bool) (arguments : InspectArguments)
  deriving DecidableEq, Repr

structure Misuse where
  reader : Interface
  fault : Fault
  deriving DecidableEq, Repr

def Misuse.message (m : Misuse) : String :=
  m.reader.program ++ ": error: " ++ m.fault.message

namespace Request

def ofReading (verbose : Bool) (r : Reading) : Verb → Request
  | .generate => .generate verbose {
      document := r.operands.headD ""
      target := r.value? .target
      basePackage := r.value? .basePackage
      characterSet := r.value? .characterSet
      config := r.value? .config
      fallback := r.has .fallback
      keepLiterals := r.has .keepLiterals
      json := r.has .json }
  | .inspect => .inspect verbose ⟨r.operands.headD "", r.has .fallback⟩

/-- What is asked of a command, or help. Arguments left unread are a fault of the whole line. -/
def ofVerb (main : Reading) (verb : Verb) (args : List String) : Except Misuse Request :=
  let i := Interface.ofVerb verb
  match i.read args with
  | .error .help => .ok (.help i)
  | .error (.fault fault) => .error ⟨i, fault⟩
  | .ok r => match main.unread ++ r.unread with
    | [] => .ok (ofReading (main.has .verbose) r verb)
    | unread => .error ⟨.main, .unread unread⟩

/-- The request of a command line. Without a command it asks for help. -/
def ofArguments (args : List String) : Except Misuse Request :=
  match Interface.main.read args with
  | .error .help => .ok (.help .main)
  | .error (.fault fault) => .error ⟨.main, fault⟩
  | .ok r => match r.operands with
    | name :: rest => match Verb.ofName? name with
      | some verb => ofVerb r verb rest
      | none => .error ⟨.main, .unread args⟩
    | [] => match r.unread with
      | [] => .ok (.help .main)
      | unread => .error ⟨.main, .unread unread⟩

end Request

end TopicBindings.Command
