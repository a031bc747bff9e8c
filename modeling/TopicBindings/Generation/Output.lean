import TopicBindings.File.CharacterSet.Names
import TopicBindings.File.Disk
import TopicBindings.Generation.Run

/-!
Storing the files of a run. All files are spelled before the first one is stored. Files are stored one by
one in their order; the first obstacle ends this and leaves the files stored so far.
-/

namespace TopicBindings.Generation

open File (CharacterSet Disk Obstacle Path)
open Source (RelativePath)

namespace Output

inductive Failure where
  | spelling (fault : Source.Fault)
  | unwritable (target : Path) (obstacle : Obstacle)
  | unencodable (characterSet gap : String)
  | misused (characterSet : String) (misuse : CharacterSet.Misuse)
  deriving DecidableEq, Repr

def Failure.message : Failure → String
  | .spelling fault => fault.message
  | .unwritable target obstacle =>
      "Cannot write generated sources to " ++ target.toText ++ ": " ++ obstacle.message
  | .unencodable characterSet gap =>
      "Generated sources cannot be encoded as " ++ characterSet ++ ": " ++ gap
  | .misused characterSet misuse => misuse.message characterSet

structure Destination where
  target : Path
  characterSet : CharacterSet
  characterSetName : String

variable {m : Type → Type} [Monad m]

def writeBytes (disk : Disk m) (path : Path) (bytes : List UInt8) : m (Except Obstacle Unit) := do
  match ← disk.makeDirectories path.parent.parts.length path.parent with
  | .error obstacle => return .error obstacle
  | .ok () => return (← disk.writeBytes path bytes).mapError fun refusal => ⟨refusal, path⟩

/-- Stores one file. A text that cannot be encoded leaves an empty file. -/
def writeFile (disk : Disk m) (d : Destination) (file : RelativePath × String) :
    m (Except Failure Unit) := do
  let path := d.target.append file.1
  let encoded := d.characterSet.encode file.2
  match ← writeBytes disk path (encoded.toOption.getD []) with
  | .error obstacle => return .error (.unwritable d.target obstacle)
  | .ok () => match encoded with
    | .ok _ => return .ok ()
    | .error (.gap gap) =>
        return .error (.unencodable d.characterSetName (d.characterSet.describeGap gap))
    | .error (.misuse misuse) => return .error (.misused d.characterSetName misuse)

def writeFiles (disk : Disk m) (d : Destination) : List (RelativePath × String) → m (Except Failure Unit)
  | [] => return .ok ()
  | file :: rest => do
      match ← writeFile disk d file with
      | .ok () => writeFiles disk d rest
      | .error failure => return .error failure

def write (disk : Disk m) (d : Destination) (t : Declaration.Tree) :
    m (Except Failure (Entries RelativePath String)) := do
  match Source.render t with
  | .error fault => return .error (.spelling fault)
  | .ok files => return (← writeFiles disk d files).map fun _ => files

end Output

def Options.destination? (o : Options) : Option Output.Destination := do
  return ⟨← o.targetPath, ← CharacterSet.ofName? o.characterSet, o.characterSet⟩

end TopicBindings.Generation
