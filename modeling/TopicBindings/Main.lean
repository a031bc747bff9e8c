import TopicBindings.Command.Execute

/-!
The program on a real file system.
-/

namespace TopicBindings

open File (Disk Path Refusal)

/-- The refusal with an error number. Some operations report the number as a negative one. -/
def refusalOfCode (code : UInt32) (details : String) : Refusal :=
  match (if code > 0x80000000 then 0 - code else code).toNat with
  | 2 => .noEntry
  | 17 => .entryExists
  | 20 => .notDirectory
  | 21 => .isDirectory
  | 36 => .nameTooLong
  | number => .other number details

def refusalOf : IO.Error → Refusal
  | .noFileOrDirectory .. | .noSuchThing .. => .noEntry
  | .alreadyExists .. => .entryExists
  | .inappropriateType _ code details | .invalidArgument _ code details
  | .permissionDenied _ code details | .resourceExhausted _ code details
  | .resourceBusy code details | .hardwareFault code details | .otherError code details =>
      refusalOfCode code details
  | error => .other 5 error.toString

def attempted {α : Type} (path : Path) (action : String → IO α) : IO (Except Refusal α) := do
  if path.hasNull then return .error .nullInName
  try return .ok (← action path.toText) catch error => return .error (refusalOf error)

def readText (path : Path) : IO (Except Refusal String) := do
  match ← attempted path fun name => IO.FS.readBinFile name with
  | .error refusal => return .error refusal
  | .ok bytes => match String.fromUTF8? bytes with
    | some text => return .ok text
    | none => return .error .notText

/-- Whether a path leads to a directory, which cannot be read as a file. -/
def isDirectory (path : Path) : IO Bool := do
  return (← attempted path fun name => IO.FS.readBinFile name) matches .error .isDirectory

def disk : Disk IO where
  readText := readText
  holds path := return (← attempted path fun name => IO.FS.realPath name).toOption.isSome
  isDirectory := isDirectory
  makeDirectory path := attempted path fun name => IO.FS.createDir name
  writeBytes path bytes := attempted path fun name => IO.FS.writeBinFile name ⟨bytes.toArray⟩

end TopicBindings

def main (args : List String) : IO UInt32 := do
  let ending ← TopicBindings.Command.run TopicBindings.disk args
  match ending with
  | .ok finished =>
      finished.out.forM IO.println
      finished.err.forM IO.eprintln
  | .error abort => IO.eprintln ("Error: " ++ abort.message)
  return (TopicBindings.Command.Ending.code ending).toUInt32
