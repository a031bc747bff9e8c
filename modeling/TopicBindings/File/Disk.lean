import TopicBindings.File.Path
import TopicBindings.Text.Shown

/-!
What a program asks of a file system, and the reasons for which a file system refuses. The operations are
those of one directory entry; `makeDirectories` is built from them.
-/

namespace TopicBindings.File

inductive Refusal where
  | noEntry
  | entryExists
  | notDirectory
  | isDirectory
  | nameTooLong
  | nullInName
  | notText
  | other (code : Nat) (reason : String)
  deriving DecidableEq, Repr

namespace Refusal

def reason : Refusal → Nat × String
  | .noEntry => (2, "No such file or directory")
  | .entryExists => (17, "File exists")
  | .notDirectory => (20, "Not a directory")
  | .isDirectory => (21, "Is a directory")
  | .nameTooLong => (36, "File name too long")
  | .nullInName => (22, "Invalid argument")
  | .notText => (84, "Invalid or incomplete multibyte or wide character")
  | .other code reason => (code, reason)

def describe (r : Refusal) (path : Path) : String :=
  "[Errno " ++ toString r.reason.1 ++ "] " ++ r.reason.2 ++ ": " ++ Text.shown path.toText

end Refusal

/-- Access to a file system. Writing replaces the bytes of a file or makes a new one. -/
structure Disk (m : Type → Type) where
  readText : Path → m (Except Refusal String)
  holds : Path → m Bool
  isDirectory : Path → m Bool
  makeDirectory : Path → m (Except Refusal Unit)
  writeBytes : Path → List UInt8 → m (Except Refusal Unit)

structure Obstacle where
  refusal : Refusal
  path : Path
  deriving DecidableEq, Repr

def Obstacle.message (o : Obstacle) : String :=
  o.refusal.describe o.path

namespace Disk

variable {m : Type → Type} [Monad m]

/-- Makes a directory whose surroundings are there, or leaves it alone if it is there itself. -/
def ensureDirectory (disk : Disk m) (path : Path) : m (Except Obstacle Unit) := do
  match ← disk.makeDirectory path with
  | .ok () => return .ok ()
  | .error refusal =>
      if refusal = .noEntry then return .error ⟨refusal, path⟩
      if ← disk.isDirectory path then return .ok () else return .error ⟨refusal, path⟩

/-- Makes a directory, first those around it that are missing. The number bounds the way up. -/
def makeDirectories (disk : Disk m) : Nat → Path → m (Except Obstacle Unit)
  | 0, path => disk.ensureDirectory path
  | levels + 1, path => do
      match ← disk.ensureDirectory path with
      | .error ⟨.noEntry, _⟩ =>
          match ← disk.makeDirectories levels path.parent with
          | .ok () => disk.ensureDirectory path
          | .error obstacle => return .error obstacle
      | outcome => return outcome

end Disk

end TopicBindings.File
