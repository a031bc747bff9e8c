import TopicBindings.Text.Fields

/-!
Paths of files. A path is written without repeated separators and without steps to the place itself; the
empty path is `.`. Two separators in front, but not three, are kept apart from one.
-/

namespace TopicBindings.File

structure Path where
  root : String
  parts : List String
  deriving DecidableEq, Repr

namespace Path

def rootOf (text : List Char) : String :=
  match text.takeWhile (· == '/') with
  | [] => ""
  | ['/', '/'] => "//"
  | _ => "/"

def ofText (text : String) : Path where
  root := rootOf text.toList
  parts := (Text.splitAt '/' text).filter fun part => part ≠ "" && part ≠ "."

def toText (p : Path) : String :=
  if p.root.isEmpty && p.parts.isEmpty then "." else p.root ++ Text.join "/" p.parts

def isAbsolute (p : Path) : Bool :=
  !p.root.isEmpty

/-- Whether there is a null character in a path, which no file system takes. -/
def hasNull (p : Path) : Bool :=
  p.parts.any fun part => part.toList.contains '\x00'

def join (base p : Path) : Path :=
  if p.isAbsolute then p else ⟨base.root, base.parts ++ p.parts⟩

def append (base : Path) (parts : List String) : Path :=
  ⟨base.root, base.parts ++ parts⟩

def parent (p : Path) : Path :=
  ⟨p.root, p.parts.dropLast⟩

end Path

end TopicBindings.File
