import TopicBindings.Entries
import TopicBindings.File.Disk

/-!
A file system as a value: what lies where, and the directory that relative paths start from. `Store.disk`
gives the operations of a file system on such a value.
-/

namespace TopicBindings.File

abbrev Location := List String

inductive Item where
  | directory
  | file (bytes : List UInt8)
  deriving DecidableEq, Repr

structure Store where
  items : Entries Location Item
  working : Location

namespace Store

/-- What lies at a location. The root is always there. -/
def item? (s : Store) (place : Location) : Option Item :=
  if place.isEmpty then some .directory else s.items.lookup place

/-- The longest name of an entry, in bytes. -/
def nameLimit : Nat := 255

/-- Follows the parts of a path. All but the last have to be directories. -/
def walk (s : Store) (here : Location) : List String → Except Refusal Location
  | [] => .ok here
  | part :: rest =>
      match s.item? here with
      | some .directory =>
          if part.utf8ByteSize > nameLimit then .error .nameTooLong
          else s.walk (if part = ".." then here.dropLast else here ++ [part]) rest
      | some (.file _) => .error .notDirectory
      | none => .error .noEntry

/-- The longest path, in bytes. -/
def pathLimit : Nat := 4095

/-- The location of a path. What the path names need not be there. -/
def locate (s : Store) (path : Path) : Except Refusal Location :=
  if path.hasNull then .error .nullInName
  else if path.toText.utf8ByteSize > pathLimit then .error .nameTooLong
  else s.walk (if path.isAbsolute then [] else s.working) path.parts

def find? (s : Store) (path : Path) : Option Item :=
  match s.locate path with
  | .ok place => s.item? place
  | .error _ => none

def put (s : Store) (place : Location) (item : Item) : Store :=
  { s with items := s.items.set place item }

def readText (path : Path) (s : Store) : Except Refusal String := do
  match s.item? (← s.locate path) with
  | some (.file bytes) => match String.fromUTF8? ⟨bytes.toArray⟩ with
    | some text => .ok text
    | none => .error .notText
  | some .directory => .error .isDirectory
  | none => .error .noEntry

def makeDirectory (path : Path) (s : Store) : Except Refusal Store := do
  let place ← s.locate path
  match s.item? place with
  | some _ => .error .entryExists
  | none => .ok (s.put place .directory)

def writeBytes (path : Path) (bytes : List UInt8) (s : Store) : Except Refusal Store := do
  let place ← s.locate path
  match s.item? place with
  | some .directory => .error .isDirectory
  | _ => .ok (s.put place (.file bytes))

def attempt (change : Store → Except Refusal Store) : StateM Store (Except Refusal Unit) := do
  match change (← get) with
  | .ok after =>
      set after
      return .ok ()
  | .error refusal => return .error refusal

def disk : Disk (StateM Store) where
  readText path := return readText path (← get)
  holds path := return ((← get).find? path).isSome
  isDirectory path := return (← get).find? path == some .directory
  makeDirectory path := attempt (makeDirectory path)
  writeBytes path bytes := attempt (writeBytes path bytes)

def withDirectory (s : Store) (place : Location) : Store :=
  (List.range place.length).foldl (fun acc n =>
    let outer := place.take (n + 1)
    if (acc.item? outer).isSome then acc else acc.put outer .directory) s

def withFile (s : Store) (place : Location) (bytes : List UInt8) : Store :=
  (s.withDirectory place.dropLast).put place (.file bytes)

end Store

end TopicBindings.File
