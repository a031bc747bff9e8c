import TopicBindings.Declaration.Tree
import TopicBindings.Source.Module

/-!
The files of a tree of declarations: one `__init__.py` for every package and every package around it, and
one module for every declaration at the top of a package. No two declarations share a file, and no module
stands beside a package directory of the same name.
-/

namespace TopicBindings.Source

open Declaration (Tree Package)

abbrev RelativePath := List String

def pathText (path : RelativePath) : String :=
  if path.isEmpty then "." else Text.join "/" path

def initPath (directory : RelativePath) : RelativePath :=
  directory ++ ["__init__.py"]

/-- The text of a package file with a docstring and a version, as far as they are given. -/
def packageText (docstring version : Option String) : String :=
  header ++ "\n" ++ ((docstring.map (· ++ "\n")).getD "") ++
    ((version.map fun v => "\n__version__ = " ++ Text.quoted v ++ "\n").getD "")

def plainPackageText : String :=
  packageText none none

def packageFileText (metadata : Entries String String) : String :=
  packageText (Docstring.render? (metadata.lookup "title") (metadata.lookup "description"))
    (metadata.lookup "version")

def packageSegments (name : String) : List String :=
  if name.isEmpty then [] else Text.splitAt '.' name

def packageDirectory (name : String) : Except Fault RelativePath :=
  (packageSegments name).mapM identifier

/-- The non-empty openings of a path, shortest first. -/
def openings : RelativePath → List RelativePath
  | [] => []
  | part :: rest => [part] :: (openings rest).map (part :: ·)

/-- The directories of a package and of all packages around it, outermost first; the package without
a name is the output directory itself. -/
def packageDirectories (name : String) : Except Fault (List RelativePath) :=
  if name.isEmpty then .ok [[]]
  else return (openings (← (packageSegments name).mapM identifier))

/-- Files in order of rendering, and the directories that are packages. -/
structure Files where
  texts : Entries RelativePath String
  directories : List RelativePath

namespace Files

def addDefault (files : Files) (path : RelativePath) (text : String) : Files :=
  if (files.texts.lookup path).isSome then files
  else { files with texts := files.texts ++ [(path, text)] }

def addPackage (files : Files) (name : String) (metadata : Entries String String) :
    Except Fault Files := do
  let directories ← packageDirectories name
  let opened := directories.foldl (fun acc d => acc.addDefault (initPath d) plainPackageText) files
  let known := { opened with directories := files.directories ++ directories }
  let directory ← packageDirectory name
  return if metadata.isEmpty then known.addDefault (initPath directory) plainPackageText
    else { known with texts := known.texts.set (initPath directory) (packageFileText metadata) }

def addUnit (files : Files) (package : String) (d : Declaration) : Except Fault Files := do
  match d.qualifiedName? with
  | none => return files
  | some name =>
      let segments ← moduleSegments name
      let stem := segments.getLast?.getD ""
      let directory ← packageDirectory package
      let path := directory ++ [stem ++ ".py"]
      if (files.texts.lookup path).isSome then
        throw (.sameFile name.toText (pathText path))
      if files.directories.contains (directory ++ [stem]) then
        throw (.sameDirectory name.toText (pathText (directory ++ [stem])))
      let text ← moduleText (Text.join "." segments) d
      return { files with texts := files.texts ++ [(path, text)] }

end Files

/-- All files of a tree, packages before declarations. -/
def render (t : Tree) : Except Fault (Entries RelativePath String) := do
  let packages ← t.packages.foldlM (fun acc (name, p) => acc.addPackage name p.metadata)
    (⟨[], []⟩ : Files)
  let all ← t.units.foldlM (fun acc (package, d) => acc.addUnit package d) packages
  return all.texts

end TopicBindings.Source
