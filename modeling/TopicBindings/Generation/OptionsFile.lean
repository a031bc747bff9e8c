import TopicBindings.Generation.Options
import TopicBindings.Markup.Value

/-!
Settings in files. A file is a mapping from option names to values; an empty file changes nothing. Unknown
names and values of the wrong type are reported together, the unknown names first.
-/

namespace TopicBindings.Generation.OptionsFile

open File (Path)
open Markup (Data Scalar Value)

def targetKey : String := "target-path"
def packageKey : String := "base-package"
def characterSetKey : String := "character-set"
def validateKey : String := "validate-topic-syntax"
def keepKey : String := "keep-original-literal-values"

def keys : List String :=
  [targetKey, packageKey, characterSetKey, validateKey, keepKey]

abbrev Mapping := Entries Scalar Value

def isKnown (key : Scalar) : Bool :=
  keys.any fun k => key == .text k

def unknownNames (label : String) (m : Mapping) : List Problem :=
  (m.filter fun (k, _) => !isKnown k).map fun (k, _) => .unknownOption label k.toText

/-- The value of an option, unless it is null. -/
def value? (m : Mapping) (key : String) : Option Value :=
  match (m.find? fun (k, _) => k == .text key).map Prod.snd with
  | some (.scalar .null) => none
  | found => found

def typed {α : Type} (read : Value → Option α) (problem : Problem) (v : Option Value) :
    Except Problem (Option α) :=
  match v with
  | none => .ok none
  | some v => match read v with
    | some a => .ok (some a)
    | none => .error problem

def asText? : Value → Option String
  | .scalar (.text s) => some s
  | _ => none

def asBoolean? : Value → Option Bool
  | .scalar (.bool b) => some b
  | _ => none

def text (label : String) (m : Mapping) (key : String) : Except Problem (Option String) :=
  typed asText? (.noText label key) (value? m key)

def boolean (label : String) (m : Mapping) (key : String) : Except Problem (Option Bool) :=
  typed asBoolean? (.noBoolean label key) (value? m key)

def problemOf {α : Type} : Except Problem α → List Problem
  | .ok _ => []
  | .error problem => [problem]

/-- What is wrong with the values in a file, in the order of the options. -/
def wrongValues (label : String) (m : Mapping) : List Problem :=
  ([targetKey, packageKey, characterSetKey].flatMap fun key => problemOf (text label m key)) ++
    [validateKey, keepKey].flatMap fun key => problemOf (boolean label m key)

def valueOf {α : Type} : Except Problem (Option α) → Option α
  | .ok found => found
  | .error _ => none

/-- The values in a file. A relative target lies in the directory of the file. -/
def overrides (label : String) (directory : Option Path) (m : Mapping) : Overrides where
  targetPath := (valueOf (text label m targetKey)).map fun target =>
    match directory with
    | some base => base.join (Path.ofText target)
    | none => Path.ofText target
  basePackage := valueOf (text label m packageKey)
  characterSet := valueOf (text label m characterSetKey)
  validateTopics := valueOf (boolean label m validateKey)
  keepLiterals := valueOf (boolean label m keepKey)

def ofMapping (label : String) (directory : Option Path) (m : Mapping) : Except (List Problem) Options :=
  match unknownNames label m ++ wrongValues label m with
  | [] => .ok (Options.default.override (overrides label directory m))
  | problems => .error problems

/-- Why the text of a file holds no settings: there is a scalar without value in it, or there are problems. -/
inductive Unreadable where
  | scalar (fault : Markup.ValueFault)
  | problems (found : List Problem)
  deriving DecidableEq, Repr

def ofText (label : String) (directory : Option Path) (s : String) : Except Unreadable Options :=
  match Data.ofText? s with
  | .error (.unreadable fault) => .error (.scalar fault)
  | .error (.malformed _) => .error (.problems [.invalidMarkup label])
  | .ok none => .ok Options.default
  | .ok (some d) => match d.value d.root with
    | .scalar .null => .ok Options.default
    | .mapping entries =>
        (ofMapping label directory (entries.map fun (key, id) => (key, d.value id))).mapError .problems
    | _ => .error (.problems [.noMapping label])

end TopicBindings.Generation.OptionsFile
