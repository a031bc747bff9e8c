import TopicBindings.File.CharacterSet.Names
import TopicBindings.File.Path
import TopicBindings.Source.Identifier

/-!
The settings of a run, and what can be wrong with them. Checking reports every problem, in a fixed order.
-/

namespace TopicBindings.Generation

open File (Path CharacterSet)

/-- Where the output goes, the package of all generated names, the encoding of the files, whether topic
names have to follow the grammar, and whether literals keep their spelling as values. -/
structure Options where
  targetPath : Option Path
  basePackage : Option String
  characterSet : String
  validateTopics : Bool
  keepLiterals : Bool
  deriving DecidableEq, Repr

structure Overrides where
  targetPath : Option Path
  basePackage : Option String
  characterSet : Option String
  validateTopics : Option Bool
  keepLiterals : Option Bool
  deriving DecidableEq, Repr

inductive Problem where
  | noTarget
  | unknownCharacterSet (name : String)
  | invalidBasePackage (name : String)
  | missingFile (path : String)
  | unreadableFile (reason : String)
  | invalidMarkup (label : String)
  | noMapping (label : String)
  | unknownOption (label key : String)
  | noText (label key : String)
  | noBoolean (label key : String)
  deriving DecidableEq, Repr

namespace Problem

def message : Problem → String
  | .noTarget => "target path is not set"
  | .unknownCharacterSet name => "unknown character set '" ++ name ++ "'"
  | .invalidBasePackage name => "base package '" ++ name ++ "' is not a valid dotted package name"
  | .missingFile path => "Options file not found: " ++ path
  | .unreadableFile reason => "Cannot read options file: " ++ reason
  | .invalidMarkup label => "Invalid YAML in " ++ label
  | .noMapping label => label ++ ": options file must be a YAML mapping"
  | .unknownOption label key => label ++ ": unknown option '" ++ key ++ "'"
  | .noText label key => label ++ ": '" ++ key ++ "' must be a string"
  | .noBoolean label key => label ++ ": '" ++ key ++ "' must be a boolean"

def report (problems : List Problem) : String :=
  "Invalid generator configuration:\n" ++ Text.join "\n" (problems.map fun p => "  - " ++ p.message)

end Problem

namespace Options

def default : Options where
  targetPath := none
  basePackage := none
  characterSet := "utf-8"
  validateTopics := true
  keepLiterals := false

def override (o : Options) (changes : Overrides) : Options where
  targetPath := changes.targetPath <|> o.targetPath
  basePackage := changes.basePackage <|> o.basePackage
  characterSet := changes.characterSet.getD o.characterSet
  validateTopics := changes.validateTopics.getD o.validateTopics
  keepLiterals := changes.keepLiterals.getD o.keepLiterals

/-- The configured package, else the base topic, else none; an empty text counts as none. -/
def effectiveBase (o : Options) (baseTopic : Option String) : String :=
  ([o.basePackage, baseTopic].filterMap id).find? (!·.isEmpty) |>.getD ""

def problems (o : Options) (baseTopic : Option String) : List Problem :=
  let base := o.effectiveBase baseTopic
  (if o.targetPath.isNone then [.noTarget] else []) ++
    (if (CharacterSet.ofName? o.characterSet).isNone then [.unknownCharacterSet o.characterSet]
      else []) ++
    (if !base.isEmpty && !Source.isPackageName base then [.invalidBasePackage base] else [])

/-- Why settings cannot be used. The name of a character set with a null character cannot be looked up. -/
inductive Unusable where
  | problems (found : List Problem)
  | nullInCharacterSet
  deriving DecidableEq, Repr

def Unusable.message : Unusable → String
  | .problems found => Problem.report found
  | .nullInCharacterSet => "null character in the name of the character set"

def check (o : Options) (baseTopic : Option String) : Except Unusable Unit :=
  let found := o.problems baseTopic
  if o.characterSet.toList.contains '\x00' then .error .nullInCharacterSet
  else if found.isEmpty then .ok ()
  else .error (.problems found)

end Options

end TopicBindings.Generation
