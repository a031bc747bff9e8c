import TopicBindings.Character.Digit
import TopicBindings.Command.Interface
import TopicBindings.Text.Shown

/-!
Command lines read against an interface. Long options may be shortened as long as they stay distinct, short
ones may share a hyphen, and everything behind the marker `--` is an operand. What an interface has no place
for is collected as unread.
-/

namespace TopicBindings.Command

inductive Fault where
  | ambiguous (text : String) (names : List String)
  | noValue (flag : Flag)
  | needlessValue (flag : Flag) (value : String)
  | unknownCommand (operand text : String) (choices : List String)
  | missingOperand (name : String)
  | unread (texts : List String)
  deriving DecidableEq, Repr

def Flag.title (flag : Flag) : String :=
  Text.join "/" flag.names

def Fault.message : Fault → String
  | .ambiguous text names => "ambiguous option: " ++ text ++ " could match " ++ Text.join ", " names
  | .noValue flag => "argument " ++ flag.title ++ ": expected one argument"
  | .needlessValue flag value =>
      "argument " ++ flag.title ++ ": ignored explicit argument " ++ Text.shown value
  | .unknownCommand operand text choices =>
      "argument " ++ operand ++ ": invalid choice: " ++ Text.shown text ++ " (choose from " ++
        Text.join ", " (choices.map Text.shown) ++ ")"
  | .missingOperand name => "the following arguments are required: " ++ name
  | .unread texts => "unrecognized arguments: " ++ Text.join " " texts

/-- What stands behind the name of an option in the same argument. -/
inductive Attached where
  | nothing
  | byEquals (value : List Char)
  | directly (first : Char) (rest : List Char)
  deriving DecidableEq, Repr

namespace Attached

def ofTail : List Char → Attached
  | [] => .nothing
  | '=' :: value => .byEquals value
  | c :: rest => .directly c rest

/-- The number of letters that may be short options themselves. -/
def letters : Attached → Nat
  | .nothing | .byEquals _ => 0
  | .directly _ rest => rest.length + 1

theorem letters_ofTail_le (s : List Char) : (ofTail s).letters ≤ s.length := by
  unfold ofTail
  split <;> simp [letters]

end Attached

/-- An argument as it looks before the ones around it are known. -/
inductive Word where
  | plain (text : String)
  | marker
  | flag (text : String) (flag : Flag) (attached : Attached)
  | unknown (text : String)
  deriving DecidableEq, Repr

def Word.text : Word → String
  | .plain text | .flag text _ _ | .unknown text => text
  | .marker => "--"

namespace Interface

def flag? (i : Interface) (name : List Char) : Option Flag :=
  i.flags.find? fun f => f.names.any fun n => n.toList == name

def names (i : Interface) : List (String × Flag) :=
  i.flags.flatMap fun f => f.names.map fun n => (n, f)

def cutAtEquals (s : List Char) : List Char × Attached :=
  match s.dropWhile (· ≠ '=') with
  | [] => (s, .nothing)
  | _ :: value => (s.takeWhile (· ≠ '='), .byEquals value)

/-- The options that a text may be short for, each with what is attached to it. -/
def candidates (i : Interface) (s : List Char) : List (String × Flag × Attached) :=
  match s with
  | '-' :: '-' :: _ =>
      let (start, attached) := cutAtEquals s
      (i.names.filter fun (n, _) => start.isPrefixOf n.toList).map fun (n, f) => (n, f, attached)
  | a :: b :: rest =>
      (i.names.filter fun (n, _) => n.toList == [a, b]).map fun (n, f) => (n, f, .ofTail rest)
  | _ => []

def isNegativeNumber (s : List Char) : Bool :=
  let isDigit (c : Char) : Bool := (Character.decimalValue? c).isSome
  match if s.getLast? = some '\n' then s.dropLast else s with
  | '-' :: body =>
      let behind := body.dropWhile isDigit
      match behind with
      | [] => !body.isEmpty
      | '.' :: fraction => !fraction.isEmpty && fraction.all isDigit
      | _ => false
  | _ => false

def word (i : Interface) (text : String) : Except Fault Word := do
  let s := text.toList
  if s.head? ≠ some '-' then return .plain text
  if let some f := i.flag? s then return .flag text f .nothing
  if s.length = 1 then return .plain text
  let (start, attached) := cutAtEquals s
  match i.flag? start with
  | some f => return .flag text f attached
  | none =>
      match i.candidates s with
      | [(_, f, attached)] => return .flag text f attached
      | [] => return if isNegativeNumber s || s.contains ' ' then .plain text else .unknown text
      | several => throw (.ambiguous text (several.map Prod.fst))

def words (i : Interface) : List String → Except Fault (List Word)
  | [] => .ok []
  | text :: rest => do
      if text = "--" then return .marker :: rest.map .plain
      let w ← i.word text
      return w :: (← i.words rest)

end Interface

abbrev Given := List (Flag × Option String)

structure Reading where
  given : Given
  operands : List String
  unread : List String

inductive Interruption where
  | help
  | fault (fault : Fault)
  deriving DecidableEq, Repr

/-- What an argument that starts with an option says, and whether the text that follows it was taken. -/
structure FlagReading where
  given : Given
  taken : Bool
  unread : List String

/-- Reads an option with the value that is attached to it or follows it. Letters attached to a short option
without value are short options themselves; from the first one on that is none they are left unread. -/
def readFlag (i : Interface) (next : Option String) (flag : Flag) : Attached → Except Fault FlagReading
  | .nothing =>
      match flag.value, next with
      | none, _ => .ok ⟨[(flag, none)], false, []⟩
      | some _, some value => .ok ⟨[(flag, some value)], true, []⟩
      | some _, none => .error (.noValue flag)
  | .byEquals value =>
      let value := String.ofList value
      if flag.value.isSome then .ok ⟨[(flag, some value)], false, []⟩
      else .error (.needlessValue flag value)
  | .directly c rest =>
      let value := String.ofList (c :: rest)
      if flag.value.isSome then .ok ⟨[(flag, some value)], false, []⟩
      else if c = '-' then .error (.needlessValue flag value)
      else match i.flag? ['-', c] with
        | none => .ok ⟨[(flag, none)], false, ["-" ++ value]⟩
        | some other => do
            let r ← readFlag i next other (.ofTail rest)
            return { r with given := (flag, none) :: r.given }
termination_by attached => attached.letters
decreasing_by exact Nat.lt_succ_of_le (Attached.letters_ofTail_le rest)

def leadingMarkers (words : List Word) : Nat :=
  if words.head? = some .marker then 1 else 0

def plainText? : List Word → Option String
  | .plain text :: _ => some text
  | _ => none

def readOn (i : Interface) (soFar : Reading) : List Word → Except Interruption Reading
  | [] => .ok soFar
  | .unknown text :: rest => readOn i { soFar with unread := soFar.unread ++ [text] } rest
  | .flag _ flag attached :: rest => do
      let r ← (readFlag i (plainText? rest) flag attached).mapError .fault
      if r.given.any fun g => g.1 = .helpFlag then throw .help
      let soFar := { soFar with given := soFar.given ++ r.given, unread := soFar.unread ++ r.unread }
      if r.taken then readOn i soFar (rest.drop 1) else readOn i soFar rest
  | .marker :: rest =>
      match i.operand, soFar.operands, plainText? rest with
      | .command name choices, [], some _ =>
          throw (.fault (.unknownCommand name "--" (choices.map Prod.fst)))
      | .single .., [], some text => readOn i { soFar with operands := [text] } (rest.drop 1)
      | _, _, _ => readOn i { soFar with unread := soFar.unread ++ ["--"] } rest
  | .plain text :: rest =>
      match i.operand, soFar.operands with
      | .command name choices, [] =>
          if (choices.lookup text).isSome then
            return { soFar with operands := text :: rest.map Word.text }
          else throw (.fault (.unknownCommand name text (choices.map Prod.fst)))
      | .single .., [] => readOn i { soFar with operands := [text] } (rest.drop (leadingMarkers rest))
      | _, _ => readOn i { soFar with unread := soFar.unread ++ [text] } rest
termination_by words => words.length
decreasing_by
  all_goals
    simp only [List.length_cons, List.length_drop]
    omega

/-- Reads a whole command line. A single operand may not be missing. -/
def Interface.read (i : Interface) (args : List String) : Except Interruption Reading := do
  let words ← (i.words args).mapError .fault
  let reading ← readOn i ⟨[], [], []⟩ words
  match i.operand, reading.operands with
  | .single name _, [] => throw (.fault (.missingOperand name))
  | _, _ => return reading

namespace Reading

def has (r : Reading) (flag : Flag) : Bool :=
  r.given.any fun g => g.1 = flag

def value? (r : Reading) (flag : Flag) : Option String :=
  (r.given.reverse.lookup flag).join

end Reading

end TopicBindings.Command
