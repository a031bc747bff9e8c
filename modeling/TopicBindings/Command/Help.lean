import TopicBindings.Command.Interface
import TopicBindings.Text.Fields

/-!
Usage lines and help texts. Texts are filled to the width of a line; the terms of a list stand in a column
of their own, and what is said about a term begins beside it or, if it is long, below it.
-/

namespace TopicBindings.Command

namespace Help

/-- The width of a line, which leaves two columns of a terminal free. -/
def width : Nat := 78

/-- The column at which the texts about terms begin at the latest. -/
def lastColumn : Nat := 24

/-- The parts of a word behind which a line may end: up to a hyphen between letters. -/
def breakable : List Char → List (List Char)
  | [] => []
  | a :: '-' :: b :: rest =>
      if a.isAlpha && b.isAlpha then [a, '-'] :: breakable (b :: rest)
      else join a (breakable ('-' :: b :: rest))
  | a :: rest => join a (breakable rest)
where
  join (a : Char) : List (List Char) → List (List Char)
    | [] => [[a]]
    | part :: more => (a :: part) :: more

structure Piece where
  spaced : Bool
  text : List Char

def pieces (text : String) : List Piece :=
  (Text.fields ' ' text.toList).flatMap fun word =>
    match breakable word with
    | [] => []
    | first :: more => ⟨true, first⟩ :: more.map fun part => ⟨false, part⟩

def fill (width : Nat) (line : List Char) : List Piece → List (List Char)
  | [] => if line.isEmpty then [] else [line]
  | p :: rest =>
      let longer := if line.isEmpty then p.text else line ++ (if p.spaced then [' '] else []) ++ p.text
      if longer.length ≤ width || line.isEmpty then fill width longer rest
      else line :: fill width p.text rest

def wrap (width : Nat) (text : String) : List String :=
  (fill width [] (pieces text)).map String.ofList

def spaces (n : Nat) : String :=
  String.ofList (List.replicate n ' ')

structure Row where
  indent : Nat
  term : String
  help : String

def rowWidth (r : Row) : Nat :=
  r.indent + r.term.length

def column (rows : List Row) : Nat :=
  min (rows.foldl (fun widest r => max widest (rowWidth r)) 0 + 2) lastColumn

def rowLines (column : Nat) (r : Row) : List String :=
  let term := spaces r.indent ++ r.term
  match wrap (width - column) r.help with
  | [] => [term]
  | first :: more =>
      let below := more.map (spaces column ++ ·)
      if rowWidth r + 2 ≤ column then (term ++ spaces (column - rowWidth r) ++ first) :: below
      else term :: (spaces column ++ first) :: below

end Help

open Help

def Flag.invocation (flag : Flag) : String :=
  Text.join ", " (flag.names.map fun name => match flag.value with
    | some value => name ++ " " ++ value
    | none => name)

def Flag.usage (flag : Flag) : String :=
  let name := flag.names.headD ""
  match flag.value with
  | some value => "[" ++ name ++ " " ++ value ++ "]"
  | none => "[" ++ name ++ "]"

def Flag.row (flag : Flag) : Row :=
  ⟨2, flag.invocation, flag.help⟩

def Operand.usage : Operand → String
  | .single name _ => name
  | .command name _ => name ++ " ..."

def Operand.rows : Operand → List Row
  | .single name help => [⟨2, name, help⟩]
  | .command name choices => ⟨2, name, ""⟩ :: choices.map fun (choice, help) => ⟨4, choice, help⟩

namespace Interface

def start (i : Interface) : String :=
  "usage: " ++ i.program

/-- The options and then the operand behind the name of the program, on one line if they fit. -/
def usage (i : Interface) : List String :=
  let options := i.flags.map Flag.usage
  let whole := Text.join " " (i.start :: options ++ [i.operand.usage])
  if whole.length ≤ Help.width then [whole]
  else
    let indent := i.start.length + 1
    let filled := Help.fill (Help.width - indent) [] (options.map fun text => ⟨true, text.toList⟩)
    match filled.map String.ofList ++ [i.operand.usage] with
    | [] => [i.start]
    | first :: more => (i.start ++ " " ++ first) :: more.map (Help.spaces indent ++ ·)

def help (i : Interface) : List String :=
  let operands := i.operand.rows
  let options := i.flags.map Flag.row
  let column := Help.column (operands ++ options)
  i.usage ++ [""] ++ Help.wrap Help.width i.about ++
    ["", "positional arguments:"] ++ operands.flatMap (Help.rowLines column) ++
    ["", "options:"] ++ options.flatMap (Help.rowLines column)

end Interface

end TopicBindings.Command
