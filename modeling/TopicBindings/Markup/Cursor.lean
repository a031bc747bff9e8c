import TopicBindings.Markup.Fault

/-!
Positions in a text, and the small steps of reading from one: looking ahead, taking a run of characters,
passing the end of a line. Beyond the end of the text stands the null character, which no text holds.
-/

namespace TopicBindings.Markup

/-- The text that remains, with the size of the whole text, the number of characters passed, the line and
the column. -/
structure Cursor where
  rest : List Char
  size : Nat
  index : Nat
  line : Nat
  column : Nat

def isBreak (c : Char) : Bool :=
  c == '\n' || c == '\r' || c == '\x85' || c == '\u2028' || c == '\u2029'

def isBreakOrEnd (c : Char) : Bool :=
  c == '\x00' || isBreak c

def isSpaceOrEnd (c : Char) : Bool :=
  c == ' ' || isBreakOrEnd c

def isBlankOrEnd (c : Char) : Bool :=
  c == '\t' || isSpaceOrEnd c

namespace Cursor

def ofText (s : List Char) : Cursor :=
  ⟨s, s.length, 0, 0, 0⟩

def left (c : Cursor) : Nat :=
  c.size - c.index

def peek (c : Cursor) (k : Nat) : Char :=
  c.rest.getD k '\x00'

/-- Passes one character. A carriage return ends a line unless a line feed follows; a byte order mark
takes no column. -/
def next (c : Cursor) : Cursor :=
  match c.rest with
  | [] => c
  | ch :: rest =>
      if (isBreak ch && ch != '\r') || (ch == '\r' && rest.head? != some '\n') then
        { c with rest, index := c.index + 1, line := c.line + 1, column := 0 }
      else if ch == '\uFEFF' then { c with rest, index := c.index + 1 }
      else { c with rest, index := c.index + 1, column := c.column + 1 }

def advance : Nat → Cursor → Cursor
  | 0, c => c
  | n + 1, c => advance n c.next

/-- Whether the text goes on with a document marker: three equal characters and then a blank. -/
def atMarker (c : Cursor) (mark : Char) : Bool :=
  c.peek 0 == mark && c.peek 1 == mark && c.peek 2 == mark && isBlankOrEnd (c.peek 3)

def atDocumentMarker (c : Cursor) : Bool :=
  c.atMarker '-' || c.atMarker '.'

end Cursor

abbrev Scan := StateT Cursor (Except Fault)

namespace Scan

def fail {α : Type} (rule : Malformation) : Scan α :=
  throw (.malformed rule)

def peek (k : Nat) : Scan Char :=
  return (← get).peek k

def column : Scan Nat :=
  return (← get).column

def skip (n : Nat) : Scan Unit :=
  modify (Cursor.advance n)

/-- As many steps as there are characters left, and one more. -/
def fuel : Scan Nat :=
  return (← get).left + 1

def takeWhile (p : Char → Bool) : Scan (List Char) := do
  let run := (← get).rest.takeWhile p
  skip run.length
  return run

def skipSpaces : Scan Unit := do
  let _ ← takeWhile (· == ' ')

def skipIndent (indent : Nat) : Scan Unit := do
  let c ← get
  skip (min (indent - c.column) (c.rest.takeWhile (· == ' ')).length)

def skipComment : Scan Unit := do
  if (← peek 0) == '#' then
    let _ ← takeWhile fun c => !isBreak c

/-- Passes the end of a line, if there is one here. The ends of ASCII and the next-line control read as
line feed, the two Unicode separators as themselves. -/
def lineBreak : Scan (List Char) := do
  let c ← peek 0
  if c == '\r' && (← peek 1) == '\n' then
    skip 2
    return ['\n']
  else if c == '\r' || c == '\n' || c == '\x85' then
    skip 1
    return ['\n']
  else if c == '\u2028' || c == '\u2029' then
    skip 1
    return [c]
  else return []

/-- Passes what may stand behind a header: spaces and a comment, up to the end of the line. -/
def restOfLine (otherwise : Malformation) : Scan Unit := do
  skipSpaces
  skipComment
  if !isBreakOrEnd (← peek 0) then fail otherwise
  let _ ← lineBreak

end Scan

end TopicBindings.Markup
