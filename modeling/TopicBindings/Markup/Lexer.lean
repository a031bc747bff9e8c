import TopicBindings.Markup.Token

/-!
The tokens of a document. Indentation opens and closes blocks, so the reader keeps the columns of the open
ones. A key of a mapping is recognised by the colon behind it: where a key may start, the place is
remembered, and the tokens that announce the key are put in there once the colon is found. Such a key has
to lie on one line and within 1024 characters. Where reading ends at a fault, the tokens before it that can no
longer become keys are still there.
-/

namespace TopicBindings.Markup

/-- A place where a key may have started. Where nothing but a key can stand, it is required. -/
structure KeyPlace where
  position : Nat
  required : Bool
  index : Nat
  line : Nat
  column : Nat

/-- The reading of a document: what was read, the last token in front, the number of open brackets, the column
of the innermost block and of those around it, and where keys may have started, by the number of brackets
around. -/
structure Lexer where
  cursor : Cursor
  tokens : List Token
  count : Nat
  depth : Nat
  indent : Int
  outer : List Int
  keyAllowed : Bool
  places : List (Nat × KeyPlace)

namespace Lexer

def ofText (s : List Char) : Lexer :=
  ⟨.ofText s, [], 0, 0, -1, [], true, []⟩

def peek (l : Lexer) (k : Nat) : Char :=
  l.cursor.peek k

def column (l : Lexer) : Int :=
  l.cursor.column

def inFlow (l : Lexer) : Bool :=
  l.depth != 0

def push (l : Lexer) (t : Token) : Lexer :=
  { l with tokens := t :: l.tokens, count := l.count + 1 }

def insert (l : Lexer) (position : Nat) (t : Token) : Lexer :=
  let behind := l.count - position
  { l with tokens := l.tokens.take behind ++ t :: l.tokens.drop behind, count := l.count + 1 }

def skip (l : Lexer) (n : Nat) : Lexer :=
  { l with cursor := l.cursor.advance n }

def take (l : Lexer) (n : Nat) (t : Token) : Lexer :=
  (l.skip n).push t

def scan (l : Lexer) (s : Scan Token) : Except Fault Lexer := do
  let (token, cursor) ← s.run l.cursor
  return { l with cursor }.push token

/-- Passes blanks, comments and the ends of lines. After the end of a line a key may start. -/
def toNextToken : Nat → Lexer → Except Fault Lexer
  | 0, l => .ok l
  | fuel + 1, l => do
      let step : Scan Bool := do
        Scan.skipSpaces
        Scan.skipComment
        return !(← Scan.lineBreak).isEmpty
      let (broken, cursor) ← step.run l.cursor
      if broken then toNextToken fuel { l with cursor, keyAllowed := l.keyAllowed || !l.inFlow }
      else return { l with cursor }

def dropStalePlaces (l : Lexer) : Except Fault Lexer :=
  let stale (p : KeyPlace) : Bool := p.line != l.cursor.line || l.cursor.index > p.index + 1024
  if l.places.any fun (_, p) => stale p && p.required then .error (.malformed .unfinishedKey)
  else .ok { l with places := l.places.filter fun (_, p) => !stale p }

def dropPlace (l : Lexer) : Except Fault Lexer :=
  match l.places.lookup l.depth with
  | some p =>
      if p.required then .error (.malformed .unfinishedKey)
      else .ok { l with places := l.places.filter fun (d, _) => d != l.depth }
  | none => .ok l

def notePlace (l : Lexer) : Except Fault Lexer := do
  if !l.keyAllowed then return l
  let l ← l.dropPlace
  let place : KeyPlace := {
    position := l.count
    required := !l.inFlow && l.indent == l.column
    index := l.cursor.index
    line := l.cursor.line
    column := l.cursor.column }
  return { l with places := (l.depth, place) :: l.places }

def blocksWithin (column indent : Int) : List Int → Int × List Int
  | [] => (indent, [])
  | outer :: rest => if indent > column then blocksWithin column outer rest else (indent, outer :: rest)

def unwind (l : Lexer) (column : Int) : Lexer :=
  if l.inFlow then l
  else
    let (indent, outer) := blocksWithin column l.indent l.outer
    let closed := l.outer.length - outer.length
    { l with
      indent, outer
      tokens := List.replicate closed .blockEnd ++ l.tokens
      count := l.count + closed }

def openBlock (l : Lexer) (column : Int) (position : Nat) (start : Token) : Lexer :=
  if l.indent < column then
    { l.insert position start with indent := column, outer := l.indent :: l.outer }
  else l

def finish (l : Lexer) : Except Fault Lexer := do
  let l ← (l.unwind (-1)).dropPlace
  return { l with keyAllowed := false, places := [] }.push .streamEnd

def documentMarker (l : Lexer) (t : Token) : Except Fault Lexer := do
  let l ← (l.unwind (-1)).dropPlace
  return { l with keyAllowed := false }.take 3 t

def directive (l : Lexer) : Except Fault Lexer := do
  let l ← (l.unwind (-1)).dropPlace
  { l with keyAllowed := false }.scan Scan.directive

def openBracket (l : Lexer) (t : Token) : Except Fault Lexer := do
  let l ← l.notePlace
  return { l with depth := l.depth + 1, keyAllowed := true }.take 1 t

/-- A closing bracket. Outside of all brackets there is nothing to close. -/
def closeBracket (l : Lexer) (t : Token) : Except Fault Lexer := do
  let l ← l.dropPlace
  if l.depth = 0 then throw (.malformed .missingContent)
  return { l with depth := l.depth - 1, keyAllowed := false }.take 1 t

def flowEntry (l : Lexer) : Except Fault Lexer := do
  let l ← { l with keyAllowed := true }.dropPlace
  return l.take 1 .flowEntry

def blockEntry (l : Lexer) : Except Fault Lexer := do
  if !l.inFlow && !l.keyAllowed then throw (.malformed .misplacedEntry)
  let l := if l.inFlow then l else l.openBlock l.column l.count .blockSequenceStart
  let l ← { l with keyAllowed := true }.dropPlace
  return l.take 1 .blockEntry

def key (l : Lexer) : Except Fault Lexer := do
  if !l.inFlow && !l.keyAllowed then throw (.malformed .misplacedKey)
  let l := if l.inFlow then l else l.openBlock l.column l.count .blockMappingStart
  let l ← { l with keyAllowed := !l.inFlow }.dropPlace
  return l.take 1 .key

/-- The colon before a value. If a key may have started before it, that is where the key stands. -/
def value (l : Lexer) : Except Fault Lexer := do
  match l.places.lookup l.depth with
  | some p =>
      let l := { l.insert p.position .key with places := l.places.filter fun (d, _) => d != l.depth }
      let l := if l.inFlow then l else l.openBlock p.column p.position .blockMappingStart
      return { l with keyAllowed := false }.take 1 .value
  | none =>
      if !l.inFlow && !l.keyAllowed then throw (.malformed .misplacedValue)
      let l := if l.inFlow then l else l.openBlock l.column l.count .blockMappingStart
      let l ← { l with keyAllowed := !l.inFlow }.dropPlace
      return l.take 1 .value

def node (l : Lexer) (s : Scan Token) : Except Fault Lexer := do
  let l ← l.notePlace
  { l with keyAllowed := false }.scan s

def blockScalar (l : Lexer) (folded : Bool) : Except Fault Lexer := do
  let l ← { l with keyAllowed := true }.dropPlace
  l.scan (Scan.blockScalar folded l.indent)

def plain (l : Lexer) : Except Fault Lexer := do
  let l ← l.notePlace
  let ((token, broken), cursor) ← (Scan.plainScalar l.inFlow l.indent).run l.cursor
  return { l with cursor, keyAllowed := broken }.push token

def startsPlain (inFlow : Bool) (c following : Char) : Bool :=
  !(isBlankOrEnd c || "-?:,[]\x7b\x7d#&*!|>'\"%@`".toList.contains c) ||
    (!isBlankOrEnd following && (c == '-' || (!inFlow && (c == '?' || c == ':'))))

def dispatch (l : Lexer) : Except Fault Lexer :=
  let c := l.peek 0
  let isolated := isBlankOrEnd (l.peek 1)
  if c == '%' && l.column == 0 then l.directive
  else if l.column == 0 && l.cursor.atMarker '-' then l.documentMarker .documentStart
  else if l.column == 0 && l.cursor.atMarker '.' then l.documentMarker .documentEnd
  else if c == '[' then l.openBracket .flowSequenceStart
  else if c == '{' then l.openBracket .flowMappingStart
  else if c == ']' then l.closeBracket .flowSequenceEnd
  else if c == '}' then l.closeBracket .flowMappingEnd
  else if c == ',' then l.flowEntry
  else if c == '-' && isolated then l.blockEntry
  else if c == '?' && (l.inFlow || isolated) then l.key
  else if c == ':' && (l.inFlow || isolated) then l.value
  else if c == '*' then l.node (Scan.anchorName >>= fun name => pure (.alias name))
  else if c == '&' then l.node (Scan.anchorName >>= fun name => pure (.anchor name))
  else if c == '!' then l.node Scan.tag
  else if c == '|' && !l.inFlow then l.blockScalar false
  else if c == '>' && !l.inFlow then l.blockScalar true
  else if c == '\'' then l.node (Scan.quotedScalar false)
  else if c == '"' then l.node (Scan.quotedScalar true)
  else if startsPlain l.inFlow c (l.peek 1) then l.plain
  else .error (.malformed .unexpectedCharacter)

def step (l : Lexer) : Except Fault Lexer := do
  let l ← l.toNextToken (l.cursor.left + 1)
  let l ← l.dropStalePlaces
  let l := l.unwind l.column
  if l.cursor.rest.isEmpty then l.finish else l.dispatch

/-- The tokens before the first one that may still become a key. -/
def settled (l : Lexer) : List Token :=
  let places := match l.dropStalePlaces with
    | .ok fresh => fresh.places
    | .error _ => l.places
  let certain := places.foldl (fun first (_, p) => min first p.position) l.count
  (l.tokens.drop (l.count - certain)).reverse

end Lexer

/-- The tokens of a text as far as they can be read, and the fault behind them. -/
structure Tokens where
  ready : List Token
  ending : Fault

namespace Lexer

/-- Reads tokens to the end of the text or to a fault. Every token takes at least one character. -/
def run : Nat → Lexer → Tokens
  | 0, l => ⟨l.settled, .malformed .endless⟩
  | fuel + 1, l =>
      match l.step with
      | .error fault => ⟨l.settled, fault⟩
      | .ok next =>
          if next.tokens.head? = some .streamEnd then ⟨next.tokens.reverse, .malformed .missingContent⟩
          else run fuel next

end Lexer

namespace Token

def isAllowed (c : Char) : Bool :=
  let n := c.toNat
  n == 0x09 || n == 0x0A || n == 0x0D || (0x20 ≤ n && n ≤ 0x7E) || n == 0x85 ||
    (0xA0 ≤ n && n ≤ 0xD7FF) || (0xE000 ≤ n && n ≤ 0xFFFD) || 0x10000 ≤ n

def dropMark : List Char → List Char
  | '\uFEFF' :: rest => rest
  | s => s

end Token

/-- The tokens of a text; if all of it can be read, the end of the text is the last one. -/
def Tokens.ofText (s : List Char) : Tokens :=
  if s.all Token.isAllowed then (Lexer.ofText (Token.dropMark s)).run (s.length + 2)
  else ⟨[], .malformed .unprintableCharacter⟩

end TopicBindings.Markup
