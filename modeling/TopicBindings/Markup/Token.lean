import TopicBindings.Markup.Cursor
import TopicBindings.Text.Quoted

/-!
Tokens of the markup, and the reading of those that hold text: directives, anchors, tags and scalars.
-/

namespace TopicBindings.Markup

inductive Token where
  | streamEnd
  | versionDirective (major : Nat)
  | tagDirective (handle replacement : String)
  | otherDirective
  | documentStart
  | documentEnd
  | blockSequenceStart
  | blockMappingStart
  | blockEnd
  | flowSequenceStart
  | flowSequenceEnd
  | flowMappingStart
  | flowMappingEnd
  | blockEntry
  | flowEntry
  | key
  | value
  | alias (name : String)
  | anchor (name : String)
  | tag (handle : Option String) (suffix : String)
  | scalar (text : String) (plain : Bool)
  deriving DecidableEq, Repr

namespace Scan

def isWordChar (c : Char) : Bool :=
  c.isAlphanum || c == '-' || c == '_'

def isUriChar (c : Char) : Bool :=
  c.isAlphanum || "-;/?:@&=+$,_.!~*'()[]%".toList.contains c

def number : Scan Nat := do
  let digits ← takeWhile Char.isDigit
  if digits.isEmpty then fail .badDirective
  return digits.foldl (fun n c => n * 10 + (c.toNat - 0x30)) 0

def uriByte : Scan UInt8 := do
  match Text.Quoted.hexValue? (← peek 0), Text.Quoted.hexValue? (← peek 1) with
  | some a, some b =>
      skip 2
      return (a * 16 + b).toUInt8
  | _, _ => fail .badTag

def uriBytes : Nat → Scan (List UInt8)
  | 0 => return []
  | fuel + 1 => do
      if (← peek 0) == '%' then
        skip 1
        let byte ← uriByte
        return byte :: (← uriBytes fuel)
      else return []

def uriPieces : Nat → Scan (List Char)
  | 0 => return []
  | fuel + 1 => do
      let run ← takeWhile fun c => isUriChar c && c != '%'
      if (← peek 0) == '%' then
        let bytes ← uriBytes (fuel + 1)
        match String.fromUTF8? (ByteArray.mk bytes.toArray) with
        | some s => return run ++ s.toList ++ (← uriPieces fuel)
        | none => fail .badTag
      else return run

def tagUri : Scan String := do
  let text ← uriPieces (← fuel)
  if text.isEmpty then fail .badTag
  return String.ofList text

/-- A handle: one mark, or a word between two. -/
def tagHandle : Scan String := do
  if (← peek 0) != '!' then fail .badTag
  skip 1
  if (← peek 0) == ' ' then return "!"
  let word ← takeWhile isWordChar
  if (← peek 0) != '!' then fail .badTag
  skip 1
  return String.ofList ('!' :: word ++ ['!'])

def directive : Scan Token := do
  skip 1
  let name ← takeWhile isWordChar
  if name.isEmpty || !isSpaceOrEnd (← peek 0) then fail .badDirective
  let token ← match String.ofList name with
    | "YAML" => do
        skipSpaces
        let major ← number
        if (← peek 0) != '.' then fail .badDirective
        skip 1
        let _ ← number
        if !isSpaceOrEnd (← peek 0) then fail .badDirective
        pure (Token.versionDirective major)
    | "TAG" => do
        skipSpaces
        let handle ← tagHandle
        if (← peek 0) != ' ' then fail .badDirective
        skipSpaces
        let replacement ← tagUri
        if !isSpaceOrEnd (← peek 0) then fail .badDirective
        pure (Token.tagDirective handle replacement)
    | _ => do
        let _ ← takeWhile fun c => !isBreak c
        pure Token.otherDirective
  restOfLine .badDirective
  return token

def anchorName : Scan String := do
  skip 1
  let name ← takeWhile isWordChar
  let c ← peek 0
  if name.isEmpty || !(isBlankOrEnd c || "?:,]\x7d%@`".toList.contains c) then fail .badAnchor
  return String.ofList name

/-- Whether a second mark comes before the next space, so that the tag has a handle. -/
def hasHandle : Scan Bool := do
  return ((← get).rest.drop 1 |>.takeWhile fun c => !isSpaceOrEnd c).contains '!'

def tag : Scan Token := do
  let c ← peek 1
  let token ←
    if c == '<' then do
      skip 2
      let suffix ← tagUri
      if (← peek 0) != '>' then fail .badTag
      skip 1
      pure (Token.tag none suffix)
    else if isBlankOrEnd c then do
      skip 1
      pure (Token.tag none "!")
    else if ← hasHandle then do
      let handle ← tagHandle
      pure (Token.tag (some handle) (← tagUri))
    else do
      skip 1
      pure (Token.tag (some "!") (← tagUri))
  if !isSpaceOrEnd (← peek 0) then fail .badTag
  return token

/-- What becomes of the line ends behind a block scalar. -/
inductive Chomping where
  | strip
  | clip
  | keep
  deriving DecidableEq, Repr

def chomping? : Scan (Option Chomping) := do
  match ← peek 0 with
  | '+' => skip 1; return some .keep
  | '-' => skip 1; return some .strip
  | _ => return none

def increment? : Scan (Option Nat) := do
  let c ← peek 0
  if c == '0' then fail .badBlockHeader
  if c.isDigit then
    skip 1
    return some (c.toNat - 0x30)
  return none

/-- The two signs of a block header, in either order. -/
def blockHeader : Scan (Chomping × Option Nat) := do
  let first ← chomping?
  let increment ← increment?
  let last ← if first.isSome || increment.isNone then pure none else chomping?
  if !isSpaceOrEnd (← peek 0) then fail .badBlockHeader
  return ((first <|> last).getD .clip, increment)

/-- Blank lines in front of a block scalar, and the widest indentation among them and the next line. -/
def blockIndentation : Nat → Nat → Scan (List Char × Nat)
  | 0, widest => return ([], widest)
  | fuel + 1, widest => do
      let c ← peek 0
      if c == ' ' then
        skipSpaces
        blockIndentation fuel (max widest (← column))
      else if isBreak c then
        let first ← lineBreak
        let (more, width) ← blockIndentation fuel widest
        return (first ++ more, width)
      else return ([], widest)

def blockBreaks (indent : Nat) : Nat → Scan (List Char)
  | 0 => return []
  | fuel + 1 => do
      skipIndent indent
      if isBreak (← peek 0) then
        let first ← lineBreak
        return first ++ (← blockBreaks indent fuel)
      else return []

/-- The lines of a block scalar, after the blank lines before them; the end of the last line and the
blank lines behind it are given apart. -/
def blockLines (folded : Bool) (indent : Nat) (breaks : List Char) :
    Nat → Scan (List Char × List Char × List Char)
  | 0 => return ([], [], breaks)
  | fuel + 1 => do
      if (← column) != indent || (← peek 0) == '\x00' then return ([], [], breaks)
      let flush := !(" \t".toList.contains (← peek 0))
      let line ← takeWhile fun c => !isBreak c
      let ending ← lineBreak
      let behind ← blockBreaks indent (← Scan.fuel)
      if (← column) == indent && (← peek 0) != '\x00' then
        let joint := if folded && ending == ['\n'] && flush && !(" \t".toList.contains (← peek 0)) then
            (if behind.isEmpty then [' '] else [])
          else ending
        let (more, last, tail) ← blockLines folded indent behind fuel
        return (breaks ++ line ++ joint ++ more, last, tail)
      else return (breaks ++ line, ending, behind)

/-- A literal or folded scalar in a block whose parent has the given indentation. -/
def blockScalar (folded : Bool) (parentIndent : Int) : Scan Token := do
  skip 1
  let (chomping, increment) ← blockHeader
  restOfLine .badBlockHeader
  let least := max 1 (parentIndent + 1).toNat
  let (breaks, indent) ← match increment with
    | none => do
        let (breaks, widest) ← blockIndentation (← fuel) 0
        pure (breaks, max least widest)
    | some n => do
        let indent := least + n - 1
        pure (← blockBreaks indent (← fuel), indent)
  let (text, ending, behind) ← blockLines folded indent breaks (← fuel)
  let tail := match chomping with
    | .strip => []
    | .clip => ending
    | .keep => ending ++ behind
  return .scalar (String.ofList (text ++ tail)) false

def simpleEscape? (c : Char) : Option Char :=
  [('0', '\x00'), ('a', '\x07'), ('b', '\x08'), ('t', '\t'), ('\t', '\t'), ('n', '\n'), ('v', '\x0b'),
    ('f', '\x0c'), ('r', '\r'), ('e', '\x1b'), (' ', ' '), ('"', '"'), ('\\', '\\'), ('/', '/'),
    ('N', '\x85'), ('_', '\xa0'), ('L', '\u2028'), ('P', '\u2029')].lookup c

def codeWidth? (c : Char) : Option Nat :=
  [('x', 2), ('u', 4), ('U', 8)].lookup c

def charOfCode (code : Nat) : Except Fault Char :=
  if code < 0x110000 then .ok (if Nat.isValidChar code then Char.ofNat code else '\uFFFD')
  else if code < 0x80000000 then .error (.unreadable .codeTooLarge)
  else .error (.unreadable .codeTooLargeForWord)

def quotedBreaks : Nat → Scan (List Char)
  | 0 => return []
  | fuel + 1 => do
      if (← get).atDocumentMarker then fail .unfinishedQuote
      let _ ← takeWhile fun c => c == ' ' || c == '\t'
      if isBreak (← peek 0) then
        let first ← lineBreak
        return first ++ (← quotedBreaks fuel)
      else return []

def escaped : Scan (List Char) := do
  let c ← peek 0
  match simpleEscape? c, codeWidth? c with
  | some found, _ =>
      skip 1
      return [found]
  | none, some width =>
      skip 1
      match ((← get).rest.take width).mapM Text.Quoted.hexValue? with
      | some digits =>
          if digits.length < width then fail .badEscape
          skip width
          return [← charOfCode (digits.foldl (fun n d => n * 16 + d) 0)]
      | none => fail .badEscape
  | none, none =>
      if isBreak c then
        let _ ← lineBreak
        quotedBreaks (← fuel)
      else fail .badEscape

def quotedText (double : Bool) : Nat → Scan (List Char)
  | 0 => return []
  | fuel + 1 => do
      let run ← takeWhile fun c => !(c == '\'' || c == '"' || c == '\\' || isBlankOrEnd c)
      let c ← peek 0
      if !double && c == '\'' && (← peek 1) == '\'' then
        skip 2
        return run ++ '\'' :: (← quotedText double fuel)
      else if (double && c == '\'') || (!double && (c == '"' || c == '\\')) then
        skip 1
        return run ++ c :: (← quotedText double fuel)
      else if double && c == '\\' then
        skip 1
        let found ← escaped
        return run ++ found ++ (← quotedText double fuel)
      else return run

/-- Blanks in a quoted scalar: within a line they stay, the end of a line reads as a space, and blank
lines stand for themselves. -/
def quotedBlanks : Scan (List Char) := do
  let blanks ← takeWhile fun c => c == ' ' || c == '\t'
  let c ← peek 0
  if c == '\x00' then fail .unfinishedQuote
  else if isBreak c then
    let first ← lineBreak
    let more ← quotedBreaks (← fuel)
    return (if first != ['\n'] then first else if more.isEmpty then [' '] else []) ++ more
  else return blanks

def quotedPieces (double : Bool) : Nat → Scan (List Char)
  | 0 => return []
  | fuel + 1 => do
      let text ← quotedText double (fuel + 1)
      if (← peek 0) == (if double then '"' else '\'') then return text
      let blanks ← quotedBlanks
      return text ++ blanks ++ (← quotedPieces double fuel)

def quotedScalar (double : Bool) : Scan Token := do
  skip 1
  let text ← quotedPieces double (← fuel)
  skip 1
  return .scalar (String.ofList text) false

/-- Blank lines inside a plain scalar; nothing if a document marker stops them. -/
def plainBreaks : Nat → Scan (Option (List Char))
  | 0 => return some []
  | fuel + 1 => do
      let c ← peek 0
      if c == ' ' then
        skipSpaces
        plainBreaks fuel
      else if isBreak c then
        let first ← lineBreak
        if (← get).atDocumentMarker then return none
        return (← plainBreaks fuel).map (first ++ ·)
      else return some []

def plainBlanks : Scan (List Char × Bool) := do
  let blanks ← takeWhile (· == ' ')
  if isBreak (← peek 0) then
    let first ← lineBreak
    if (← get).atDocumentMarker then return ([], true)
    match ← plainBreaks (← fuel) with
    | none => return ([], true)
    | some more =>
        return ((if first != ['\n'] then first else if more.isEmpty then [' '] else []) ++ more, true)
  else return (blanks, false)

def endsPlain (inFlow : Bool) (c following : Char) : Bool :=
  isBlankOrEnd c ||
    (c == ':' && (isBlankOrEnd following || (inFlow && ",[]\x7b\x7d".toList.contains following))) ||
    (inFlow && ",?[]\x7b\x7d".toList.contains c)

def plainRun (inFlow : Bool) : List Char → List Char
  | [] => []
  | c :: rest =>
      if endsPlain inFlow c (rest.headD '\x00') then [] else c :: plainRun inFlow rest

/-- The pieces of a plain scalar, each after the blanks before it, and whether a line ended behind the
last piece. -/
def plainPieces (inFlow : Bool) (indent : Nat) (blanks : List Char) (broken : Bool) :
    Nat → Scan (List Char × Bool)
  | 0 => return ([], broken)
  | fuel + 1 => do
      if (← peek 0) == '#' then return ([], broken)
      let run := plainRun inFlow (← get).rest
      if run.isEmpty then return ([], broken)
      skip run.length
      let (behind, ended) ← plainBlanks
      if behind.isEmpty || (← peek 0) == '#' || (!inFlow && (← column) < indent) then
        return (blanks ++ run, ended)
      let (more, last) ← plainPieces inFlow indent behind ended fuel
      return (blanks ++ run ++ more, last)

def plainScalar (inFlow : Bool) (parentIndent : Int) : Scan (Token × Bool) := do
  let (text, broken) ← plainPieces inFlow (parentIndent + 1).toNat [] false (← fuel)
  return (.scalar (String.ofList text) true, broken)

end Scan

end TopicBindings.Markup
