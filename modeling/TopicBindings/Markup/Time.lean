import TopicBindings.Markup.Fault
import TopicBindings.Text.Fields

/-!
Dates and times in documents: their written form, which days and times exist, and how they are shown.
-/

namespace TopicBindings.Markup

structure Date where
  year : Nat
  month : Nat
  day : Nat
  deriving DecidableEq, Repr

/-- A time on a day, with the minutes that its clock is ahead of the universal one, if that is known. -/
structure Moment where
  date : Date
  hour : Nat
  minute : Nat
  second : Nat
  micro : Nat
  offset : Option Int
  deriving DecidableEq, Repr

namespace Time

/-- What a text says about a time, before it is known whether such a time exists. -/
structure Reading where
  date : Date
  clock : Option (Nat × Nat × Nat)
  fraction : List Char
  zone : Option Int

def numberOf (digits : List Char) : Nat :=
  digits.foldl (fun n c => n * 10 + (c.toNat - 0x30)) 0

def digits? (least most : Nat) (s : List Char) : Option (Nat × List Char) :=
  let run := (s.takeWhile Char.isDigit).take most
  if run.length < least then none else some (numberOf run, s.drop run.length)

def expect? (c : Char) : List Char → Option (List Char)
  | d :: rest => if d = c then some rest else none
  | [] => none

def isBlank (c : Char) : Bool :=
  c == ' ' || c == '\t'

def zone? (s : List Char) : Option (Option Int) :=
  match s.dropWhile isBlank with
  | [] => if s.isEmpty then some none else none
  | ['Z'] => some (some 0)
  | sign :: rest => do
      if sign ≠ '+' ∧ sign ≠ '-' then none
      let (hours, behind) ← digits? 1 2 rest
      let minutes ← match behind with
        | [] => some 0
        | _ => do
            let (minutes, behind) ← digits? 2 2 (← expect? ':' behind)
            if behind.isEmpty then some minutes else none
      let total : Int := hours * 60 + minutes
      return some (if sign = '-' then -total else total)

def clock? (date : Date) (s : List Char) : Option Reading := do
  let (hour, s) ← digits? 1 2 s
  let (minute, s) ← digits? 2 2 (← expect? ':' s)
  let (second, s) ← digits? 2 2 (← expect? ':' s)
  let (fraction, s) := match s with
    | '.' :: rest => (rest.takeWhile Char.isDigit, rest.dropWhile Char.isDigit)
    | _ => ([], s)
  return ⟨date, some (hour, minute, second), fraction, ← zone? s⟩

/-- Reads a date and perhaps a time. Without a time, a plain text needs two digits for month and day. -/
def read? (strict : Bool) (s : List Char) : Option Reading := do
  let s := if s.getLast? = some '\n' then s.dropLast else s
  let (year, s) ← digits? 4 4 s
  let afterYear ← expect? '-' s
  let (month, s) ← digits? 1 2 afterYear
  let afterMonth ← expect? '-' s
  let (day, s) ← digits? 1 2 afterMonth
  let date : Date := ⟨year, month, day⟩
  match s with
  | [] =>
      let padded := afterYear.length = 5 && afterMonth.length = 2
      if strict && !padded then none else some ⟨date, none, [], none⟩
  | c :: rest =>
      if c = 'T' ∨ c = 't' then clock? date rest
      else if isBlank c then clock? date (rest.dropWhile isBlank)
      else none

def isLeapYear (year : Nat) : Bool :=
  year % 4 = 0 && (year % 100 ≠ 0 || year % 400 = 0)

def daysIn (year month : Nat) : Nat :=
  if month = 2 then (if isLeapYear year then 29 else 28)
  else if month = 4 ∨ month = 6 ∨ month = 9 ∨ month = 11 then 30
  else 31

def checkDate (d : Date) : Except ValueFault Unit := do
  if d.year = 0 then throw (.yearOutOfRange d.year)
  if d.month < 1 ∨ d.month > 12 then throw .monthOutOfRange
  if d.day < 1 ∨ d.day > daysIn d.year d.month then throw .dayOutOfRange

/-- Offsets lie less than a day from the universal clock. -/
def checkZone (zone : Option Int) : Except ValueFault Unit := do
  match zone with
  | none => return ()
  | some minutes =>
      if minutes.natAbs ≥ 1440 then
        throw (.offsetOutOfRange (minutes.fdiv 1440) ((minutes.fmod 1440).toNat * 60))

def microOf (fraction : List Char) : Nat :=
  numberOf ((fraction ++ List.replicate 6 '0').take 6)

def momentOf (r : Reading) (hour minute second : Nat) : Except ValueFault Moment := do
  checkZone r.zone
  checkDate r.date
  if hour > 23 then throw .hourOutOfRange
  if minute > 59 then throw .minuteOutOfRange
  if second > 59 then throw .secondOutOfRange
  return ⟨r.date, hour, minute, second, microOf r.fraction, r.zone⟩

def padded (width n : Nat) : String :=
  let digits := Nat.toDigits 10 n
  String.ofList (List.replicate (width - digits.length) '0' ++ digits)

end Time

open Time (padded)

def Date.toText (d : Date) : String :=
  Text.join "-" [padded 4 d.year, padded 2 d.month, padded 2 d.day]

/-- The number of days before a date, counted from the first of January of the year 1. -/
def Date.ordinal (d : Date) : Nat :=
  let y := d.year - 1
  y * 365 + y / 4 - y / 100 + y / 400 +
    (List.range (d.month - 1)).foldl (fun days m => days + Time.daysIn d.year (m + 1)) d.day

namespace Moment

def offsetText (minutes : Int) : String :=
  (if minutes < 0 then "-" else "+") ++ padded 2 (minutes.natAbs / 60) ++ ":" ++
    padded 2 (minutes.natAbs % 60)

/-- Date and time with a space between them; fractions of seconds only if there are any. -/
def toText (m : Moment) : String :=
  m.date.toText ++ " " ++ Text.join ":" [padded 2 m.hour, padded 2 m.minute, padded 2 m.second] ++
    (if m.micro = 0 then "" else "." ++ padded 6 m.micro) ++ ((m.offset.map offsetText).getD "")

/-- Microseconds since the beginning of the year 1, by the clock of the moment. -/
def localMicros (m : Moment) : Int :=
  ((((m.date.ordinal * 24 + m.hour) * 60 + m.minute) * 60 + m.second) * 1000000 + m.micro : Nat)

/-- Two moments are the same if both are known to be at one instant, or both clocks are unknown and show
the same. -/
def same (a b : Moment) : Bool :=
  match a.offset, b.offset with
  | some x, some y => a.localMicros - x * 60000000 == b.localMicros - y * 60000000
  | none, none => a.localMicros == b.localMicros
  | _, _ => false

end Moment

end TopicBindings.Markup
