import TopicBindings.Text.Shown

/-!
What can be wrong with a document in the markup. A document is malformed when it breaks the rules of the
markup; a scalar is unreadable when it is meant as a character, a number or a time but no such value exists.
-/

namespace TopicBindings.Markup

inductive Malformation where
  | unprintableCharacter
  | unexpectedCharacter
  | unfinishedKey
  | misplacedEntry
  | misplacedKey
  | misplacedValue
  | badDirective
  | badAnchor
  | badTag
  | badBlockHeader
  | badEscape
  | unfinishedQuote
  | missingContent
  | unfinishedCollection
  | missingDocumentStart
  | severalDocuments
  | unknownHandle
  | repeatedAnchor
  | unknownAlias
  | unknownTag
  | wrongVariety
  | badMerge
  | badKey
  | badBinary
  | badPairs
  | endless
  deriving DecidableEq, Repr

inductive ValueFault where
  | yearOutOfRange (year : Nat)
  | monthOutOfRange
  | dayOutOfRange
  | hourOutOfRange
  | minuteOutOfRange
  | secondOutOfRange
  | offsetOutOfRange (days : Int) (seconds : Nat)
  | noInteger (base : Nat) (text : String)
  | noFloat (text : String)
  | noBoolean (text : String)
  | noTimestamp
  | timestampOfMapping
  | emptyNumber
  | placeTooHigh
  | endlessText
  | endlessType
  | codeTooLarge
  | codeTooLargeForWord
  deriving DecidableEq, Repr

/-- A text as it is shown in messages about integers, where long ones are cut. -/
def shownNumeral (text : String) : String :=
  String.ofList ((Text.shown text).toList.take 200)

def ValueFault.message : ValueFault → String
  | .yearOutOfRange year => "year " ++ toString year ++ " is out of range"
  | .monthOutOfRange => "month must be in 1..12"
  | .dayOutOfRange => "day is out of range for month"
  | .hourOutOfRange => "hour must be in 0..23"
  | .minuteOutOfRange => "minute must be in 0..59"
  | .secondOutOfRange => "second must be in 0..59"
  | .offsetOutOfRange days seconds =>
      "offset must be a timedelta strictly between -timedelta(hours=24) and timedelta(hours=24), not " ++
        "datetime.timedelta(days=" ++ toString days ++
        (if seconds = 0 then "" else ", seconds=" ++ toString seconds) ++ ")."
  | .noInteger base text =>
      "invalid literal for int() with base " ++ toString base ++ ": " ++ shownNumeral text
  | .noFloat text => "could not convert string to float: " ++ Text.shown text
  | .noBoolean text => Text.shown text
  | .noTimestamp => "not a date or time"
  | .timestampOfMapping => "a mapping is not a date or time"
  | .emptyNumber => "string index out of range"
  | .placeTooHigh => "place value too large"
  | .endlessText => "the default value of a mapping is the mapping itself"
  | .endlessType => "a type is described by itself"
  | .codeTooLarge => "character code not in range(0x110000)"
  | .codeTooLargeForWord => "character code too large"

inductive Fault where
  | malformed (rule : Malformation)
  | unreadable (fault : ValueFault)
  deriving DecidableEq, Repr

end TopicBindings.Markup
