import TopicBindings.Character.Upper
import TopicBindings.Character.Digit
import TopicBindings.Character.Letter

/-!
The words of an identifier. A word ends where a small letter is followed by a capital or a digit and
where a digit is followed by a letter; characters that are neither letters nor digits separate words
and belong to none.
-/

namespace TopicBindings.Naming

/-- What a character means for the division into words. Letters without case count as small. -/
inductive Class where
  | upper
  | lower
  | digit
  | other
  deriving DecidableEq, Repr

def Class.of (c : Char) : Class :=
  if Character.isUpper c then .upper
  else if Character.isDigit c then .digit
  else if Character.isLetter c then .lower
  else .other

/-- Whether a word ends between two adjacent characters of these classes. -/
def Class.divides : Class → Class → Bool
  | .lower, .upper | .lower, .digit | .digit, .upper | .digit, .lower => true
  | _, _ => false

def consWord (word : List Char) (more : List (List Char)) : List (List Char) :=
  if word.isEmpty then more else word :: more

/-- After a character of class `last`: the rest of its word, and the words that follow. -/
def segment (last : Class) : List Char → List Char × List (List Char)
  | [] => ([], [])
  | c :: rest =>
      let found := segment (Class.of c) rest
      if Class.of c = .other then ([], consWord found.1 found.2)
      else if last.divides (Class.of c) then ([], (c :: found.1) :: found.2)
      else (c :: found.1, found.2)

def words (s : List Char) : List (List Char) :=
  let found := segment .upper s
  consWord found.1 found.2

theorem consWord_ne_nil {word : List Char} {more : List (List Char)}
    (h : ∀ w ∈ more, w ≠ []) : ∀ w ∈ consWord word more, w ≠ [] := by
  unfold consWord
  split
  · exact h
  next hw =>
    intro w hmem
    rcases List.mem_cons.1 hmem with rfl | hmem
    · simpa using hw
    · exact h w hmem

theorem segment_ne_nil (s : List Char) :
    ∀ (last : Class), ∀ w ∈ (segment last s).2, w ≠ [] := by
  induction s with
  | nil => intro last w hw; simp [segment] at hw
  | cons c rest ih =>
      intro last
      simp only [segment]
      split
      · exact consWord_ne_nil (ih _)
      · split
        · intro w hw
          rcases List.mem_cons.1 hw with rfl | hw
          · simp
          · exact ih _ w hw
        · exact ih _

theorem words_ne_nil (s : List Char) : ∀ w ∈ words s, w ≠ [] :=
  consWord_ne_nil (segment_ne_nil s .upper)

end TopicBindings.Naming
