/-!
Sets of characters as tables of runs. A table lists runs of code points in ascending order; a run may
skip every other code point, because capitals and small letters alternate in many alphabets.
-/

namespace TopicBindings.Character

/-- The code points `first`, `first + step`, …, up to `last`. -/
structure Run where
  first : Nat
  last : Nat
  step : Nat
  deriving DecidableEq, Repr

namespace Run

def mem (r : Run) (n : Nat) : Bool :=
  r.first ≤ n && n ≤ r.last && (n - r.first) % r.step == 0

def find? : List Run → Nat → Option Run
  | [], _ => none
  | r :: rest, n =>
      if n < r.first then none
      else if r.mem n then some r
      else find? rest n

def contains (table : List Run) (n : Nat) : Bool :=
  (find? table n).isSome

theorem mem_of_find? {n : Nat} {r : Run} :
    ∀ {table : List Run}, find? table n = some r → r ∈ table ∧ r.mem n = true := by
  intro table
  induction table with
  | nil => intro h; simp [find?] at h
  | cons s rest ih =>
      intro h
      simp only [find?] at h
      split at h
      · simp at h
      · split at h
        next hs => simp at h; subst h; exact ⟨List.mem_cons_self .., hs⟩
        next => exact ⟨List.mem_cons_of_mem _ (ih h).1, (ih h).2⟩

end Run

end TopicBindings.Character
