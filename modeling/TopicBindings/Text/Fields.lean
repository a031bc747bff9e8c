/-!
Texts as sequences of fields between separators. `fields` cuts a text at every separator and
`joinFields` puts the fields together again; the two are inverse to each other on fields that hold
no separator.
-/

namespace TopicBindings.Text

/-- Cuts a text at every `sep`. A text without separator is a single field. -/
def fields (sep : Char) : List Char → List (List Char)
  | [] => [[]]
  | c :: rest =>
      if c = sep then [] :: fields sep rest
      else match fields sep rest with
        | [] => [[c]]
        | field :: more => (c :: field) :: more

def joinFields (sep : Char) (parts : List (List Char)) : List Char :=
  List.intercalate [sep] parts

theorem fields_ne_nil (sep : Char) (s : List Char) : fields sep s ≠ [] := by
  cases s with
  | nil => simp [fields]
  | cons c rest =>
      simp only [fields]
      split
      · simp
      · split <;> simp

theorem joinFields_cons_cons (sep : Char) (x y : List Char) (rest : List (List Char)) :
    joinFields sep (x :: y :: rest) = x ++ sep :: joinFields sep (y :: rest) := by
  simp [joinFields, List.intercalate, List.intersperse]

theorem joinFields_fields (sep : Char) (s : List Char) : joinFields sep (fields sep s) = s := by
  induction s with
  | nil => rfl
  | cons c rest ih =>
      simp only [fields]
      split
      next h =>
        subst h
        match hf : fields c rest, fields_ne_nil c rest with
        | y :: more, _ => rw [joinFields_cons_cons, ← hf, ih]; rfl
      next h =>
        match hf : fields sep rest, fields_ne_nil sep rest with
        | [y], _ =>
            rw [hf] at ih
            simp [joinFields, List.intercalate, List.intersperse] at ih ⊢
            exact ih
        | y :: z :: more, _ =>
            rw [hf] at ih
            simp only [joinFields_cons_cons] at ih ⊢
            simp [← ih]

def splitAt (sep : Char) (s : String) : List String :=
  (fields sep s.toList).map String.ofList

def join (sep : String) (parts : List String) : String :=
  String.ofList (List.intercalate sep.toList (parts.map String.toList))

end TopicBindings.Text
