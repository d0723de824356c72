namespace RecordSchema.Text

def splitOn (separator : Char) : List Char → List (List Char)
  | [] => [[]]
  | c :: cs =>
    if c = separator then [] :: splitOn separator cs
    else match splitOn separator cs with
      | [] => [[c]]
      | word :: words => (c :: word) :: words

def joinWith (separator : List Char) : List (List Char) → List Char
  | [] => []
  | [word] => word
  | word :: words => word ++ separator ++ joinWith separator words

theorem splitOn_ne_nil (separator : Char) : ∀ text, splitOn separator text ≠ []
  | [] => by simp [splitOn]
  | c :: cs => by
    rw [splitOn]
    split
    · simp
    · split <;> simp

theorem joinWith_splitOn (separator : Char) : ∀ text, joinWith [separator] (splitOn separator text) = text
  | [] => rfl
  | c :: cs => by
    have ih := joinWith_splitOn separator cs
    rw [splitOn]
    split
    · next h =>
      subst h
      cases hw : splitOn c cs with
      | nil => exact absurd hw (splitOn_ne_nil c cs)
      | cons word words => rw [hw] at ih; simp [joinWith, ih]
    · split
      · next hw => exact absurd hw (splitOn_ne_nil separator cs)
      · next word words hw =>
        rw [hw] at ih
        cases words <;> simp_all [joinWith]

end RecordSchema.Text
