namespace RecordSchema.Text

/-- From the distances of one text to every suffix of `target`, those of the text with `c` in front. -/
def extendRow (c : Char) : (target : List Char) → List Nat → List Nat
  | [], below => below.map (· + 1)
  | t :: target, above :: diagonal =>
    let row := extendRow c target diagonal
    let change := diagonal.headD 0 + if c = t then 0 else 1
    min (min (above + 1) (row.headD 0 + 1)) change :: row
  | _ :: _, [] => []

def emptyRow : (target : List Char) → List Nat
  | [] => [0]
  | _ :: target => (target.length + 1) :: emptyRow target

def distanceRow : (source target : List Char) → List Nat
  | [], target => emptyRow target
  | c :: source, target => extendRow c target (distanceRow source target)

def editDistance (source target : List Char) : Nat :=
  (distanceRow source target).headD 0

theorem length_extendRow (c : Char) :
    ∀ (target : List Char) (row : List Nat), row.length = target.length + 1 →
      (extendRow c target row).length = target.length + 1
  | [], row, h => by simpa [extendRow] using h
  | t :: target, [], h => by simp at h
  | t :: target, above :: diagonal, h => by
    simp [extendRow, length_extendRow c target diagonal (by simpa using h)]

theorem length_emptyRow : ∀ target : List Char, (emptyRow target).length = target.length + 1
  | [] => rfl
  | _ :: target => by simp [emptyRow, length_emptyRow target]

theorem length_distanceRow :
    ∀ source target : List Char, (distanceRow source target).length = target.length + 1
  | [], target => length_emptyRow target
  | c :: source, target => length_extendRow c target _ (length_distanceRow source target)

structure Suggestion where
  distance : Nat
  name : String
deriving DecidableEq

def Suggestion.of (target name : String) : Suggestion :=
  ⟨editDistance target.toList name.toList, name⟩

def Suggestion.le (a b : Suggestion) : Bool :=
  a.distance < b.distance || (a.distance == b.distance && !decide (b.name < a.name))

def suggestions (target : String) (candidates : List String) : List String :=
  let near := (candidates.map (Suggestion.of target)).filter (·.distance ≤ 3)
  ((near.mergeSort Suggestion.le).take 3).map Suggestion.name

end RecordSchema.Text
