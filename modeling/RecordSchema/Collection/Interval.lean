namespace RecordSchema

@[ext] structure Interval where
  lower : Nat
  upper : Nat
  lower_le_upper : lower ≤ upper
deriving DecidableEq, Repr

namespace Interval

def contains (i : Interval) (n : Nat) : Bool :=
  i.lower ≤ n && n ≤ i.upper

def width (i : Interval) : Nat :=
  i.upper - i.lower + 1

def overlaps (i j : Interval) : Bool :=
  i.lower ≤ j.upper && j.lower ≤ i.upper

def render (i : Interval) : String :=
  "[" ++ toString i.lower ++ ", " ++ toString i.upper ++ "]"

theorem contains_iff {i : Interval} {n : Nat} : i.contains n = true ↔ i.lower ≤ n ∧ n ≤ i.upper := by
  simp [contains]

theorem overlaps_iff {i j : Interval} :
    i.overlaps j = true ↔ ∃ n, i.contains n = true ∧ j.contains n = true := by
  have hi := i.lower_le_upper
  have hj := j.lower_le_upper
  simp only [overlaps, contains, Bool.and_eq_true, decide_eq_true_eq]
  constructor
  · intro h
    exact ⟨max i.lower j.lower, by omega⟩
  · rintro ⟨n, h⟩
    omega

end Interval

end RecordSchema
