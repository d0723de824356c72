namespace RecordSchema

def insertSorted (x : String) : List String → List String
  | [] => [x]
  | y :: ys => if x < y then x :: y :: ys else if x = y then y :: ys else y :: insertSorted x ys

theorem mem_insertSorted {x z : String} : ∀ {ys : List String}, z ∈ insertSorted x ys ↔ z = x ∨ z ∈ ys
  | [] => by simp [insertSorted]
  | y :: ys => by
    rw [insertSorted]
    split
    · simp
    · split
      · next h => subst h; simp
      · simp only [List.mem_cons, @mem_insertSorted x z ys]
        exact or_left_comm

theorem insertSorted_pairwise (x : String) :
    ∀ {ys : List String}, ys.Pairwise (· < ·) → (insertSorted x ys).Pairwise (· < ·)
  | [], _ => by simp [insertSorted]
  | y :: ys, h => by
    rw [List.pairwise_cons] at h
    rw [insertSorted]
    split
    · next hxy =>
      refine List.pairwise_cons.mpr ⟨fun z hz => ?_, List.pairwise_cons.mpr h⟩
      rcases List.mem_cons.mp hz with rfl | hz
      · exact hxy
      · exact String.lt_trans hxy (h.1 z hz)
    · next hxy =>
      split
      · exact List.pairwise_cons.mpr h
      · next hne =>
        refine List.pairwise_cons.mpr ⟨fun z hz => ?_, insertSorted_pairwise x h.2⟩
        rcases mem_insertSorted.mp hz with rfl | hz
        · exact Std.lt_of_le_of_ne (String.not_lt.mp hxy) (Ne.symm hne)
        · exact h.1 z hz

structure Encodings where
  names : List String
  sorted : names.Pairwise (· < ·)
deriving DecidableEq, Repr

namespace Encodings

def empty : Encodings := ⟨[], List.Pairwise.nil⟩

def insert (e : Encodings) (name : String) : Encodings :=
  ⟨insertSorted name e.names, insertSorted_pairwise name e.sorted⟩

def ofList (names : List String) : Encodings :=
  names.foldl insert empty

def contains (e : Encodings) (name : String) : Bool :=
  e.names.contains name

def render (e : Encodings) : String :=
  ", ".intercalate e.names

end Encodings

end RecordSchema
