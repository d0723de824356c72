namespace RecordSchema

def upsert {α κ : Type} [DecidableEq κ] (key : α → κ) (x : α) : List α → List α
  | [] => [x]
  | y :: ys => if key y = key x then x :: ys else y :: upsert key x ys

theorem upsert_of_fresh {α κ : Type} [DecidableEq κ] {key : α → κ} {x : α} :
    ∀ {ys : List α}, (∀ y ∈ ys, key y ≠ key x) → upsert key x ys = ys ++ [x]
  | [], _ => rfl
  | y :: ys, h => by
    rw [upsert, if_neg (h y List.mem_cons_self), upsert_of_fresh fun z hz => h z (List.mem_cons_of_mem y hz)]
    rfl

theorem mem_upsert {α κ : Type} [DecidableEq κ] {key : α → κ} {x y : α} :
    ∀ {ys : List α}, y ∈ upsert key x ys → y = x ∨ y ∈ ys
  | [], h => .inl (List.mem_singleton.mp h)
  | z :: zs, h => by
    rw [upsert] at h
    split at h
    · exact (List.mem_cons.mp h).imp_right (List.mem_cons_of_mem z)
    · rcases List.mem_cons.mp h with rfl | h
      · exact .inr List.mem_cons_self
      · exact (mem_upsert h).imp_right (List.mem_cons_of_mem z)

end RecordSchema
