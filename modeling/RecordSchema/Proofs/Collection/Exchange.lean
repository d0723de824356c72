import Mathlib.Data.List.Basic

namespace RecordSchema

variable {σ τ α β : Type}

def exchange (step : σ → α → β × σ) : σ → List α → List (α × β) × σ
  | s, [] => ([], s)
  | s, a :: rest =>
    let (b, s) := step s a
    let (others, s) := exchange step s rest
    ((a, b) :: others, s)

lemma exchange_cons (step : σ → α → β × σ) (s : σ) (a : α) (as : List α) : exchange step s (a :: as) =
    ((a, (step s a).1) :: (exchange step (step s a).2 as).1, (exchange step (step s a).2 as).2) :=
  rfl

lemma exchange_append (step : σ → α → β × σ) (s : σ) (as bs : List α) : exchange step s (as ++ bs) =
    ((exchange step s as).1 ++ (exchange step (exchange step s as).2 bs).1,
      (exchange step (exchange step s as).2 bs).2) := by
  induction as generalizing s with
  | nil => rfl
  | cons a as ih =>
    rw [List.cons_append, exchange_cons, exchange_cons, ih, List.cons_append]

lemma exchange_concat (step : σ → α → β × σ) (s : σ) (as : List α) (a : α) : exchange step s (as ++ [a]) =
    ((exchange step s as).1 ++ [(a, (step (exchange step s as).2 a).1)], (step (exchange step s as).2 a).2) := by
  rw [exchange_append]
  rfl

lemma exchange_alike {step : σ → α → β × σ} {step' : τ → α → β × τ} {R : σ → τ → Prop}
    (h : ∀ s t a, R s t → (step s a).1 = (step' t a).1 ∧ R (step s a).2 (step' t a).2) {s : σ} {t : τ} (hr : R s t)
    (as : List α) : (exchange step s as).1 = (exchange step' t as).1 ∧ R (exchange step s as).2 (exchange step' t as).2 := by
  induction as generalizing s t with
  | nil => exact ⟨rfl, hr⟩
  | cons a as ih =>
    obtain ⟨hanswer, hnext⟩ := h s t a hr
    obtain ⟨hanswers, hlast⟩ := ih hnext
    rw [exchange_cons, exchange_cons, hanswer, hanswers]
    exact ⟨rfl, hlast⟩

end RecordSchema
