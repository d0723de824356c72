import RecordSchema.Proofs.Outcome

namespace RecordSchema

variable {ε δ α β γ κ : Type}

inductive Mirrors (E : ε → δ) (g : α → β) : Except ε α → Except δ β → Prop
  | ok (a : α) : Mirrors E g (.ok a) (.ok (g a))
  | error (e : ε) : Mirrors E g (.error e) (.error (E e))

namespace Mirrors

variable {E : ε → δ} {g : α → β} {h : γ → κ}

lemma bind {x : Except ε α} {y : Except δ β} {k : α → Except ε γ} {k' : β → Except δ κ} (hx : Mirrors E g x y)
    (hk : ∀ a, Mirrors E h (k a) (k' (g a))) : Mirrors E h (x >>= k) (y >>= k') := by
  cases hx with
  | ok a => exact hk a
  | error e => exact .error e

lemma mapM {f : γ → Except ε α} {f' : κ → Except δ β} :
    ∀ {items : List γ}, (∀ x ∈ items, Mirrors E g (f x) (f' (h x))) → Mirrors E (List.map g) (items.mapM f) ((items.map h).mapM f')
  | [], _ => by
    rw [List.mapM_nil]
    exact .ok []
  | x :: rest, hf => by
    rw [List.mapM_cons, List.map_cons, List.mapM_cons]
    refine (hf x List.mem_cons_self).bind fun a => ?_
    refine (mapM fun y hy => hf y (List.mem_cons_of_mem x hy)).bind fun as => ?_
    exact .ok (a :: as)

lemma mapError {ι : Type} {F : ι → ε} {F' : ι → δ} (hF : ∀ i, F' i = E (F i)) (x : Except ι α) :
    Mirrors E id (x.mapError F) (x.mapError F') := by
  cases x with
  | ok a => exact .ok a
  | error i =>
    have herror : Mirrors E id (.error (F i) : Except ε α) (.error (E (F i))) := .error (F i)
    rwa [← hF] at herror

variable {x x' : Except ε α} {y : Except δ β}

lemma eq_ok {a : α} (h : Mirrors E g x y) (hx : x = .ok a) : y = .ok (g a) := by
  cases h <;> cases hx
  rfl

lemma eq_error {e : ε} (h : Mirrors E g x y) (hx : x = .error e) : y = .error (E e) := by
  cases h <;> cases hx
  rfl

lemma same (h : Mirrors E g x y) (h' : Mirrors E g x' y) :
    (∃ a a', x = .ok a ∧ x' = .ok a' ∧ g a = g a') ∨ ∃ e e', x = .error e ∧ x' = .error e' ∧ E e = E e' := by
  cases hx : x with
  | ok a =>
    have hy := h.eq_ok hx
    cases hx' : x' with
    | ok a' => exact .inl ⟨a, a', rfl, rfl, Except.ok.inj (hy.symm.trans (h'.eq_ok hx'))⟩
    | error e' => cases hy.symm.trans (h'.eq_error hx')
  | error e =>
    have hy := h.eq_error hx
    cases hx' : x' with
    | ok a' => cases hy.symm.trans (h'.eq_ok hx')
    | error e' => exact .inr ⟨e, e', rfl, rfl, Except.error.inj (hy.symm.trans (h'.eq_error hx'))⟩

end Mirrors

namespace Attempt

inductive Mirrors (E : ε → δ) (g : α → β) : Attempt ε α → Attempt δ β → Prop
  | ok (a : α) : Mirrors E g (.ok a) (.ok (g a))
  | error (e : ε) : Mirrors E g (.error (.error e)) (.error (.error (E e)))
  | fault (fault : Fault) (y : Attempt δ β) : Mirrors E g (.error (.fault fault)) y

namespace Mirrors

variable {E : ε → δ} {g : α → β} {h : γ → κ}

lemma bind {x : Attempt ε α} {y : Attempt δ β} {k : α → Attempt ε γ} {k' : β → Attempt δ κ} (hx : Mirrors E g x y)
    (hk : ∀ a, Mirrors E h (k a) (k' (g a))) : Mirrors E h (x >>= k) (y >>= k') := by
  cases hx with
  | ok a => exact hk a
  | error e => exact .error e
  | fault fault => exact .fault fault _

lemma mapM {f : γ → Attempt ε α} {f' : κ → Attempt δ β} : ∀ {items : List γ}, (∀ x, Mirrors E g (f x) (f' (h x))) →
    Mirrors E (List.map g) (items.mapM f) ((items.map h).mapM f')
  | [], _ => by
    rw [List.mapM_nil]
    exact .ok []
  | x :: rest, hf => by
    rw [List.mapM_cons, List.map_cons, List.mapM_cons]
    exact (hf x).bind fun a => (mapM hf).bind fun as => .ok (a :: as)

lemma ofError {x : Except ε α} {y : Except δ β} (hx : RecordSchema.Mirrors E g x y) :
    Mirrors E g (Attempt.ofError x) (Attempt.ofError y) := by
  cases hx with
  | ok a => exact .ok a
  | error e => exact .error e

lemma ofFault {x : Except Fault α} {y : Except Fault β} (hx : ∀ a, x = .ok a → y = .ok (g a)) :
    Mirrors E g (Attempt.ofFault x) (Attempt.ofFault y) := by
  cases x with
  | ok a =>
    rw [hx a rfl]
    exact .ok a
  | error fault => exact .fault fault _

variable {x x' : Attempt ε α} {y : Attempt δ β}

lemma eq_ok {a : α} (h : Mirrors E g x y) (hx : x = .ok a) : y = .ok (g a) := by
  cases h <;> cases hx
  rfl

lemma eq_error {e : ε} (h : Mirrors E g x y) (hx : x = .error (.error e)) : y = .error (.error (E e)) := by
  cases h <;> cases hx
  rfl

lemma same {P P' : α → Prop} (h : Mirrors E g x y) (h' : Mirrors E g x' y) (hx : x.Safe P) (hx' : x'.Safe P') :
    (∃ a a', x = .ok a ∧ x' = .ok a' ∧ g a = g a') ∨
      ∃ e e', x = .error (.error e) ∧ x' = .error (.error e') ∧ E e = E e' := by
  rcases hx.eq_ok_or_error with ⟨a, hx, _⟩ | ⟨e, hx⟩ <;> rcases hx'.eq_ok_or_error with ⟨a', hx', _⟩ | ⟨e', hx'⟩
  · exact .inl ⟨a, a', hx, hx', Except.ok.inj ((h.eq_ok hx).symm.trans (h'.eq_ok hx'))⟩
  · cases (h.eq_ok hx).symm.trans (h'.eq_error hx')
  · cases (h.eq_error hx).symm.trans (h'.eq_ok hx')
  · exact .inr ⟨e, e', hx, hx', Failure.error.inj (Except.error.inj ((h.eq_error hx).symm.trans (h'.eq_error hx')))⟩

end Mirrors

end Attempt

end RecordSchema
