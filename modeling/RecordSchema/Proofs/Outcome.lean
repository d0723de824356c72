import RecordSchema.Compile.Store
import Mathlib.Tactic.Common

namespace RecordSchema

lemma ok_bind {ε α β : Type} {x : Except ε α} {a : α} {f : α → Except ε β} (h : x = .ok a) : (x >>= f) = f a := by
  rw [h]
  rfl

lemma exists_of_bind_eq_ok {ε α β : Type} {x : Except ε α} {f : α → Except ε β} {b : β}
    (h : x >>= f = .ok b) : ∃ a, x = .ok a ∧ f a = .ok b := by
  cases x with
  | ok a => exact ⟨a, rfl, h⟩
  | error e => cases h

/-- The source may be to blame, but no promise is broken, and a result has the property `P`. -/
inductive Attempt.Safe {ε α : Type} (P : α → Prop) : Attempt ε α → Prop
  | ok {a : α} (h : P a) : Safe P (.ok a)
  | error (e : ε) : Safe P (.error (.error e))

namespace Attempt.Safe

variable {ε α β : Type} {P : α → Prop} {Q : β → Prop}

lemma mono {R : α → Prop} {x : Attempt ε α} (h : Safe P x) (hr : ∀ a, P a → R a) : Safe R x := by
  cases h with
  | ok h => exact .ok (hr _ h)
  | error e => exact .error e

lemma bind {x : Attempt ε α} {f : α → Attempt ε β} (h : Safe P x) (hf : ∀ a, P a → Safe Q (f a)) :
    Safe Q (x >>= f) := by
  cases h with
  | ok h => exact hf _ h
  | error e => exact .error e

lemma of_eq_ok {x : Attempt ε α} {a : α} (h : Safe P x) (hx : x = .ok a) : P a := by
  cases h with
  | ok h => cases hx; exact h
  | error e => cases hx

lemma eq_ok_or_error {x : Attempt ε α} (h : Safe P x) :
    (∃ a, x = .ok a ∧ P a) ∨ ∃ e, x = .error (.error e) := by
  cases h with
  | ok h => exact .inl ⟨_, rfl, h⟩
  | error e => exact .inr ⟨e, rfl⟩

lemma ofError {x : Except ε α} (h : ∀ a, x = .ok a → P a) : Safe P (Attempt.ofError x) := by
  cases x with
  | ok a => exact .ok (h a rfl)
  | error e => exact .error e

lemma ofFault {x : Except Fault α} {a : α} (hx : x = .ok a) (h : P a) :
    Safe P (Attempt.ofFault (ε := ε) x) := by
  rw [hx]
  exact .ok h

lemma mapM {γ : Type} {f : γ → Attempt ε α} :
    ∀ {items : List γ}, (∀ x ∈ items, Safe P (f x)) → Safe (fun as => ∀ a ∈ as, P a) (items.mapM f)
  | [], _ => by
    rw [List.mapM_nil]
    exact .ok (by simp)
  | x :: rest, h => by
    rw [List.mapM_cons]
    refine (h x List.mem_cons_self).bind fun a ha => ?_
    refine (mapM fun y hy => h y (List.mem_cons_of_mem x hy)).bind fun as has => ?_
    exact .ok (List.forall_mem_cons.mpr ⟨ha, has⟩)

end Attempt.Safe

def Attempt.Blames {ε α : Type} (R : ε → Prop) (x : Attempt ε α) : Prop :=
  ∀ e, x = .error (.error e) → R e

namespace Attempt.Blames

variable {ε α β : Type} {R : ε → Prop}

lemma ok (a : α) : Blames R (.ok a) := by
  rintro e ⟨⟩

lemma error {e : ε} (h : R e) : Blames R (.error (.error e) : Attempt ε α) := by
  rintro _ ⟨⟩
  exact h

lemma bind {x : Attempt ε α} {f : α → Attempt ε β} (h : Blames R x) (hf : ∀ a, Blames R (f a)) :
    Blames R (x >>= f) := by
  cases x with
  | ok a => exact hf a
  | error failure =>
    rintro e ⟨⟩
    exact h e rfl

lemma ofFault (x : Except Fault α) : Blames R (Attempt.ofFault x) := by
  cases x <;> rintro e ⟨⟩

lemma ofError {x : Except ε α} (h : ∀ e, x = .error e → R e) : Blames R (Attempt.ofError x) := by
  cases x <;> rintro e ⟨⟩
  exact h _ rfl

lemma mapM {γ : Type} {f : γ → Attempt ε α} (h : ∀ x, Blames R (f x)) :
    ∀ items : List γ, Blames R (items.mapM f)
  | [] => ok []
  | x :: rest => by
    rw [List.mapM_cons]
    exact (h x).bind fun _ => (mapM h rest).bind fun _ => ok _

end Attempt.Blames

structure Attempt.Yields {ε α : Type} (R : ε → Prop) (Q : α → Prop) (x : Attempt ε α) : Prop where
  blames : x.Blames R
  result : ∀ a, x = .ok a → Q a

namespace Attempt.Yields

variable {ε α β : Type} {R : ε → Prop} {P : α → Prop} {Q : β → Prop}

lemma ok {a : α} (h : P a) : Yields R P (.ok a) := by
  refine ⟨.ok a, ?_⟩
  rintro _ ⟨⟩
  exact h

lemma error {e : ε} (h : R e) : Yields R P (.error (.error e)) :=
  ⟨.error h, nofun⟩

lemma of_blames {x : Attempt ε α} (h : x.Blames R) : Yields R (fun _ => True) x :=
  ⟨h, fun _ _ => trivial⟩

lemma bind {x : Attempt ε α} {f : α → Attempt ε β} (h : Yields R P x) (hf : ∀ a, P a → Yields R Q (f a)) :
    Yields R Q (x >>= f) := by
  cases x with
  | ok a => exact hf a (h.result a rfl)
  | error failure =>
    refine ⟨?_, nofun⟩
    rintro e ⟨⟩
    exact h.blames e rfl

lemma mapM {γ : Type} {f : γ → Attempt ε α} :
    ∀ {items : List γ}, (∀ x ∈ items, Yields R P (f x)) → Yields R (fun as => ∀ a ∈ as, P a) (items.mapM f)
  | [], _ => by
    rw [List.mapM_nil]
    exact ok nofun
  | x :: rest, h => by
    rw [List.mapM_cons]
    apply (h x List.mem_cons_self).bind
    intro a ha
    apply (mapM fun y hy => h y (List.mem_cons_of_mem x hy)).bind
    intro as has
    exact ok (List.forall_mem_cons.mpr ⟨ha, has⟩)

end Attempt.Yields

namespace Run

variable {α β : Type}

def Ends (x : Run α) (s : Store) (Q : α → Store → Prop) : Prop :=
  ∃ a s', x.run s = .ok a s' ∧ Q a s'

namespace Ends

variable {s : Store} {Q : α → Store → Prop}

lemma of_run {x : Run α} {a : α} {s' : Store} (hx : x.run s = .ok a s') (h : Q a s') : x.Ends s Q :=
  ⟨a, s', hx, h⟩

lemma of_run_eq {x y : Run α} {t : Store} (hx : x.run s = y.run t) (h : y.Ends t Q) : x.Ends s Q := by
  obtain ⟨a, s', hy, hq⟩ := h
  exact ⟨a, s', hx.trans hy, hq⟩

lemma elim {x : Run α} {a : α} {s' : Store} (h : x.Ends s Q) (hx : x.run s = .ok a s') : Q a s' := by
  obtain ⟨b, t, ht, hq⟩ := h
  rw [ht] at hx
  cases hx
  exact hq

lemma and {R : α → Store → Prop} {x : Run α} (h : x.Ends s Q) (h' : x.Ends s R) :
    x.Ends s fun a s' => Q a s' ∧ R a s' := by
  obtain ⟨a, s', hx, hq⟩ := h
  exact ⟨a, s', hx, hq, h'.elim hx⟩

lemma mono {R : α → Store → Prop} {x : Run α} (h : x.Ends s Q) (hr : ∀ a s', Q a s' → R a s') :
    x.Ends s R := by
  obtain ⟨a, s', hx, hq⟩ := h
  exact ⟨a, s', hx, hr a s' hq⟩

lemma bind {R : β → Store → Prop} {x : Run α} {f : α → Run β} (h : x.Ends s Q)
    (hf : ∀ a s', Q a s' → (f a).Ends s' R) : (x >>= f).Ends s R := by
  obtain ⟨a, s', hx, hq⟩ := h
  obtain ⟨b, t, ht, hr⟩ := hf a s' hq
  refine ⟨b, t, ?_, hr⟩
  rw [EStateM.run_bind, hx]
  exact ht

lemma pure {a : α} (h : Q a s) : (Pure.pure a : Run α).Ends s Q :=
  ⟨a, s, rfl, h⟩

end Ends

lemma run_bind_eq_ok {x : Run α} {f : α → Run β} {s t : Store} {b : β} (h : (x >>= f).run s = .ok b t) :
    ∃ a s', x.run s = .ok a s' ∧ (f a).run s' = .ok b t := by
  rw [EStateM.run_bind] at h
  cases hx : x.run s with
  | ok a s' =>
    rw [hx] at h
    exact ⟨a, s', rfl, h⟩
  | error e s' =>
    rw [hx] at h
    cases h

@[simp] lemma run_ofExcept_ok (a : α) (s : Store) : (ofExcept (.ok a)).run s = .ok a s := rfl

@[simp] lemma run_ofExcept_error (fault : Fault) (s : Store) :
    (ofExcept (.error fault) : Run α).run s = .error fault s := rfl

@[simp] lemma run_attempt_ok {ε : Type} (a : α) (s : Store) :
    (attempt (.ok a : Attempt ε α)).run s = .ok (.ok a) s := rfl

@[simp] lemma run_attempt_error {ε : Type} (e : ε) (s : Store) :
    (attempt (.error (.error e) : Attempt ε α)).run s = .ok (.error e) s := rfl

lemma ofExcept_eq_ok {x : Except Fault α} {s t : Store} {a : α} (h : (ofExcept x).run s = .ok a t) :
    x = .ok a ∧ t = s := by
  cases x with
  | ok b =>
    cases h
    exact ⟨rfl, rfl⟩
  | error fault => cases h

lemma attempt_bind_eq_ok {ε : Type} {x : Attempt ε α} {f : Except ε α → Run β} {s t : Store} {b : β}
    (h : (attempt x >>= f).run s = .ok b t) :
    (∃ a, x = .ok a ∧ (f (.ok a)).run s = .ok b t) ∨
      ∃ e, x = .error (.error e) ∧ (f (.error e)).run s = .ok b t := by
  rcases x with (e | fault) | a
  · exact .inr ⟨e, rfl, h⟩
  · cases h
  · exact .inl ⟨a, rfl, h⟩

def result? (x : Run α) (s : Store) : Option (α × Store) :=
  match x.run s with
  | .ok a s' => some (a, s')
  | .error .. => none

lemma run_of_result? {x : Run α} {s : Store} {out : α × Store} (h : x.result? s = some out) :
    x.run s = .ok out.1 out.2 := by
  rw [result?] at h
  cases hx : x.run s with
  | ok a s' =>
    rw [hx] at h
    cases h
    rfl
  | error fault s' =>
    rw [hx] at h
    cases h

end Run

end RecordSchema
