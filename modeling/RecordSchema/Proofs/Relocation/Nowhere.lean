import RecordSchema.Proofs.Expr.Alike
import RecordSchema.Proofs.Relocation.Effect

namespace RecordSchema

namespace Relocation

def nowhere : Relocation :=
  ⟨fun _ => default, id, Function.injective_id⟩

end Relocation

namespace Declaration

variable {d d' : Declaration}

lemma identifier_eq_of_nowhere (h : d'.relocate .nowhere = d.relocate .nowhere) : d'.identifier = d.identifier :=
  (Declaration.mk.inj h).1

lemma name_eq_of_nowhere (h : d'.relocate .nowhere = d.relocate .nowhere) : d'.name = d.name :=
  (Declaration.mk.inj h).2.2.1

end Declaration

namespace Expr

mutual

lemma relocate_nowhere : ∀ e : Expr, e.relocate .nowhere = e.withPositions default
  | atom .. => rfl
  | quoted .. => rfl
  | list bracket items p => by rw [relocate, withPositions, relocateEach_nowhere items]; rfl

lemma relocateEach_nowhere : ∀ es : List Expr, relocateEach .nowhere es = withPositionsEach default es
  | [] => rfl
  | e :: es => by rw [relocateEach, withPositionsEach, relocate_nowhere e, relocateEach_nowhere es]

end

mutual

lemma withPositions_relocate (r : Relocation) (p : Position) : ∀ e : Expr,
    (e.relocate r).withPositions p = e.withPositions p
  | atom .. => rfl
  | quoted .. => rfl
  | list bracket items q => by rw [relocate, withPositions, withPositions, withPositionsEach_relocate r p items]

lemma withPositionsEach_relocate (r : Relocation) (p : Position) : ∀ es : List Expr,
    withPositionsEach p (relocateEach r es) = withPositionsEach p es
  | [] => rfl
  | e :: es => by
    rw [relocateEach, withPositionsEach, withPositionsEach, withPositions_relocate r p e,
      withPositionsEach_relocate r p es]

end

lemma Alike.symm {e e' : Expr} (h : e.Alike e') : e'.Alike e :=
  Eq.symm h

lemma relocate_alike (r : Relocation) (e : Expr) : (e.relocate r).Alike e :=
  withPositions_relocate r default e

lemma alike_iff_relocate {e e' : Expr} : e.Alike e' ↔ e.relocate .nowhere = e'.relocate .nowhere := by
  rw [Alike, relocate_nowhere, relocate_nowhere]

lemma Alike.toStatement {e e' : Expr} {statement : Statement} (h : e.Alike e') (hs : e.toStatement = .ok statement) :
    ∃ statement', e'.toStatement = .ok statement' ∧ statement'.relocate .nowhere = statement.relocate .nowhere := by
  have hmirrors := e.toStatement_mirrors .nowhere
  have hmirrors' := e'.toStatement_mirrors .nowhere
  rw [hs, alike_iff_relocate.mp h] at hmirrors
  generalize hx : (e'.relocate .nowhere).toStatement = x at hmirrors hmirrors'
  cases hmirrors
  cases hx' : e'.toStatement with
  | error error =>
    rw [hx'] at hmirrors'
    cases hmirrors'
  | ok statement' =>
    rw [hx'] at hmirrors'
    refine ⟨statement', rfl, ?_⟩
    generalize heq : statement.relocate .nowhere = moved at hmirrors'
    cases hmirrors'
    rfl

lemma Alike.define {e e' : Expr} {d : Definition Mention} (h : e.Alike e') (hd : e.toStatement = .ok (.define d)) :
    ∃ d', e'.toStatement = .ok (.define d') ∧ d'.name = d.name := by
  obtain ⟨statement, hs, halike⟩ := h.toStatement hd
  cases statement with
  | define d' => exact ⟨d', hs, (Definition.mk.inj (Statement.define.inj halike)).1⟩
  | packageBegin | packageEnd | importPackage | showType | showSize => cases halike

def declared? (e : Expr) : Option TypeName :=
  match e.toStatement with
  | .ok (.define d) => some d.name
  | _ => none

lemma declared?_eq_some_iff {e : Expr} {type : TypeName} :
    e.declared? = some type ↔ ∃ d, e.toStatement = .ok (.define d) ∧ d.name = type := by
  rw [declared?]
  split
  · next d hd => simp [hd]
  · next hother => exact ⟨nofun, fun ⟨d, hd, _⟩ => (hother d hd).elim⟩

@[simp] lemma declared?_relocate (r : Relocation) (e : Expr) : (e.relocate r).declared? = e.declared? := by
  have hmoves : ∀ {e e' : Expr} {type : TypeName}, e.Alike e' → e.declared? = some type → e'.declared? = some type := by
    intro e e' type halike h
    obtain ⟨d, hd, rfl⟩ := declared?_eq_some_iff.mp h
    exact declared?_eq_some_iff.mpr (halike.define hd)
  exact Option.ext fun type => ⟨hmoves (e.relocate_alike r), hmoves (e.relocate_alike r).symm⟩

end Expr

namespace Attempt

inductive Blameless {ε α : Type} (P : α → Prop) : Attempt ε α → Prop
  | ok {a : α} (h : P a) : Blameless P (.ok a)
  | fault (fault : Fault) : Blameless P (.error (.fault fault))

variable {ε δ ε' α β γ : Type}

namespace Blameless

variable {P : α → Prop} {Q : β → Prop} {x : Attempt ε α}

lemma mono {R : α → Prop} (h : Blameless P x) (hr : ∀ a, P a → R a) : Blameless R x := by
  cases h with
  | ok h => exact .ok (hr _ h)
  | fault fault => exact .fault fault

lemma bind {f : α → Attempt ε β} (h : Blameless P x) (hf : ∀ a, P a → Blameless Q (f a)) : Blameless Q (x >>= f) := by
  cases h with
  | ok h => exact hf _ h
  | fault fault => exact .fault fault

lemma retell (h : Blameless P x) (k : ε → ε') : Blameless P (x.retell k) := by
  cases h with
  | ok h => exact .ok h
  | fault fault => exact .fault fault

end Blameless

namespace Mirrors

variable {E : ε → δ} {g : α → β} {x : Attempt ε α} {y : Attempt δ β}

lemma blameless {b : β} (h : Mirrors E g x y) (hy : y = .ok b) : x.Blameless fun a => g a = b := by
  cases h with
  | ok a => exact .ok (Except.ok.inj hy)
  | error e => cases hy
  | fault fault => exact .fault fault

lemma meet {E' : ε' → δ} {g' : γ → β} {x' : Attempt ε' γ} {a : α} (h : Mirrors E g x y) (h' : Mirrors E' g' x' y)
    (hx : x = .ok a) : x'.Blameless fun a' => g' a' = g a :=
  h'.blameless (h.eq_ok hx)

end Mirrors

end Attempt

end RecordSchema
