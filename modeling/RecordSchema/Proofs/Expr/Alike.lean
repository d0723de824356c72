import RecordSchema.Expr.Basic
import Mathlib.Data.List.Forall2
import Mathlib.Tactic.Common

namespace RecordSchema.Expr

def Alike (e e' : Expr) : Prop :=
  e.withPositions default = e'.withPositions default

lemma withPositionsEach_eq_map (p : Position) : ∀ es : List Expr, withPositionsEach p es = es.map (withPositions p)
  | [] => rfl
  | e :: es => by rw [withPositionsEach, withPositionsEach_eq_map p es, List.map_cons]

lemma alike_atom_iff {e : Expr} {text : String} {p : Position} : e.Alike (atom text p) ↔ ∃ q, e = atom text q := by
  constructor
  · intro h
    cases e with
    | atom other q => exact ⟨q, by injection h with htext; rw [htext]⟩
    | quoted other q => cases h
    | list bracket items q => cases h
  · rintro ⟨q, rfl⟩
    rfl

lemma alike_quoted_iff {e : Expr} {text : String} {p : Position} :
    e.Alike (quoted text p) ↔ ∃ q, e = quoted text q := by
  constructor
  · intro h
    cases e with
    | quoted other q => exact ⟨q, by injection h with htext; rw [htext]⟩
    | atom other q => cases h
    | list bracket items q => cases h
  · rintro ⟨q, rfl⟩
    rfl

lemma alike_list_iff {e : Expr} {bracket : Bracket} {items : List Expr} {p : Position} :
    e.Alike (list bracket items p) ↔ ∃ items' q, e = list bracket items' q ∧ List.Forall₂ Alike items' items := by
  have hmap (items' : List Expr) : withPositionsEach default items' = withPositionsEach default items ↔
      List.Forall₂ Alike items' items := by
    rw [withPositionsEach_eq_map, withPositionsEach_eq_map, ← List.forall₂_eq_eq_eq, List.forall₂_map_left_iff,
      List.forall₂_map_right_iff]
    rfl
  constructor
  · intro h
    cases e with
    | atom text q => cases h
    | quoted text q => cases h
    | list bracket' items' q =>
      injection h with hbracket hitems
      subst hbracket
      exact ⟨items', q, rfl, (hmap items').mp hitems⟩
  · rintro ⟨items', q, rfl, hitems⟩
    rw [Alike, withPositions, withPositions, (hmap items').mpr hitems]

mutual

def isAlike : Expr → Expr → Bool
  | atom text _, atom text' _ => text.toList == text'.toList
  | quoted text _, quoted text' _ => text.toList == text'.toList
  | list bracket items _, list bracket' items' _ => bracket == bracket' && areAlike items items'
  | _, _ => false

def areAlike : List Expr → List Expr → Bool
  | [], [] => true
  | e :: es, e' :: es' => e.isAlike e' && areAlike es es'
  | _, _ => false

end

mutual

lemma isAlike_iff : ∀ e e' : Expr, e.isAlike e' = true ↔ e.Alike e'
  | atom .., atom .. | quoted .., quoted .. => by simp [isAlike, Alike, withPositions, String.toList_inj]
  | list _ items _, list _ items' _ => by simp [isAlike, Alike, withPositions, areAlike_iff items items']
  | atom .., quoted .. | atom .., list .. | quoted .., atom .. | quoted .., list .. | list .., atom ..
  | list .., quoted .. => by simp [isAlike, Alike, withPositions]

lemma areAlike_iff : ∀ es es' : List Expr,
    areAlike es es' = true ↔ withPositionsEach default es = withPositionsEach default es'
  | [], [] => by simp [areAlike]
  | e :: es, e' :: es' => by
    simp [areAlike, withPositionsEach, areAlike_iff es es', isAlike_iff e e', Alike]
  | [], _ :: _ | _ :: _, [] => by simp [areAlike, withPositionsEach]

end

instance : DecidableRel Alike :=
  fun e e' => decidable_of_iff _ (isAlike_iff e e')

end RecordSchema.Expr
