import RecordSchema.Proofs.Text.Edits
import RecordSchema.Text.EditDistance
import Mathlib.Data.String.Basic

namespace RecordSchema.Text

variable {target a b c : String} {candidates candidates' ranked : List String}

def isNear (target candidate : String) : Bool :=
  editDistance target.toList candidate.toList ≤ 3

def NoWorse (target a b : String) : Prop :=
  editDistance target.toList a.toList < editDistance target.toList b.toList ∨
    editDistance target.toList a.toList = editDistance target.toList b.toList ∧ a ≤ b

lemma noWorse_iff : NoWorse target a b ↔ (Suggestion.of target a).le (Suggestion.of target b) = true := by
  rw [NoWorse, Suggestion.le, Suggestion.of, Suggestion.of, Bool.or_eq_true, Bool.and_eq_true, decide_eq_true_iff,
    beq_iff_eq, Bool.not_eq_true', decide_eq_false_iff_not, String.not_lt]

lemma NoWorse.total (target a b : String) : NoWorse target a b ∨ NoWorse target b a := by
  rcases Nat.lt_trichotomy (editDistance target.toList a.toList) (editDistance target.toList b.toList) with
    hlt | heq | hlt
  · exact .inl (.inl hlt)
  · rcases String.le_total a b with hle | hle
    · exact .inl (.inr ⟨heq, hle⟩)
    · exact .inr (.inr ⟨heq.symm, hle⟩)
  · exact .inr (.inl hlt)

lemma NoWorse.trans (h : NoWorse target a b) (h' : NoWorse target b c) : NoWorse target a c := by
  rcases h with hlt | ⟨heq, hle⟩ <;> rcases h' with hlt' | ⟨heq', hle'⟩
  · exact .inl (Nat.lt_trans hlt hlt')
  · exact .inl (heq' ▸ hlt)
  · exact .inl (heq ▸ hlt')
  · exact .inr ⟨heq.trans heq', String.le_trans hle hle'⟩

lemma NoWorse.antisymm (h : NoWorse target a b) (h' : NoWorse target b a) : a = b := by
  rcases h with hlt | ⟨heq, hle⟩ <;> rcases h' with hlt' | ⟨_, hle'⟩
  · omega
  · omega
  · omega
  · exact String.le_antisymm hle hle'

def rank (target : String) (candidates : List String) : List String :=
  (candidates.filter (isNear target)).mergeSort fun a b => (Suggestion.of target a).le (Suggestion.of target b)

lemma rank_perm (target : String) (candidates : List String) :
    (rank target candidates).Perm (candidates.filter (isNear target)) :=
  List.mergeSort_perm _ _

lemma rank_pairwise (target : String) (candidates : List String) :
    (rank target candidates).Pairwise (NoWorse target) := by
  have hsorted : (rank target candidates).Pairwise fun a b =>
      (Suggestion.of target a).le (Suggestion.of target b) = true := by
    apply List.pairwise_mergeSort
    · intro a b c hab hbc
      exact noWorse_iff.mp ((noWorse_iff.mpr hab).trans (noWorse_iff.mpr hbc))
    · intro a b
      rw [Bool.or_eq_true]
      exact (NoWorse.total target a b).imp noWorse_iff.mp noWorse_iff.mp
  exact hsorted.imp noWorse_iff.mpr

lemma rank_eq (hperm : ranked.Perm (candidates.filter (isNear target))) (hsorted : ranked.Pairwise (NoWorse target)) :
    rank target candidates = ranked := by
  apply List.Perm.eq_of_pairwise (fun _ _ _ _ => NoWorse.antisymm) (rank_pairwise target candidates) hsorted
  exact (rank_perm target candidates).trans hperm.symm

lemma rank_of_perm (h : candidates.Perm candidates') : rank target candidates' = rank target candidates :=
  rank_eq ((rank_perm target candidates).trans (h.filter _)) (rank_pairwise target candidates)

lemma suggestions_eq (target : String) (candidates : List String) :
    suggestions target candidates = (rank target candidates).take 3 := by
  have hsorted : ((candidates.filter (isNear target)).map (Suggestion.of target)).mergeSort Suggestion.le =
      (rank target candidates).map (Suggestion.of target) := by
    rw [rank]
    exact (List.map_mergeSort (f := Suggestion.of target) fun _ _ _ _ => rfl).symm
  have hnear : (candidates.map (Suggestion.of target)).filter (·.distance ≤ 3) =
      (candidates.filter (isNear target)).map (Suggestion.of target) :=
    List.filter_map
  have hname : ∀ names : List String, (names.map (Suggestion.of target)).map Suggestion.name = names := by
    intro names
    rw [List.map_map]
    exact List.map_id names
  rw [suggestions, hnear, hsorted, ← List.map_take, hname]

lemma append_lt_append_iff (start a b : String) : start ++ a < start ++ b ↔ a < b := by
  rw [String.lt_iff_toList_lt, String.lt_iff_toList_lt, String.toList_append, String.toList_append]
  induction start.toList with
  | nil => rfl
  | cons c text ih => simp [ih]

lemma of_append_le (start target a b : String) :
    (Suggestion.of (start ++ target) (start ++ a)).le (Suggestion.of (start ++ target) (start ++ b)) =
      (Suggestion.of target a).le (Suggestion.of target b) := by
  rw [Bool.eq_iff_iff, ← noWorse_iff, ← noWorse_iff, NoWorse, NoWorse]
  simp only [String.toList_append, editDistance_append_left, ← String.not_lt, append_lt_append_iff]

lemma suggestions_append (start target : String) (candidates : List String) :
    suggestions (start ++ target) (candidates.map (start ++ ·)) = (suggestions target candidates).map (start ++ ·) := by
  have hnear : (candidates.map (start ++ ·)).filter (isNear (start ++ target)) =
      (candidates.filter (isNear target)).map (start ++ ·) := by
    rw [List.filter_map]
    congr 1
    apply List.filter_congr
    intro a _
    simp only [Function.comp_apply, isNear, String.toList_append, editDistance_append_left]
  have hsorted : rank (start ++ target) (candidates.map (start ++ ·)) = (rank target candidates).map (start ++ ·) := by
    rw [rank, hnear, rank]
    exact (List.map_mergeSort (f := (start ++ ·)) fun a _ b _ => (of_append_le start target a b).symm).symm
  rw [suggestions_eq, suggestions_eq, hsorted, List.map_take]

end RecordSchema.Text
