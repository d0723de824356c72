namespace RecordSchema

structure Decimal where
  coefficient : Nat
  exponent : Int
deriving DecidableEq, Repr

namespace Decimal

def atLeast (d : Decimal) (n : Nat) : Bool :=
  n * Nat.pow 10 (-d.exponent).toNat ≤ d.coefficient * Nat.pow 10 d.exponent.toNat

def magnitude (d : Decimal) : Int :=
  (Nat.toDigits 10 d.coefficient).length + d.exponent

/-- The least number that becomes infinite as a float of 64 bits: it lies halfway between the largest float
and the power of two above that, and a tie goes to the power. -/
def infinityBound : Nat := 18014398509481983 <<< 970

/-- Whether the number becomes infinite as a float of 64 bits. The bound has 309 digits; a number with
more or fewer is judged by that alone, however large its exponent. -/
def overflows (d : Decimal) : Bool :=
  d.coefficient != 0 && (309 < d.magnitude || (d.magnitude = 309 && d.atLeast infinityBound))

theorem infinityBound_digits : Nat.pow 10 308 ≤ infinityBound ∧ infinityBound ≤ Nat.pow 10 309 := by
  decide +kernel

theorem exists_pow_le_lt {c : Nat} (hc : c ≠ 0) :
    ∃ n, (Nat.toDigits 10 c).length = n + 1 ∧ Nat.pow 10 n ≤ c ∧ c < Nat.pow 10 (n + 1) := by
  have digits {k : Nat} (hk : 0 < k) := Nat.length_toDigits_le_iff (n := c) (by decide : 1 < 10) hk
  cases hl : (Nat.toDigits 10 c).length with
  | zero => exact absurd (List.eq_nil_of_length_eq_zero hl) Nat.toDigits_ne_nil
  | succ n =>
    refine ⟨n, rfl, ?_, (digits (Nat.succ_pos n)).1 (Nat.le_of_eq hl)⟩
    cases n with
    | zero => exact Nat.pos_of_ne_zero hc
    | succ n =>
      refine Nat.le_of_not_lt fun small => ?_
      have := (digits (Nat.succ_pos n)).2 small
      omega

theorem atLeast_of_magnitude {d : Decimal} {n k : Nat} (hc : d.coefficient ≠ 0) (hn : n ≤ Nat.pow 10 k)
    (h : k < d.magnitude) : d.atLeast n = true := by
  obtain ⟨l, hl, lower, _⟩ := exists_pow_le_lt hc
  rw [magnitude, hl] at h
  refine decide_eq_true ?_
  calc
    _ ≤ Nat.pow 10 k * _ := Nat.mul_le_mul_right _ hn
    _ = Nat.pow 10 (k + (-d.exponent).toNat) := (Nat.pow_add ..).symm
    _ ≤ Nat.pow 10 (l + d.exponent.toNat) := Nat.pow_le_pow_right (by decide) (by omega)
    _ = Nat.pow 10 l * _ := Nat.pow_add ..
    _ ≤ _ := Nat.mul_le_mul_right _ lower

theorem magnitude_of_atLeast {d : Decimal} {n k : Nat} (hc : d.coefficient ≠ 0) (hn : Nat.pow 10 k ≤ n)
    (h : d.atLeast n = true) : k < d.magnitude := by
  obtain ⟨l, hl, _, upper⟩ := exists_pow_le_lt hc
  rw [magnitude, hl]
  refine Int.not_le.1 fun small => Nat.not_lt.2 (of_decide_eq_true h) ?_
  calc
    _ < Nat.pow 10 (l + 1) * _ := Nat.mul_lt_mul_of_pos_right upper (Nat.pow_pos (by decide))
    _ = Nat.pow 10 (l + 1 + d.exponent.toNat) := (Nat.pow_add ..).symm
    _ ≤ Nat.pow 10 (k + (-d.exponent).toNat) := Nat.pow_le_pow_right (by decide) (by omega)
    _ = Nat.pow 10 k * _ := Nat.pow_add ..
    _ ≤ _ := Nat.mul_le_mul_right _ hn

theorem overflows_eq (d : Decimal) : d.overflows = d.atLeast infinityBound := by
  by_cases hc : d.coefficient = 0
  · have : 0 < infinityBound * Nat.pow 10 (-d.exponent).toNat :=
      Nat.mul_pos (by decide +kernel) (Nat.pow_pos (by decide))
    simp only [overflows, atLeast, hc, Nat.zero_mul]
    exact (decide_eq_false (Nat.not_le.2 this)).symm
  · obtain ⟨lower, upper⟩ := infinityBound_digits
    have above := atLeast_of_magnitude hc upper
    have below := magnitude_of_atLeast hc lower
    rw [Bool.eq_iff_iff]
    simp only [overflows, bne_iff_ne, ne_eq, hc, not_false_eq_true, Bool.and_eq_true, Bool.or_eq_true,
      decide_eq_true_eq, true_and]
    constructor
    · exact fun h => h.elim above And.right
    · exact fun h => (Int.lt_or_eq_of_le (below h)).imp_right fun e => ⟨e.symm, h⟩

end Decimal

end RecordSchema
