import RecordSchema.Capability.Descriptor
import RecordSchema.Proofs.Outcome
import Mathlib.Algebra.Group.Nat.Defs
import Mathlib.Data.List.Basic

namespace RecordSchema.Descriptor

variable {d d' : Document} {m n : Nat} {r : SizeRange} {entries : List (String × Document)}

inductive WrittenBound : Nat → Document → Prop
  | number {n : Nat} (small : n ≤ 2 ^ 64 - 1) : WrittenBound n (.integer n)
  | text {n : Nat} (large : 2 ^ 64 - 1 < n) : WrittenBound n (.text (toString n))

/-- What a range is written as: a single size stands for itself. -/
inductive WrittenRange (r : SizeRange) : Document → Prop
  | exactly {d : Document} (single : r.lower = r.upper) (bound : WrittenBound r.lower d) : WrittenRange r d
  | between {lower upper : Document} (several : r.lower ≠ r.upper) (first : WrittenBound r.lower lower)
      (last : WrittenBound r.upper upper) : WrittenRange r (.table [("lower", lower), ("upper", upper)])

lemma writtenBound_document (n : Nat) : WrittenBound n (Bound.document n) := by
  rw [Bound.document]
  split
  · next h => exact .number h
  · next h => exact .text (Nat.lt_of_not_le h)

lemma writtenRange_document (r : SizeRange) : WrittenRange r (rangeDocument r) := by
  rw [rangeDocument]
  split
  · next h => exact .exactly h (writtenBound_document r.lower)
  · next h => exact .between h (writtenBound_document r.lower) (writtenBound_document r.upper)

lemma eq_document_iff : d = Bound.document n ↔ WrittenBound n d := by
  constructor
  · rintro rfl
    exact writtenBound_document n
  · rintro (small | large)
    · exact (if_pos small).symm
    · exact (if_neg (Nat.not_le.mpr large)).symm

lemma eq_rangeDocument_iff : d = rangeDocument r ↔ WrittenRange r d := by
  constructor
  · rintro rfl
    exact writtenRange_document r
  · rintro (⟨single, bound⟩ | ⟨several, first, last⟩)
    · rw [rangeDocument, if_pos single, eq_document_iff]
      exact bound
    · rw [rangeDocument, if_neg several, eq_document_iff.mpr first, eq_document_iff.mpr last]

lemma rangeDocument_bare_iff :
    ((∃ n, rangeDocument r = .integer n) ∨ ∃ s, rangeDocument r = .text s) ↔ r.lower = r.upper := by
  constructor
  · intro h
    by_contra hne
    rw [rangeDocument, if_neg hne] at h
    rcases h with ⟨n, ⟨⟩⟩ | ⟨s, ⟨⟩⟩
  · intro h
    rw [rangeDocument, if_pos h, Bound.document]
    split
    · exact .inl ⟨_, rfl⟩
    · exact .inr ⟨_, rfl⟩

lemma document_text_iff : (∃ s, Bound.document n = .text s) ↔ 2 ^ 64 - 1 < n := by
  rw [Bound.document]
  split
  · next small => exact iff_of_false (by rintro ⟨s, ⟨⟩⟩) (Nat.not_lt.mpr small)
  · next large => exact iff_of_true ⟨_, rfl⟩ (Nat.not_le.mp large)

inductive DenotesBound : Document → Nat → Prop
  | number {n : Nat} (small : n ≤ 2 ^ 64 - 1) : DenotesBound (.integer n) n
  | text {s : String} {n : Nat} (numeral : numberOf s.toList = some n) : DenotesBound (.text s) n

inductive DenotesRange : Document → Nat → Nat → Prop
  | exactly {d : Document} {n : Nat} (bound : DenotesBound d n) : DenotesRange d n n
  | between {entries : List (String × Document)} {lower upper : Document} {m n : Nat}
      (lower_eq : entries.lookup "lower" = some lower) (upper_eq : entries.lookup "upper" = some upper)
      (first : DenotesBound lower m) (last : DenotesBound upper n) : DenotesRange (.table entries) m n

lemma denotesBound_iff : DenotesBound d n ↔ ∃ bound, Bound.ofDocument? d = some bound ∧ bound.value = .ok n := by
  constructor
  · rintro (small | numeral)
    · exact ⟨.number n, if_pos small, rfl⟩
    · next s =>
      refine ⟨.text s, rfl, ?_⟩
      rw [Bound.value, numeral]
  · rintro ⟨bound, hbound, hvalue⟩
    unfold Bound.ofDocument? at hbound
    split at hbound
    · split at hbound
      · next small =>
        cases hbound
        cases hvalue
        exact .number small
      · cases hbound
    · next s =>
      cases hbound
      rw [Bound.value] at hvalue
      split at hvalue
      · next numeral =>
        cases hvalue
        exact .text numeral
      · cases hvalue
    · cases hbound

lemma rangeOfDocument_of_denotes (h : DenotesRange d m n) :
    rangeOfDocument d = if hle : m ≤ n then .ok ⟨m, n, hle⟩ else .error (.emptyRange m n) := by
  cases h with
  | exactly bound =>
    rw [dif_pos (Nat.le_refl m)]
    cases bound with
    | number small =>
      have hbound : Bound.ofDocument? (.integer m) = some (.number m) := if_pos small
      simp only [rangeOfDocument, hbound]
      rfl
    | text numeral =>
      simp only [rangeOfDocument, Bound.ofDocument?, Bound.value, numeral]
      rfl
  | between lower_eq upper_eq first last =>
    obtain ⟨lower, hlower, hm⟩ := denotesBound_iff.mp first
    obtain ⟨upper, hupper, hn⟩ := denotesBound_iff.mp last
    simp only [rangeOfDocument, lower_eq, upper_eq, Option.bind_some, hlower, hupper, hm, hn]
    rfl

lemma denotes_of_rangeOfDocument (h : rangeOfDocument d = .ok r) : DenotesRange d r.lower r.upper := by
  unfold rangeOfDocument at h
  split at h
  · next entries =>
    dsimp only at h
    split at h
    · next lower upper hlower hupper =>
      obtain ⟨m, hm, h⟩ := exists_of_bind_eq_ok h
      obtain ⟨n, hn, h⟩ := exists_of_bind_eq_ok h
      obtain ⟨first, hfirst, hlower⟩ := Option.bind_eq_some_iff.mp hlower
      obtain ⟨last, hlast, hupper⟩ := Option.bind_eq_some_iff.mp hupper
      split at h <;> cases h
      exact .between hfirst hlast (denotesBound_iff.mpr ⟨_, hlower, hm⟩) (denotesBound_iff.mpr ⟨_, hupper, hn⟩)
    · cases h
  · split at h
    · next bound hbound =>
      obtain ⟨n, hn, h⟩ := exists_of_bind_eq_ok h
      cases h
      exact .exactly (denotesBound_iff.mpr ⟨bound, hbound, hn⟩)
    · cases h

lemma rangeOfDocument_eq_ok_iff : rangeOfDocument d = .ok r ↔ DenotesRange d r.lower r.upper := by
  refine ⟨denotes_of_rangeOfDocument, fun h => ?_⟩
  rw [rangeOfDocument_of_denotes h, dif_pos r.lower_le_upper]

lemma digitsOf_toDigits (n : Nat) : digitsOf (Nat.toDigits 10 n) = some n := by
  have hdigit : ∀ c ∈ Nat.toDigits 10 n, c.isDigit = true :=
    fun c hc => Nat.isDigit_of_mem_toDigits (by decide) (by decide) hc
  have hall : (Nat.toDigits 10 n).all (fun c => c.isDigit || c = '_') = true := by
    rw [List.all_eq_true]
    intro c hc
    rw [hdigit c hc, Bool.true_or]
  rw [digitsOf]
  · rw [if_pos hall, List.filter_eq_self.mpr hdigit, ← Nat.ofDigitChars_eq_foldl, Nat.ofDigitChars_ten_toDigits]
  · exact Nat.toDigits_ne_nil
  · intro rest hrest
    have hunderscore := hdigit '_' (by rw [hrest]; exact List.mem_cons_self)
    cases hunderscore

lemma numberOf_toString (n : Nat) : numberOf (toString n).toList = some n := by
  rw [Nat.toString_eq_ofList_toDigits, String.toList_ofList, numberOf]
  · exact digitsOf_toDigits n
  · intro rest hrest
    have hplus : '+'.isDigit = true :=
      Nat.isDigit_of_mem_toDigits (b := 10) (n := n) (by decide) (by decide) (by rw [hrest]; exact List.mem_cons_self)
    cases hplus

lemma WrittenBound.denotes (h : WrittenBound n d) : DenotesBound d n := by
  cases h with
  | number small => exact .number small
  | text _ => exact .text (numberOf_toString n)

lemma WrittenRange.denotes (h : WrittenRange r d) : DenotesRange d r.lower r.upper := by
  cases h with
  | exactly single bound =>
    rw [← single]
    exact .exactly bound.denotes
  | between _ first last => exact .between rfl rfl first.denotes last.denotes

end RecordSchema.Descriptor
