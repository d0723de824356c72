import RecordSchema.Proofs.Outcome

namespace RecordSchema

def SizeRanges.Within (s s' : SizeRanges) : Prop :=
  ∀ n, s.contains n = true → s'.contains n = true

lemma SizeRanges.contains_iff {s : SizeRanges} {n : Nat} :
    s.contains n = true ↔ ∃ r ∈ s.ranges, r.lower ≤ n ∧ n ≤ r.upper := by
  simp only [contains, List.any_eq_true, Interval.contains_iff]

structure MatrixShapes.Within (m m' : MatrixShapes) : Prop where
  widths : m.widths.Within m'.widths
  heights : m.heights.Within m'.heights

/-- Whatever `c` supports, `c'` supports in the same place. -/
structure Capabilities.Within (c c' : Capabilities) : Prop where
  recordIntegers : c.recordIntegers.Within c'.recordIntegers
  recordFloats : c.recordFloats.Within c'.recordFloats
  packedIntegers : c.packedIntegers.Within c'.packedIntegers
  packedTotals : c.packedTotals.Within c'.packedTotals
  integerVectors : c.integerVectors.Within c'.integerVectors
  floatVectors : c.floatVectors.Within c'.floatVectors
  integerMatrices : c.integerMatrices.Within c'.integerMatrices
  floatMatrices : c.floatMatrices.Within c'.floatMatrices
  booleanSets : c.booleanSets.Within c'.booleanSets
  strings : c.strings.Within c'.strings
  encodings : ∀ name, c.encodings.contains name = true → c'.encodings.contains name = true

def Attempt.Follows {ε α : Type} (x y : Attempt ε α) : Prop :=
  ∀ a, x = .ok a → y = .ok a

namespace Attempt.Follows

variable {ε α β : Type}

lemma refl (x : Attempt ε α) : Follows x x :=
  fun _ hx => hx

lemma error (failure : Failure ε) (y : Attempt ε α) : Follows (.error failure) y := by
  rintro a ⟨⟩

lemma bind {x y : Attempt ε α} {f g : α → Attempt ε β} (h : Follows x y) (hf : ∀ a, Follows (f a) (g a)) :
    Follows (x >>= f) (y >>= g) := by
  intro b hb
  obtain ⟨a, hx, hfa⟩ := exists_of_bind_eq_ok hb
  rw [h a hx]
  exact hf a b hfa

lemma bind_left {x y : Attempt ε α} (h : Follows x y) (f : α → Attempt ε β) : Follows (x >>= f) (y >>= f) :=
  h.bind fun a => refl (f a)

lemma bind_right (x : Attempt ε α) {f g : α → Attempt ε β} (hf : ∀ a, Follows (f a) (g a)) :
    Follows (x >>= f) (x >>= g) :=
  (refl x).bind hf

end Attempt.Follows

variable {c c' : Capabilities} {t : TypeTable}

lemma MatrixShapes.Within.contains {m m' : MatrixShapes} (h : m.Within m') {width height : Nat}
    (hm : m.contains width height = true) : m'.contains width height = true := by
  simp only [MatrixShapes.contains, Bool.and_eq_true] at hm ⊢
  exact ⟨h.widths width hm.1, h.heights height hm.2⟩

namespace Capabilities.Within

lemma vectors (h : c.Within c') (integers : Bool) : (c.vectors integers).Within (c'.vectors integers) := by
  cases integers
  · exact h.floatVectors
  · exact h.integerVectors

lemma matrices (h : c.Within c') (integers : Bool) : (c.matrices integers).Within (c'.matrices integers) := by
  cases integers
  · exact h.floatMatrices
  · exact h.integerMatrices

lemma measuredInteger (h : c.Within c') {bits : Nat} {placement : Placement}
    (hm : (Check.measuredInteger c bits placement).isSupported = true) :
    (Check.measuredInteger c' bits placement).isSupported = true := by
  cases placement
  · exact h.recordIntegers bits hm
  · exact h.packedIntegers bits hm

end Capabilities.Within

lemma Check.supported_follows {m m' : Measured} (h : m.isSupported = true → m'.isSupported = true) (p : Position) :
    (supported m p).Follows (supported m' p) := by
  by_cases hm : m.isSupported = true
  · rw [supported, supported, if_pos hm, if_pos (h hm)]
    apply Attempt.Follows.refl
  · rw [supported, if_neg hm]
    apply Attempt.Follows.error

mutual

lemma TypeExpr.check_follows (h : c.Within c') : ∀ (type : TypeExpr Target) (placement : Placement),
    (type.check c t placement).Follows (type.check c' t placement)
  | .integer kind bits p, placement => by
    rw [TypeExpr.check, TypeExpr.check]
    refine (SizeExpr.evaluate_follows h bits).bind fun bits => .bind_right _ fun _ => .bind_left ?_ _
    apply Check.supported_follows
    exact h.measuredInteger
  | .float bits p, placement => by
    rw [TypeExpr.check, TypeExpr.check]
    refine (SizeExpr.evaluate_follows h bits).bind fun bits => .bind_right _ fun _ => .bind_left ?_ _
    apply Check.supported_follows
    exact h.recordFloats bits
  | .vector element count p, placement => by
    rw [TypeExpr.check, TypeExpr.check]
    refine (TypeExpr.check_follows h element .record).bind fun type => .bind_right _ fun _ => ?_
    refine (SizeExpr.evaluate_follows h count).bind fun count => .bind_left ?_ _
    apply Check.supported_follows
    exact h.vectors type.isInteger count
  | .matrix element width height p, placement => by
    rw [TypeExpr.check, TypeExpr.check]
    refine (TypeExpr.check_follows h element .record).bind fun type => .bind_right _ fun _ => ?_
    refine (SizeExpr.evaluate_follows h width).bind fun width => ?_
    refine (SizeExpr.evaluate_follows h height).bind fun height => .bind_left ?_ _
    apply Check.supported_follows
    exact (h.matrices type.isInteger).contains
  | .booleanSet octets flags p, placement => by
    rw [TypeExpr.check, TypeExpr.check]
    refine (SizeExpr.evaluate_follows h octets).bind fun octets => .bind_left ?_ _
    apply Check.supported_follows
    exact h.booleanSets octets
  | .string octets encoding p, placement => by
    rw [TypeExpr.check, TypeExpr.check]
    refine (SizeExpr.evaluate_follows h octets).bind fun octets => ?_
    have hsupported : (Measured.string c.strings octets).isSupported = true →
        (Measured.string c'.strings octets).isSupported = true := h.strings octets
    refine (Check.supported_follows hsupported p).bind fun _ => ?_
    by_cases hencoding : c.encodings.contains encoding = true
    · rw [if_pos hencoding, if_pos (h.encodings encoding hencoding)]
      apply Attempt.Follows.refl
    · rw [if_neg hencoding]
      apply Attempt.Follows.error
  | .reference target p, placement => by
    rw [TypeExpr.check, TypeExpr.check]
    apply Attempt.Follows.refl
  | .typeOf target tp path p, placement => by
    rw [TypeExpr.check, TypeExpr.check]
    apply Attempt.Follows.refl

lemma SizeExpr.evaluate_follows (h : c.Within c') : ∀ size : SizeExpr Target,
    (size.evaluate c t).Follows (size.evaluate c' t)
  | .constant value p => .refl _
  | .inBits of p => by
    rw [SizeExpr.evaluate, SizeExpr.evaluate]
    exact (TypeExpr.check_follows h of .record).bind_left _
  | .inOctets of p => by
    rw [SizeExpr.evaluate, SizeExpr.evaluate]
    exact (TypeExpr.check_follows h of .record).bind_left _

end

namespace Check

lemma recordItems_follows (h : c.Within c') (items : List (RecordItem Target)) (seen : List FieldName)
    (offset : Nat) : (recordItems c t seen offset items).Follows (recordItems c' t seen offset items) := by
  induction items generalizing seen offset with
  | nil => apply Attempt.Follows.refl
  | cons item rest ih =>
    cases item with
    | field name type p =>
      change Attempt.Follows (if name ∈ seen then _ else _) (if name ∈ seen then _ else _)
      by_cases hseen : name ∈ seen
      · rw [if_pos hseen]
        apply Attempt.Follows.error
      · rw [if_neg hseen, if_neg hseen]
        refine (type.check_follows h .record).bind fun type => .bind_right _ fun octets => ?_
        exact (ih (name :: seen) (offset + octets)).bind_left _
    | padding octets p =>
      refine (octets.evaluate_follows h).bind fun octets => .bind_right _ fun _ => ?_
      exact (ih seen (offset + octets)).bind_left _

lemma packedItems_follows (h : c.Within c') (items : List (PackedItem Target)) (seen : List FieldName) :
    (packedItems c t seen items).Follows (packedItems c' t seen items) := by
  induction items generalizing seen with
  | nil => apply Attempt.Follows.refl
  | cons item rest ih =>
    cases item with
    | field name type p =>
      change Attempt.Follows (if name ∈ seen then _ else _) (if name ∈ seen then _ else _)
      by_cases hseen : name ∈ seen
      · rw [if_pos hseen]
        apply Attempt.Follows.error
      · rw [if_neg hseen, if_neg hseen]
        refine (type.check_follows h .packed).bind fun type => ?_
        by_cases hinteger : type.isInteger = true
        · rw [if_pos hinteger, if_pos hinteger]
          exact (ih (name :: seen)).bind_left _
        · rw [if_neg hinteger]
          apply Attempt.Follows.error
    | padding bits p =>
      refine (bits.evaluate_follows h).bind fun bits => .bind_right _ fun _ => ?_
      exact (ih seen).bind_left _

lemma caseItems_follows (h : c.Within c') (items : List (CaseItem Target)) (seen : List CaseName) :
    (caseItems c t seen items).Follows (caseItems c' t seen items) := by
  induction items generalizing seen with
  | nil => apply Attempt.Follows.refl
  | cons item rest ih =>
    rw [caseItems, caseItems]
    by_cases hseen : item.name ∈ seen
    · rw [if_pos hseen]
      apply Attempt.Follows.error
    · rw [if_neg hseen, if_neg hseen]
      refine (item.type.check_follows h .record).bind fun type => ?_
      exact (ih (item.name :: seen)).bind_left _

lemma packedTotal_follows (h : c.Within c') (d : Definition Target) (p : PackedLayout) :
    (packedTotal c d p).Follows (packedTotal c' d p) := by
  by_cases hp : p.members = [] ∨ c.packedTotals.contains p.bits = true
  · rw [packedTotal, packedTotal, if_pos hp, if_pos (hp.imp_right (h.packedTotals p.bits))]
    apply Attempt.Follows.refl
  · rw [packedTotal, if_neg hp]
    apply Attempt.Follows.error

lemma layout_follows (h : c.Within c') (d : Definition Target) : (layout c t d).Follows (layout c' t d) := by
  unfold layout
  split
  · exact (recordItems_follows h _ [] 0).bind_left _
  · refine (packedItems_follows h _ []).bind fun specs => .bind_right _ fun packed => ?_
    exact (packedTotal_follows h d packed).bind_left _
  · apply Attempt.Follows.error
  · exact (caseItems_follows h _ []).bind_left _

lemma declaration_follows (h : c.Within c') (i : Identifier) (package : PackageName) (d : Definition Target) :
    (declaration c t i package d).Follows (declaration c' t i package d) :=
  (layout_follows h d).bind_left _

end Check

end RecordSchema
