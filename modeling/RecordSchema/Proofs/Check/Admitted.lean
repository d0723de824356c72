import RecordSchema.Compile.Check
import RecordSchema.Proofs.Layout.Laid
import RecordSchema.Proofs.Resolution.Bound

namespace RecordSchema

def Capabilities.integers (c : Capabilities) : Placement → SizeRanges
  | .record => c.recordIntegers
  | .packed => c.packedIntegers

inductive Admitted (c : Capabilities) (t : TypeTable) : Placement → DataType → Prop
  | integer {placement : Placement} {kind : IntegerKind} {bits : Nat} (positive : 0 < bits)
      (supported : (c.integers placement).contains bits = true) : Admitted c t placement (.integer kind bits)
  | float {placement : Placement} {bits : Nat} (positive : 0 < bits)
      (supported : c.recordFloats.contains bits = true) : Admitted c t placement (.float bits)
  | vector {placement : Placement} {element : DataType} {count : Nat}
      (admitted : Admitted c t .record element) (scalar : element.isScalar = true)
      (supported : (c.vectors element.isInteger).contains count = true) :
      Admitted c t placement (.vector element count)
  | matrix {placement : Placement} {element : DataType} {width height : Nat}
      (admitted : Admitted c t .record element) (scalar : element.isScalar = true)
      (supported : (c.matrices element.isInteger).contains width height = true) :
      Admitted c t placement (.matrix element width height)
  | booleanSet {placement : Placement} {flags : List FieldName} {octets : Nat}
      (supported : c.booleanSets.contains octets = true) (nodup : flags.Nodup)
      (room : flags.length ≤ octets * 8) : Admitted c t placement (.booleanSet flags octets)
  | string {placement : Placement} {encoding : String} {octets : Nat}
      (supported : c.strings.contains octets = true) (encodable : c.encodings.contains encoding = true) :
      Admitted c t placement (.string encoding octets)
  | declared {placement : Placement} {d : Declaration} (registered : d ∈ t.declarations) :
      Admitted c t placement d.toType
  | member {placement : Placement} {d : Declaration} {name : FieldName} {type : DataType}
      (registered : d ∈ t.declarations) (found : d.memberType? name = some type) :
      Admitted c t placement type

namespace Check

lemma positive_safe (what : Positive) (n : Nat) (p : Position) :
    (positive what n p).Safe fun _ => 0 < n := by
  unfold positive
  split
  · exact .error _
  · next h => exact .ok (Nat.pos_of_ne_zero h)

lemma supported_safe (m : Measured) (p : Position) : (supported m p).Safe fun _ => m.isSupported = true := by
  unfold supported
  split
  · next h => exact .ok h
  · exact .error _

lemma wholeOctets_safe (bits : Nat) (p : Position) :
    (wholeOctets bits p).Safe fun octets => bits % 8 = 0 ∧ octets = bits / 8 := by
  unfold wholeOctets
  split
  · next h => exact .ok ⟨h, rfl⟩
  · exact .error _

lemma scalar_safe (type : DataType) (p : Position) : (scalar type p).Safe fun _ => type.isScalar = true := by
  unfold scalar
  split
  · next h => exact .ok h
  · exact .error _

lemma distinctFlags_safe : ∀ (seen : List FieldName) (flags : List (FieldName × Position)),
    (distinctFlags seen flags).Safe fun _ =>
      (flags.map Prod.fst).Nodup ∧ ∀ flag ∈ flags.map Prod.fst, flag ∉ seen
  | seen, [] => .ok ⟨.nil, by simp⟩
  | seen, (flag, p) :: rest => by
    rw [distinctFlags]
    split
    · exact .error _
    · next h =>
      refine (distinctFlags_safe (flag :: seen) rest).mono fun _ ⟨hnodup, hfresh⟩ => ?_
      simp only [List.mem_cons, not_or] at hfresh
      simp only [List.map_cons, List.nodup_cons, List.forall_mem_cons]
      exact ⟨⟨fun hmem => (hfresh flag hmem).1 rfl, hnodup⟩, h, fun f hf => (hfresh f hf).2⟩

end Check

variable {c : Capabilities} {t : TypeTable}

lemma Admitted.walk {placement : Placement} : ∀ {path : List FieldName} {type found : DataType},
    Admitted c t placement type → t.walk type path = .ok found → Admitted c t placement found
  | [], type, found, h, hw => by cases hw; exact h
  | field :: rest, type, found, _, hw => by
    rw [TypeTable.walk] at hw
    split at hw
    · cases hw
    · obtain ⟨d, hd, hw⟩ := exists_of_bind_eq_ok hw
      split at hw
      · cases hw
      · next hm =>
        have hmem := (TypeTable.mem_of_find? (TypeTable.get_eq_ok_iff.mp hd)).1
        exact Admitted.walk (.member hmem hm) hw

mutual

theorem TypeExpr.check_safe : ∀ (type : TypeExpr Target) (placement : Placement), type.Bound t →
    (type.check c t placement).Safe (Admitted c t placement)
  | .integer kind bits p, placement, h => by
    rw [TypeExpr.check]
    refine (SizeExpr.evaluate_safe bits h).bind fun bits _ => ?_
    refine (Check.positive_safe _ _ _).bind fun _ hpos => ?_
    refine (Check.supported_safe _ _).bind fun _ hs => ?_
    cases placement <;> exact .ok (.integer hpos hs)
  | .float bits p, placement, h => by
    rw [TypeExpr.check]
    refine (SizeExpr.evaluate_safe bits h).bind fun bits _ => ?_
    refine (Check.positive_safe _ _ _).bind fun _ hpos => ?_
    exact (Check.supported_safe _ _).bind fun _ hs => .ok (.float hpos hs)
  | .vector element count p, placement, h => by
    rw [TypeExpr.check]
    refine (TypeExpr.check_safe element .record h.1).bind fun type htype => ?_
    refine (Check.scalar_safe _ _).bind fun _ hscalar => ?_
    refine (SizeExpr.evaluate_safe count h.2).bind fun count _ => ?_
    exact (Check.supported_safe _ _).bind fun _ hs => .ok (.vector htype hscalar hs)
  | .matrix element width height p, placement, h => by
    rw [TypeExpr.check]
    refine (TypeExpr.check_safe element .record h.1).bind fun type htype => ?_
    refine (Check.scalar_safe _ _).bind fun _ hscalar => ?_
    refine (SizeExpr.evaluate_safe width h.2.1).bind fun width _ => ?_
    refine (SizeExpr.evaluate_safe height h.2.2).bind fun height _ => ?_
    exact (Check.supported_safe _ _).bind fun _ hs => .ok (.matrix htype hscalar hs)
  | .booleanSet octets flags p, placement, h => by
    rw [TypeExpr.check]
    refine (SizeExpr.evaluate_safe octets h).bind fun octets _ => ?_
    refine (Check.supported_safe _ _).bind fun _ hs => ?_
    refine (Check.distinctFlags_safe [] flags).bind fun _ hflags => ?_
    split
    · exact .error _
    · next hroom =>
      refine .ok (.booleanSet hs hflags.1 ?_)
      simpa using hroom
  | .string octets encoding p, placement, h => by
    rw [TypeExpr.check]
    refine (SizeExpr.evaluate_safe octets h).bind fun octets _ => ?_
    refine (Check.supported_safe _ _).bind fun _ hs => ?_
    split
    · next hencoding => exact .ok (.string hs hencoding)
    · exact .error _
  | .reference target p, placement, ⟨d, hd, _⟩ => by
    rw [TypeExpr.check]
    refine (Attempt.Safe.ofFault (P := (· = d)) (TypeTable.get_eq_ok_iff.mpr hd) rfl).bind ?_
    rintro _ rfl
    exact .ok (.declared (TypeTable.mem_of_find? hd).1)
  | .typeOf target tp path p, placement, ⟨_, d, type, hd, hw⟩ => by
    rw [TypeExpr.check]
    refine (Attempt.Safe.ofFault (P := (· = d)) (TypeTable.get_eq_ok_iff.mpr hd) rfl).bind ?_
    rintro _ rfl
    exact .ofFault hw ((Admitted.declared (TypeTable.mem_of_find? hd).1).walk hw)

theorem SizeExpr.evaluate_safe : ∀ size : SizeExpr Target, size.Bound t →
    (size.evaluate c t).Safe fun _ => True
  | .constant _ _, _ => .ok trivial
  | .inBits of _, h => (TypeExpr.check_safe of .record h).bind fun _ _ => .ok trivial
  | .inOctets of _, h => (TypeExpr.check_safe of .record h).bind fun _ _ =>
      (Check.wholeOctets_safe _ _).mono fun _ _ => trivial

end

end RecordSchema
