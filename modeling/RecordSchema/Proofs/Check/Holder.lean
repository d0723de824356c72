import RecordSchema.Proofs.Check.Declaration
import RecordSchema.Proofs.Schema.Written

namespace RecordSchema

open DataType.toExpr (form word number)

def heldName : FieldName := ⟨"x", by decide +kernel⟩

namespace Expr

def fillers : (bits : Nat) → List Expr
  | 0 => []
  | bits + 1 => [form [word "padding-bits", number (bits + 1)]]

def holder (name : TypeName) (type : Expr) (filling : Nat) : Placement → Expr
  | .record => form [word "union", word name.text,
      .list .square [form [word "case", word heldName.text, type]] default]
  | .packed => form [word "packed", word name.text,
      .list .square (form [word "field", word heldName.text, type] :: fillers filling) default]

end Expr

inductive Body.Holds {ρ : Type} (type : TypeExpr ρ) : (filling : Nat) → Placement → Body ρ → Prop
  | case {filling : Nat} {p : Position} : Holds type filling .record (.union [⟨heldName.toCase, type, p⟩])
  | field {p : Position} : Holds type 0 .packed (.packed [.field heldName type p])
  | filled {bits : Nat} {p q r : Position} : Holds type (bits + 1) .packed
      (.packed [.field heldName type p, .padding (.constant (bits + 1) q) r])

namespace Expr

variable {type : Expr} {filling : Nat} {P : TypeExpr Mention → Prop}

lemma toUnion_held (filling : Nat) (h : ∀ e : Expr, e.Alike type → ∃ found, e.toType = .ok found ∧ P found)
    {items : List Expr} (hitems : List.Forall₂ Alike items [form [word "case", word heldName.text, type]]) :
    ∃ found body, P found ∧ Body.Holds found filling .record body ∧ toUnion items = .ok body := by
  obtain _ | ⟨hcase, _ | _⟩ := hitems
  obtain ⟨q, r, type', p, rfl, htype⟩ := hcase.of_member
  obtain ⟨found, hfound, hP⟩ := h type' htype
  refine ⟨found, .union [⟨heldName.toCase, found, p⟩], hP, .case, ?_⟩
  have hitem : toCaseItem (list .round [atom "case" q, atom heldName.text r, type'] p) =
      .ok ⟨heldName.toCase, found, p⟩ := toCaseItem_case heldName.toCase hfound
  rw [toUnion, List.mapM_cons, hitem]
  rfl

lemma toPacked_held (h : ∀ e : Expr, e.Alike type → ∃ found, e.toType = .ok found ∧ P found)
    {items : List Expr}
    (hitems : List.Forall₂ Alike items (form [word "field", word heldName.text, type] :: fillers filling)) :
    ∃ found body, P found ∧ Body.Holds found filling .packed body ∧ toPacked items = .ok body := by
  obtain _ | ⟨hfield, hrest⟩ := hitems
  obtain ⟨q, r, type', p, rfl, htype⟩ := hfield.of_member
  obtain ⟨found, hfound, hP⟩ := h type' htype
  cases filling with
  | zero =>
    cases hrest
    refine ⟨found, .packed [.field heldName found p], hP, .field, ?_⟩
    rw [toPacked, List.mapM_cons, toPackedItem_field hfound]
    rfl
  | succ bits =>
    obtain _ | ⟨hpadding, _ | _⟩ := hrest
    obtain ⟨q', _, p', rfl, hargs⟩ := hpadding.of_form
    obtain _ | ⟨hbits, _ | _⟩ := hargs
    obtain ⟨r', rfl⟩ := alike_atom_iff.mp hbits
    refine ⟨found, .packed [.field heldName found p, .padding (.constant (bits + 1) r') p'], hP, .filled, ?_⟩
    rw [toPacked, List.mapM_cons, List.mapM_cons, toPackedItem_field hfound, toPackedItem_padding]
    rfl

lemma toStatement_holder {name : TypeName} {placement : Placement}
    (h : ∀ e : Expr, e.Alike type → ∃ found, e.toType = .ok found ∧ P found) {e : Expr}
    (he : e.Alike (holder name type filling placement)) : ∃ found body p, P found ∧
      Body.Holds found filling placement body ∧ e.toStatement = .ok (.define ⟨name, body, p⟩) := by
  cases placement with
  | record =>
    obtain ⟨q, r, members, p, rfl, hmembers⟩ := Alike.of_member he
    obtain ⟨items, r', rfl, hitems⟩ := alike_list_iff.mp hmembers
    obtain ⟨found, body, hP, hholds, hbody⟩ := toUnion_held filling h hitems
    exact ⟨found, body, p, hP, hholds, toDefinition_eq_ok hbody⟩
  | packed =>
    obtain ⟨q, r, members, p, rfl, hmembers⟩ := Alike.of_member he
    obtain ⟨items, r', rfl, hitems⟩ := alike_list_iff.mp hmembers
    obtain ⟨found, body, hP, hholds, hbody⟩ := toPacked_held h hitems
    exact ⟨found, body, p, hP, hholds, toDefinition_eq_ok hbody⟩

lemma legible_holder {name : TypeName} {placement : Placement} (hname : IsWord name.text.toList)
    (htype : type.Legible) : (holder name type filling placement).Legible := by
  have hwords : IsWord "union".toList ∧ IsWord "case".toList ∧ IsWord "packed".toList ∧ IsWord "field".toList ∧
      IsWord "padding-bits".toList ∧ IsWord heldName.text.toList := by
    decide +kernel
  obtain ⟨hunion, hcase, hpacked, hfield, hpadding, hheld⟩ := hwords
  cases placement with
  | record => simp [holder, hname, htype, hunion, hcase, hheld, -String.reduceToList]
  | packed =>
    have hfillers : ∀ e ∈ fillers filling, e.Legible := by
      cases filling with
      | zero => simp [fillers]
      | succ bits => simp [fillers, hpadding, -String.reduceToList]
    simpa [holder, hname, htype, hpacked, hfield, hheld, -String.reduceToList] using hfillers

end Expr

variable {c : Capabilities} {t : TypeTable} {scope : Scope}

lemma Body.Holds.resolve {type : TypeExpr Mention} {found : TypeExpr Target} {filling : Nat} {placement : Placement}
    {body : Body Mention} (h : Holds type filling placement body) (hfound : type.resolve t scope = .ok found) :
    ∃ body' : Body Target, body.resolve t scope = .ok body' ∧ body'.Holds found filling placement := by
  cases h with
  | @case _ p =>
    refine ⟨.union [⟨heldName.toCase, found, p⟩], ?_, .case⟩
    rw [Body.resolve, List.mapM_cons, CaseItem.resolve, hfound]
    rfl
  | @field p =>
    refine ⟨.packed [.field heldName found p], ?_, .field⟩
    rw [Body.resolve, List.mapM_cons, PackedItem.resolve, hfound]
    rfl
  | @filled bits p q r =>
    refine ⟨.packed [.field heldName found p, .padding (.constant (bits + 1) q) r], ?_, .filled⟩
    rw [Body.resolve, List.mapM_cons, PackedItem.resolve, hfound]
    rfl

structure Layout.Holds (type : DataType) (placement : Placement) (l : Layout) : Prop where
  mem : (placement, type) ∈ l.memberTypes
  found : ∀ i package name p, (Declaration.mk i package name p l).memberType? heldName = some type

namespace Check

lemma layout_packed {items : List (PackedItem Target)} {kind : IntegerKind} {bits : Nat} {p : Position}
    {later : List PackedSpec} {below : PackedLayout}
    (hitems : packedItems c t [] items = .ok (.field heldName (.integer kind bits) bits p :: later))
    (hlater : PackedLayout.place later = .ok below) (hfields : below.fields = []) (hpositive : 0 < bits)
    (htotal : c.packedTotals.contains (below.bits + bits) = true) (name : TypeName) (q : Position) :
    ∃ l, layout c t ⟨name, .packed items, q⟩ = .ok l ∧ l.Holds (.integer kind bits) .packed := by
  let spec : PackedSpec := .field heldName (.integer kind bits) bits p
  obtain ⟨range, _, _, hplace⟩ := PackedLayout.place_cons spec hlater hpositive
  -- Below the field there is only filling, so it is the one that its name finds.
  let packed : PackedLayout := ⟨spec.place range :: below.members, below.bits + bits⟩
  have hpacked : packed.fields = [⟨heldName, .integer kind bits, range, p⟩] := congrArg (List.cons _) hfields
  have htotal' (d : Definition Target) : packedTotal c d packed = .ok () := if_pos (.inr htotal)
  refine ⟨.packed packed, ?_, ?_, fun i package name q => ?_⟩
  · rw [layout]
    simp only [hitems]
    change (Attempt.ofFault (PackedLayout.place (spec :: later)) >>= _) = _
    rw [hplace]
    change (packedTotal c _ packed >>= _) = _
    rw [htotal']
    rfl
  · rw [Layout.memberTypes, hpacked]
    exact List.mem_singleton_self _
  · change (packed.field? heldName).map (·.type) = _
    rw [PackedLayout.field?, hpacked]
    simp

end Check

lemma Body.Holds.layout {type : TypeExpr Target} {filling : Nat} {placement : Placement} {body : Body Target}
    (h : Holds type filling placement body) {kind : IntegerKind} {bits : Nat}
    (htype : type.check c t placement = .ok (.integer kind bits)) (hpositive : 0 < bits)
    (htotal : c.packedTotals.contains (filling + bits) = true) (name : TypeName) (p : Position) :
    ∃ l, Check.layout c t ⟨name, body, p⟩ = .ok l ∧ l.Holds (.integer kind bits) placement := by
  cases h with
  | @case _ p' =>
    have hcases : Check.caseItems c t [] [⟨heldName.toCase, type, p'⟩] =
        .ok [⟨heldName.toCase, .integer kind bits, p'⟩] := by
      rw [Check.caseItems, if_neg List.not_mem_nil, htype]
      rfl
    refine ⟨.union (.ofCases [⟨heldName.toCase, .integer kind bits, p'⟩]), ?_, List.mem_singleton_self _, ?_⟩
    · rw [Check.layout]
      simp only [hcases]
      rfl
    · simp [Declaration.memberType?, UnionLayout.case?, UnionLayout.ofCases, upsert]
  | @field p' =>
    have hitems : Check.packedItems c t [] [.field heldName type p'] =
        .ok [.field heldName (.integer kind bits) bits p'] := by
      change (if heldName ∈ ([] : List FieldName) then _ else type.check c t .packed >>= _) = _
      rw [if_neg List.not_mem_nil, htype]
      rfl
    exact Check.layout_packed hitems rfl rfl hpositive htotal name p
  | @filled more p' q r =>
    have hitems : Check.packedItems c t [] [.field heldName type p', .padding (.constant (more + 1) q) r] =
        .ok [.field heldName (.integer kind bits) bits p', .padding (more + 1) r] := by
      change (if heldName ∈ ([] : List FieldName) then _ else type.check c t .packed >>= _) = _
      rw [if_neg List.not_mem_nil, htype]
      rfl
    have hnone : PackedLayout.place [] = .ok ⟨[], 0⟩ := rfl
    obtain ⟨range, _, _, hplace⟩ := PackedLayout.place_cons (.padding (more + 1) r) hnone (Nat.succ_pos more)
    refine Check.layout_packed hitems hplace rfl hpositive ?_ name p
    change c.packedTotals.contains (0 + (more + 1) + bits) = true
    rwa [Nat.zero_add]

end RecordSchema
