import RecordSchema.Compile.Check
import RecordSchema.Proofs.Relocation.Resolving

namespace RecordSchema

variable {r : Relocation} {c : Capabilities} {t t' : TypeTable}

lemma TypeTable.Carries.walk (h : t.Carries r t') : ∀ {path : List FieldName} {type found : DataType},
    t.walk type path = .ok found → t'.walk (type.relocate r) path = .ok (found.relocate r)
  | [], type, found, hw => by
    cases hw
    rfl
  | field :: rest, type, found, hw => by
    rw [TypeTable.walk] at hw ⊢
    rw [DataType.identifier?_relocate]
    cases hi : type.identifier? with
    | none =>
      rw [hi] at hw
      cases hw
    | some i =>
      rw [hi] at hw
      obtain ⟨d, hd, hw⟩ := exists_of_bind_eq_ok hw
      simp only [Option.map_some, h.get hd, bind, Except.bind, Declaration.memberType?_relocate]
      cases hm : d.memberType? field with
      | none =>
        rw [hm] at hw
        cases hw
      | some type =>
        rw [hm] at hw
        exact h.walk hw

namespace Check

variable (r)

lemma reject_mirrors {α β : Type} {g : α → β} (problem : CheckProblem) (p : Position) :
    Attempt.Mirrors (.relocate r) g (reject problem p) (reject problem (r.position p)) :=
  .error (⟨problem, p⟩ : CheckError)

lemma positive_mirrors (what : Positive) (n : Nat) (p : Position) :
    Attempt.Mirrors (.relocate r) id (positive what n p) (positive what n (r.position p)) := by
  unfold positive
  split
  · exact reject_mirrors r _ p
  · exact .ok ()

lemma supported_mirrors (m : Measured) (p : Position) :
    Attempt.Mirrors (.relocate r) id (supported m p) (supported m (r.position p)) := by
  unfold supported
  split
  · exact .ok ()
  · exact reject_mirrors r _ p

lemma wholeOctets_mirrors (bits : Nat) (p : Position) :
    Attempt.Mirrors (.relocate r) id (wholeOctets bits p) (wholeOctets bits (r.position p)) := by
  unfold wholeOctets
  split
  · exact .ok (bits / 8)
  · exact reject_mirrors r _ p

lemma scalar_mirrors (type : DataType) (p : Position) :
    Attempt.Mirrors (.relocate r) id (scalar type p) (scalar (type.relocate r) (r.position p)) := by
  rw [scalar, scalar, DataType.isScalar_relocate, DataType.render_relocate]
  split
  · exact .ok ()
  · exact reject_mirrors r _ p

lemma distinctFlags_mirrors : ∀ (seen : List FieldName) (flags : List (FieldName × Position)),
    Attempt.Mirrors (.relocate r) id (distinctFlags seen flags)
      (distinctFlags seen (flags.map fun flag => (flag.1, r.position flag.2)))
  | seen, [] => .ok ()
  | seen, (flag, p) :: rest => by
    rw [List.map_cons, distinctFlags, distinctFlags]
    split
    · exact reject_mirrors r _ p
    · exact distinctFlags_mirrors (flag :: seen) rest

end Check

mutual

lemma TypeExpr.check_mirrors (h : t.Carries r t') : ∀ (type : TypeExpr Target) (placement : Placement),
    Attempt.Mirrors (.relocate r) (.relocate r) (type.check c t placement)
      ((type.map r.position (.relocate r)).check c t' placement)
  | .integer kind bits p, placement => by
    rw [TypeExpr.map, TypeExpr.check, TypeExpr.check]
    exact (SizeExpr.evaluate_mirrors h bits).bind fun bits => (Check.positive_mirrors r _ _ p).bind fun _ =>
      (Check.supported_mirrors r _ p).bind fun _ => .ok (DataType.integer kind bits)
  | .float bits p, placement => by
    rw [TypeExpr.map, TypeExpr.check, TypeExpr.check]
    exact (SizeExpr.evaluate_mirrors h bits).bind fun bits => (Check.positive_mirrors r _ _ p).bind fun _ =>
      (Check.supported_mirrors r _ p).bind fun _ => .ok (DataType.float bits)
  | .vector element count p, placement => by
    rw [TypeExpr.map, TypeExpr.check, TypeExpr.check, TypeExpr.position_map]
    refine (TypeExpr.check_mirrors h element .record).bind fun type => (Check.scalar_mirrors r type _).bind fun _ => ?_
    refine (SizeExpr.evaluate_mirrors h count).bind fun count => ?_
    rw [DataType.isInteger_relocate]
    exact (Check.supported_mirrors r _ p).bind fun _ => .ok (DataType.vector type count)
  | .matrix element width height p, placement => by
    rw [TypeExpr.map, TypeExpr.check, TypeExpr.check, TypeExpr.position_map]
    refine (TypeExpr.check_mirrors h element .record).bind fun type => (Check.scalar_mirrors r type _).bind fun _ => ?_
    refine (SizeExpr.evaluate_mirrors h width).bind fun width => ?_
    refine (SizeExpr.evaluate_mirrors h height).bind fun height => ?_
    rw [DataType.isInteger_relocate]
    exact (Check.supported_mirrors r _ p).bind fun _ => .ok (DataType.matrix type width height)
  | .booleanSet octets flags p, placement => by
    rw [TypeExpr.map, TypeExpr.check, TypeExpr.check]
    refine (SizeExpr.evaluate_mirrors h octets).bind fun octets => (Check.supported_mirrors r _ p).bind fun _ => ?_
    refine (Check.distinctFlags_mirrors r [] flags).bind fun _ => ?_
    rw [List.length_map, List.map_map, id_eq]
    split
    · exact Check.reject_mirrors r _ p
    · exact .ok (DataType.booleanSet (flags.map Prod.fst) octets)
  | .string octets encoding p, placement => by
    rw [TypeExpr.map, TypeExpr.check, TypeExpr.check]
    refine (SizeExpr.evaluate_mirrors h octets).bind fun octets => (Check.supported_mirrors r _ p).bind fun _ => ?_
    split
    · exact .ok (DataType.string encoding octets)
    · exact Check.reject_mirrors r _ p
  | .reference target p, placement => by
    rw [TypeExpr.map, TypeExpr.check, TypeExpr.check]
    refine (h.get_mirrors _ target.identifier).bind fun d => ?_
    rw [Declaration.toType_relocate]
    exact .ok d.toType
  | .typeOf target tp path p, placement => by
    rw [TypeExpr.map, TypeExpr.check, TypeExpr.check]
    refine (h.get_mirrors _ target.identifier).bind fun d => ?_
    rw [Declaration.toType_relocate]
    exact .ofFault fun _ => h.walk

lemma SizeExpr.evaluate_mirrors (h : t.Carries r t') : ∀ size : SizeExpr Target,
    Attempt.Mirrors (.relocate r) id (size.evaluate c t) ((size.map r.position (.relocate r)).evaluate c t')
  | .constant value _ => .ok value
  | .inBits of _ => by
    rw [SizeExpr.map, SizeExpr.evaluate, SizeExpr.evaluate]
    refine (TypeExpr.check_mirrors h of .record).bind fun type => ?_
    rw [DataType.bits_relocate]
    exact .ok type.bits
  | .inOctets of p => by
    rw [SizeExpr.map, SizeExpr.evaluate, SizeExpr.evaluate]
    refine (TypeExpr.check_mirrors h of .record).bind fun type => ?_
    rw [DataType.bits_relocate]
    exact Check.wholeOctets_mirrors r _ p

end

namespace Check

lemma recordItems_mirrors (h : t.Carries r t') :
    ∀ (items : List (RecordItem Target)) (seen : List FieldName) (offset : Nat), Attempt.Mirrors (.relocate r) (.relocate r) (recordItems c t seen offset items)
      (recordItems c t' seen offset (items.map (.map r.position (.relocate r))))
  | [], seen, offset => .ok (⟨[], offset⟩ : RecordLayout)
  | .field name type p :: rest, seen, offset => by
    rw [List.map_cons, RecordItem.map]
    change Attempt.Mirrors _ _ (if name ∈ seen then _ else _) (if name ∈ seen then _ else _)
    split
    · exact reject_mirrors r _ p
    · refine (type.check_mirrors h .record).bind fun type => ?_
      rw [DataType.bits_relocate]
      refine (wholeOctets_mirrors r _ p).bind fun octets => ?_
      exact (recordItems_mirrors h rest (name :: seen) _).bind fun layout =>
        .ok (⟨.field ⟨name, type, offset, p⟩ :: layout.members, layout.octets⟩ : RecordLayout)
  | .padding octets p :: rest, seen, offset => by
    rw [List.map_cons, RecordItem.map]
    exact (octets.evaluate_mirrors h).bind fun octets => (positive_mirrors r _ _ p).bind fun _ =>
      (recordItems_mirrors h rest seen _).bind fun layout =>
        .ok (⟨.padding offset octets p :: layout.members, layout.octets⟩ : RecordLayout)

lemma packedItems_mirrors (h : t.Carries r t') : ∀ (items : List (PackedItem Target)) (seen : List FieldName),
    Attempt.Mirrors (.relocate r) (List.map (.relocate r)) (packedItems c t seen items)
      (packedItems c t' seen (items.map (.map r.position (.relocate r))))
  | [], seen => .ok []
  | .field name type p :: rest, seen => by
    rw [List.map_cons, PackedItem.map]
    change Attempt.Mirrors _ _ (if name ∈ seen then _ else _) (if name ∈ seen then _ else _)
    split
    · exact reject_mirrors r _ p
    · refine (type.check_mirrors h .packed).bind fun type => ?_
      rw [DataType.isInteger_relocate, DataType.bits_relocate, DataType.render_relocate]
      split
      · exact (packedItems_mirrors h rest (name :: seen)).bind fun specs => .ok (.field name type type.bits p :: specs)
      · exact reject_mirrors r _ p
  | .padding bits p :: rest, seen => by
    rw [List.map_cons, PackedItem.map]
    exact (bits.evaluate_mirrors h).bind fun bits => (positive_mirrors r _ _ p).bind fun _ =>
      (packedItems_mirrors h rest seen).bind fun specs => .ok (.padding bits p :: specs)

lemma caseItems_mirrors (h : t.Carries r t') : ∀ (items : List (CaseItem Target)) (seen : List CaseName),
    Attempt.Mirrors (.relocate r) (List.map (.relocate r)) (caseItems c t seen items)
      (caseItems c t' seen (items.map (.map r.position (.relocate r))))
  | [], seen => .ok []
  | item :: rest, seen => by
    rw [List.map_cons, caseItems, caseItems, CaseItem.map_name]
    split
    · exact reject_mirrors r _ item.position
    · refine (item.type.check_mirrors h .record).bind fun type => ?_
      exact (caseItems_mirrors h rest (item.name :: seen)).bind fun cases =>
        .ok (⟨item.name, type, item.position⟩ :: cases)

end Check

@[simp] lemma PackedSpec.width_relocate (spec : PackedSpec) : (spec.relocate r).width = spec.width := by
  cases spec <;> rfl

lemma PackedSpec.place_relocate (range : BitRange) (spec : PackedSpec) :
    (spec.relocate r).place range = (spec.place range).relocate r := by
  cases spec <;> rfl

lemma PackedLayout.place_relocate : ∀ {specs : List PackedSpec} {layout : PackedLayout}, place specs = .ok layout →
    place (specs.map (.relocate r)) = .ok (layout.relocate r)
  | [], layout, h => by
    cases h
    rfl
  | spec :: later, layout, h => by
    rw [place] at h
    obtain ⟨below, hbelow, h⟩ := exists_of_bind_eq_ok h
    rw [List.map_cons, place, place_relocate hbelow]
    simp only [bind, Except.bind, PackedSpec.width_relocate, PackedSpec.place_relocate]
    split at h
    · cases h
    · next hwidth =>
      obtain ⟨range, hrange, h⟩ := exists_of_bind_eq_ok h
      cases h
      rw [if_neg hwidth, relocate_bits, hrange]
      rfl

lemma upsert_map {α β κ : Type} [DecidableEq κ] {f : α → β} {key : α → κ} {key' : β → κ}
    (hkey : ∀ a, key' (f a) = key a) (x : α) : ∀ ys : List α, upsert key' (f x) (ys.map f) = (upsert key x ys).map f
  | [] => rfl
  | y :: ys => by
    rw [List.map_cons, upsert, upsert, hkey, hkey, upsert_map hkey x ys]
    split <;> rfl

lemma UnionLayout.keep_relocate : ∀ cases kept : List UnionCase,
    (cases.map (.relocate r)).foldl (fun kept c => upsert UnionCase.name c kept) (kept.map (.relocate r)) =
      (cases.foldl (fun kept c => upsert UnionCase.name c kept) kept).map (.relocate r)
  | [], kept => rfl
  | c :: cases, kept => by
    have hupsert : upsert UnionCase.name (c.relocate r) (kept.map (.relocate r)) =
        (upsert UnionCase.name c kept).map (.relocate r) := upsert_map (fun _ => rfl) c kept
    rw [List.map_cons, List.foldl_cons, List.foldl_cons, hupsert, keep_relocate cases]

lemma UnionLayout.ofCases_relocate (cases : List UnionCase) :
    ofCases (cases.map (.relocate r)) = (ofCases cases).relocate r := by
  have hkept := keep_relocate (r := r) cases []
  rw [List.map_nil] at hkept
  rw [ofCases, ofCases, hkept, List.map_map]
  simp only [relocate, Function.comp_def, UnionCase.relocate_type, DataType.bits_relocate]

namespace Check

lemma packedTotal_mirrors (d : Definition Target) (p : PackedLayout) :
    Attempt.Mirrors (.relocate r) id (packedTotal c d p) (packedTotal c (d.map r.position (.relocate r)) (p.relocate r)) := by
  simp only [packedTotal, PackedLayout.relocate_members, PackedLayout.relocate_bits, List.map_eq_nil_iff]
  split
  · exact .ok ()
  · exact reject_mirrors r _ d.position

lemma layout_mirrors (h : t.Carries r t') (d : Definition Target) : Attempt.Mirrors (.relocate r) (.relocate r)
    (layout c t d) (layout c t' (d.map r.position (.relocate r))) := by
  obtain ⟨name, items | items | _ | ⟨item, items⟩, p⟩ := d
  · exact (recordItems_mirrors h items [] 0).bind fun layout => .ok (Layout.record layout)
  · refine (packedItems_mirrors h items []).bind fun specs => ?_
    refine (Attempt.Mirrors.ofFault fun _ => PackedLayout.place_relocate).bind fun packed => ?_
    exact (packedTotal_mirrors ⟨name, .packed items, p⟩ packed).bind fun _ => .ok (Layout.packed packed)
  · exact reject_mirrors r _ p
  · refine (caseItems_mirrors h (item :: items) []).bind fun cases => ?_
    rw [UnionLayout.ofCases_relocate]
    exact .ok (Layout.union (.ofCases cases))

theorem declaration_mirrors (h : t.Carries r t') (i : Identifier) (package : PackageName) (d : Definition Target) :
    Attempt.Mirrors (.relocate r) (.relocate r) (declaration c t i package d)
      (declaration c t' (r.identifier i) package (d.map r.position (.relocate r))) :=
  (layout_mirrors h d).bind fun layout => .ok (⟨i, package, d.name, d.position, layout⟩ : Declaration)

end Check

end RecordSchema
