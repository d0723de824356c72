import RecordSchema.Proofs.Relocation.Effect

namespace RecordSchema

namespace Relocation

@[simp] lemma target_same : Target.relocate .same = id := rfl

@[simp] lemma import_same : Import.relocate .same = id := by
  funext i
  simp [Import.relocate]

@[simp] lemma resolveError_same : ResolveError.relocate .same = id := by
  funext e
  simp [ResolveError.relocate]

@[simp] lemma diagnostic_same : Diagnostic.relocate .same = id := by
  funext d
  cases d <;> simp [ReadError.relocate, ParseError.relocate, CheckError.relocate]

lemma dataType_same : ∀ type : DataType, type.relocate .same = type
  | .vector element _ => by simp [dataType_same element]
  | .matrix element _ _ => by simp [dataType_same element]
  | .integer .. | .float _ | .booleanSet .. | .string .. | .declared .. => rfl

@[simp] lemma layout_same : Layout.relocate .same = id := by
  have hrecord : RecordMember.relocate .same = id := by
    funext m
    cases m <;> simp [RecordField.relocate, dataType_same]
  have hpacked : PackedMember.relocate .same = id := by
    funext m
    cases m <;> simp [PackedField.relocate, dataType_same]
  have hcase : UnionCase.relocate .same = id := by
    funext c
    simp [UnionCase.relocate, dataType_same]
  funext layout
  cases layout <;> simp [RecordLayout.relocate, PackedLayout.relocate, UnionLayout.relocate, hrecord, hpacked, hcase]

@[simp] lemma declaration_same : Declaration.relocate .same = id := by
  funext d
  simp only [Declaration.relocate, layout_same]
  rfl

@[simp] lemma package_same : Package.relocate .same = id := by
  funext p
  simp [Package.relocate]

lemma scope_same (s : Scope) : s.relocate .same = s := by
  have htypes : s.types.mapValues Relocation.same.identifier Relocation.same.identifier_injective = s.types :=
    OneToOne.ext_pairs (List.map_id' s.types.pairs)
  rw [Scope.relocate, htypes, package_same, List.map_id]

@[simp] lemma commandResult_same : CommandResult.relocate .same = id := by
  funext result
  cases result <;> simp [dataType_same]

@[simp] lemma fileState_same : FileState.relocate .same = id := by
  funext f
  simp [FileState.relocate, Collector.relocate, scope_same]

@[simp] lemma effect_same : Effect.relocate .same = id := by
  funext e
  cases e with
  | taken f out => cases out <;> simp
  | declares package d => simp [Definition.map_id]
  | asks => simp

end Relocation

lemma Attempt.Mirrors.eq_or_fault {ε α : Type} {x y : Attempt ε α} (h : Mirrors id id x y) :
    y = x ∨ ∃ fault, x = .error (.fault fault) := by
  cases h with
  | ok a => exact .inl rfl
  | error e => exact .inl rfl
  | fault fault => exact .inr ⟨fault, rfl⟩

def TypeTable.Within (t t' : TypeTable) : Prop :=
  ∀ i d, t.find? i = some d → t'.find? i = some d

namespace TypeTable.Within

variable {c : Capabilities} {t t' : TypeTable}

lemma carries (h : t.Within t') : t.Carries .same t' := by
  intro i d hd
  rw [Relocation.declaration_same]
  exact h i d hd

lemma effect_eq_or_fault (h : t.Within t') (f : FileState) (e : Expr) :
    f.effect c t' e = f.effect c t e ∨ ∃ fault, f.effect c t e = .error (.fault fault) := by
  have hmirrors := f.effect_mirrors (c := c) h.carries e
  rw [Relocation.diagnostic_same, Relocation.effect_same, Relocation.fileState_same, Relocation.expr_same] at hmirrors
  exact hmirrors.eq_or_fault

lemma settle_eq_or_fault (h : t.Within t') (f : FileState) (i : Identifier) (package : PackageName)
    (d : Definition Target) : f.settle c t' i package d = f.settle c t i package d ∨
      ∃ fault, f.settle c t i package d = .error (.fault fault) := by
  have hmirrors := f.settle_mirrors (c := c) h.carries i package d
  have hdefinition : d.map Relocation.same.position (Target.relocate .same) = d := d.map_id
  rw [Relocation.diagnostic_same, Relocation.fileState_same, Relocation.declaration_same, hdefinition] at hmirrors
  exact hmirrors.eq_or_fault

end TypeTable.Within

end RecordSchema
