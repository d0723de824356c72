import RecordSchema.Proofs.Relocation.Reading

namespace RecordSchema

/-- New numbers for files and for declarations. Different declarations keep different numbers. -/
structure Renaming where
  file : FileId → FileId
  identifier : Identifier → Identifier
  identifier_injective : identifier.Injective

variable (r : Renaming)

@[simps] def Position.rename (p : Position) : Position :=
  { p with file := r.file p.file }

@[simps, coe] def Renaming.toRelocation : Relocation :=
  ⟨.rename r, r.identifier, r.identifier_injective⟩

instance : Coe Renaming Relocation :=
  ⟨Renaming.toRelocation⟩

@[simps] def ReadError.rename (e : ReadError) : ReadError :=
  ⟨e.problem, e.position.rename r⟩

@[simps] def ParseError.rename (e : ParseError) : ParseError :=
  ⟨e.problem, e.position.rename r⟩

@[simps] def ResolveError.rename (e : ResolveError) : ResolveError :=
  ⟨e.problem, e.position.map (.rename r)⟩

@[simps] def CheckError.rename (e : CheckError) : CheckError :=
  ⟨e.problem, e.position.rename r⟩

@[simps] def Import.rename (i : Import) : Import :=
  ⟨i.source, i.target, i.position.map (.rename r)⟩

@[simp] def Diagnostic.rename : Diagnostic → Diagnostic
  | lexical e => lexical (e.rename r)
  | parse e => parse (e.rename r)
  | resolution e => resolution (e.rename r)
  | check e => check (e.rename r)
  | circularImport path p => circularImport (path.map (.rename r)) (p.map (.rename r))
  | unreadable package reason => unreadable package reason

@[simps] def Target.rename (target : Target) : Target :=
  { target with identifier := r.identifier target.identifier }

@[simp] def DataType.rename : DataType → DataType
  | integer kind bits => integer kind bits
  | float bits => float bits
  | vector element count => vector element.rename count
  | matrix element width height => matrix element.rename width height
  | booleanSet flags octets => booleanSet flags octets
  | string encoding octets => string encoding octets
  | declared target bits => declared (target.rename r) bits

@[simps] def RecordField.rename (f : RecordField) : RecordField :=
  ⟨f.name, f.type.rename r, f.offset, f.position.rename r⟩

@[simp] def RecordMember.rename : RecordMember → RecordMember
  | field f => field (f.rename r)
  | padding offset octets p => padding offset octets (p.rename r)

@[simps] def RecordLayout.rename (layout : RecordLayout) : RecordLayout :=
  ⟨layout.members.map (.rename r), layout.octets⟩

@[simps] def PackedField.rename (f : PackedField) : PackedField :=
  ⟨f.name, f.type.rename r, f.range, f.position.rename r⟩

@[simp] def PackedMember.rename : PackedMember → PackedMember
  | field f => field (f.rename r)
  | padding range p => padding range (p.rename r)

@[simps] def PackedLayout.rename (layout : PackedLayout) : PackedLayout :=
  ⟨layout.members.map (.rename r), layout.bits⟩

@[simps] def UnionCase.rename (c : UnionCase) : UnionCase :=
  ⟨c.name, c.type.rename r, c.position.rename r⟩

@[simps] def UnionLayout.rename (layout : UnionLayout) : UnionLayout :=
  ⟨layout.cases.map (.rename r), layout.bits⟩

@[simp] def Layout.rename : Layout → Layout
  | record layout => record (layout.rename r)
  | packed layout => packed (layout.rename r)
  | union layout => union (layout.rename r)

@[simps] def Declaration.rename (d : Declaration) : Declaration :=
  ⟨r.identifier d.identifier, d.package, d.name, d.position.rename r, d.layout.rename r⟩

@[simps] def Package.rename (p : Package) : Package :=
  ⟨p.name, p.declarations.map (.rename r)⟩

namespace Renaming

lemma diagnostic_eq : Diagnostic.rename r = Diagnostic.relocate r := by
  have himport : Import.rename r = Import.relocate r := rfl
  funext d
  cases d with
  | circularImport => rw [Diagnostic.rename, Diagnostic.relocate, himport]; rfl
  | _ => rfl

lemma dataType_eq : ∀ type : DataType, type.rename r = type.relocate r
  | .vector element _ => by rw [DataType.rename, DataType.relocate, dataType_eq element]
  | .matrix element _ _ => by rw [DataType.rename, DataType.relocate, dataType_eq element]
  | .integer .. | .float _ | .booleanSet .. | .string .. | .declared .. => rfl

lemma layout_eq : Layout.rename r = Layout.relocate r := by
  have hrecord : RecordMember.rename r = RecordMember.relocate r := by
    funext m
    cases m <;> simp [RecordField.rename, RecordField.relocate, dataType_eq]
  have hpacked : PackedMember.rename r = PackedMember.relocate r := by
    funext m
    cases m <;> simp [PackedField.rename, PackedField.relocate, dataType_eq]
  have hcase : UnionCase.rename r = UnionCase.relocate r := by
    funext c
    simp [UnionCase.rename, UnionCase.relocate, dataType_eq]
  funext layout
  cases layout <;> simp [RecordLayout.rename, RecordLayout.relocate, PackedLayout.rename, PackedLayout.relocate,
    UnionLayout.rename, UnionLayout.relocate, hrecord, hpacked, hcase]

lemma package_eq : Package.rename r = Package.relocate r := by
  have hdeclaration : Declaration.rename r = Declaration.relocate r := by
    funext d
    rw [Declaration.rename, Declaration.relocate, layout_eq]
    rfl
  funext p
  rw [Package.rename, Package.relocate, hdeclaration]

end Renaming

lemma Expr.Reader.moves_rename (r : Renaming) (file : FileId) : Moves r id file (r.file file) where
  advance_eq _ _ := rfl
  upTo_eq _ _ := rfl
  cover_eq _ _ := rfl

lemma Expr.read_rename (r : Renaming) (k : FileId) (text : String) :
    Expr.read (r.file k) text = (Expr.read k text).relocate r := by
  have hinitial : (Reader.State.reading {}).Moved (r : Relocation) id [] (.reading {}) := .reading ⟨rfl, rfl, .outside⟩
  have hm := Reader.moves_rename r k
  obtain ⟨hexprs, herror, hfinish⟩ := (hinitial.run hm text.toList).finish hm
  exact congr (congr (congrArg Reading.mk hexprs) herror) hfinish

end RecordSchema
