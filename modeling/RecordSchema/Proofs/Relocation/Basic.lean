import RecordSchema.Compile.File
import RecordSchema.Proofs.Schema.Mapped
import Mathlib.Logic.Function.Basic
import Mathlib.Tactic.Common

namespace RecordSchema

structure Relocation where
  position : Position → Position
  identifier : Identifier → Identifier
  identifier_injective : identifier.Injective

def Relocation.same : Relocation :=
  ⟨id, id, Function.injective_id⟩

namespace Relocation

@[simp] lemma position_same : Relocation.same.position = id := rfl

end Relocation

variable (r : Relocation)

namespace Expr

mutual

def relocate : Expr → Expr
  | atom text p => atom text (r.position p)
  | quoted text p => quoted text (r.position p)
  | list bracket items p => list bracket (relocateEach items) (r.position p)

def relocateEach : List Expr → List Expr
  | [] => []
  | e :: es => e.relocate :: relocateEach es

end

@[simp] lemma relocateEach_eq_map : ∀ es : List Expr, relocateEach r es = es.map (relocate r)
  | [] => rfl
  | e :: es => by rw [relocateEach, relocateEach_eq_map es, List.map_cons]

@[simp] lemma position_relocate (e : Expr) : (e.relocate r).position = r.position e.position := by
  cases e <;> rfl

@[simp] lemma describe_relocate (e : Expr) : (e.relocate r).describe = e.describe := by
  rcases e with _ | _ | ⟨_ | _, _, _⟩ <;> rfl

mutual

lemma chars_relocate : ∀ e : Expr, (e.relocate r).chars = e.chars
  | atom _ _ => rfl
  | quoted _ _ => rfl
  | list bracket items p => by rw [relocate, chars, chars, charsEach_relocateEach items]

lemma charsEach_relocateEach : ∀ es : List Expr, charsEach (relocateEach r es) = charsEach es
  | [] => rfl
  | e :: es => by rw [relocateEach, charsEach, charsEach, chars_relocate e, charsEach_relocateEach es]

end

@[simp] lemma render_relocate (e : Expr) : (e.relocate r).render = e.render := by
  rw [render, render, chars_relocate]

end Expr

namespace Relocation

mutual

lemma expr_same : ∀ e : Expr, e.relocate .same = e
  | .atom .. => rfl
  | .quoted .. => rfl
  | .list bracket items p => by rw [Expr.relocate, exprEach_same items, position_same, id_eq]

lemma exprEach_same : ∀ es : List Expr, Expr.relocateEach .same es = es
  | [] => rfl
  | e :: es => by rw [Expr.relocateEach, expr_same e, exprEach_same es]

end

end Relocation

@[simps] def ReadError.relocate (e : ReadError) : ReadError :=
  ⟨e.problem, r.position e.position⟩

@[simps] def Reading.relocate (x : Reading) : Reading :=
  ⟨x.exprs.map (.relocate r), x.error.map (.relocate r), r.position x.finish⟩

@[simps] def ParseError.relocate (e : ParseError) : ParseError :=
  ⟨e.problem, r.position e.position⟩

@[simps] def ResolveError.relocate (e : ResolveError) : ResolveError :=
  ⟨e.problem, e.position.map r.position⟩

@[simps] def CheckError.relocate (e : CheckError) : CheckError :=
  ⟨e.problem, r.position e.position⟩

@[simps] def Import.relocate (i : Import) : Import :=
  ⟨i.source, i.target, i.position.map r.position⟩

@[simp] def Diagnostic.relocate : Diagnostic → Diagnostic
  | lexical e => lexical (e.relocate r)
  | parse e => parse (e.relocate r)
  | resolution e => resolution (e.relocate r)
  | check e => check (e.relocate r)
  | circularImport path p => circularImport (path.map (.relocate r)) (p.map r.position)
  | unreadable package reason => unreadable package reason

@[simp] def Statement.relocate : Statement → Statement
  | packageBegin name p => packageBegin name (r.position p)
  | packageEnd p => packageEnd (r.position p)
  | importPackage package qualifier p => importPackage package qualifier (r.position p)
  | define d => define (d.map r.position id)
  | showType type p => showType (type.map r.position id) (r.position p)
  | showSize size p => showSize (size.map r.position id) (r.position p)

@[simps] def Target.relocate (target : Target) : Target :=
  { target with identifier := r.identifier target.identifier }

@[simp] def DataType.relocate : DataType → DataType
  | integer kind bits => integer kind bits
  | float bits => float bits
  | vector element count => vector element.relocate count
  | matrix element width height => matrix element.relocate width height
  | booleanSet flags octets => booleanSet flags octets
  | string encoding octets => string encoding octets
  | declared target bits => declared (target.relocate r) bits

namespace DataType

@[simp] lemma bits_relocate : ∀ type : DataType, (type.relocate r).bits = type.bits
  | vector element count => by simp only [relocate, bits, bits_relocate element]
  | matrix element width height => by simp only [relocate, bits, bits_relocate element]
  | integer .. | float _ | booleanSet .. | string .. | declared .. => rfl

@[simp] lemma isInteger_relocate (type : DataType) : (type.relocate r).isInteger = type.isInteger := by
  cases type <;> rfl

@[simp] lemma isScalar_relocate (type : DataType) : (type.relocate r).isScalar = type.isScalar := by
  cases type <;> rfl

@[simp] lemma identifier?_relocate (type : DataType) :
    (type.relocate r).identifier? = type.identifier?.map r.identifier := by
  cases type <;> rfl

lemma toExpr_relocate : ∀ type : DataType, (type.relocate r).toExpr = type.toExpr
  | vector element count => by simp only [relocate, toExpr, toExpr_relocate element]
  | matrix element width height => by simp only [relocate, toExpr, toExpr_relocate element]
  | integer .. | float _ | booleanSet .. | string .. | declared .. => rfl

@[simp] lemma render_relocate (type : DataType) : (type.relocate r).render = type.render := by
  rw [render, render, toExpr_relocate]

end DataType

@[simps] def RecordField.relocate (f : RecordField) : RecordField :=
  ⟨f.name, f.type.relocate r, f.offset, r.position f.position⟩

@[simp] def RecordMember.relocate : RecordMember → RecordMember
  | field f => field (f.relocate r)
  | padding offset octets p => padding offset octets (r.position p)

@[simps] def RecordLayout.relocate (layout : RecordLayout) : RecordLayout :=
  ⟨layout.members.map (.relocate r), layout.octets⟩

@[simp] def PackedSpec.relocate : PackedSpec → PackedSpec
  | field name type width p => field name (type.relocate r) width (r.position p)
  | padding width p => padding width (r.position p)

@[simps] def PackedField.relocate (f : PackedField) : PackedField :=
  ⟨f.name, f.type.relocate r, f.range, r.position f.position⟩

@[simp] def PackedMember.relocate : PackedMember → PackedMember
  | field f => field (f.relocate r)
  | padding range p => padding range (r.position p)

@[simps] def PackedLayout.relocate (layout : PackedLayout) : PackedLayout :=
  ⟨layout.members.map (.relocate r), layout.bits⟩

@[simps] def UnionCase.relocate (c : UnionCase) : UnionCase :=
  ⟨c.name, c.type.relocate r, r.position c.position⟩

@[simps] def UnionLayout.relocate (layout : UnionLayout) : UnionLayout :=
  ⟨layout.cases.map (.relocate r), layout.bits⟩

@[simp] def Layout.relocate : Layout → Layout
  | record layout => record (layout.relocate r)
  | packed layout => packed (layout.relocate r)
  | union layout => union (layout.relocate r)

@[simps] def Declaration.relocate (d : Declaration) : Declaration :=
  ⟨r.identifier d.identifier, d.package, d.name, r.position d.position, d.layout.relocate r⟩

@[simps] def Package.relocate (p : Package) : Package :=
  ⟨p.name, p.declarations.map (.relocate r)⟩

@[simps] def TypeTable.relocate (t : TypeTable) : TypeTable :=
  ⟨t.declarations.map (.relocate r)⟩

lemma find?_map_of_eq {α β : Type} {f : α → β} {p : α → Bool} {q : β → Bool} (h : ∀ a, q (f a) = p a)
    (items : List α) : (items.map f).find? q = (items.find? p).map f := by
  rw [List.find?_map]
  congr 2
  funext a
  exact h a

lemma filterMap_map_of_eq {α β : Type} {f : α → α} {g : β → β} {h : α → Option β} (heq : ∀ a, h (f a) = (h a).map g)
    (items : List α) : (items.map f).filterMap h = (items.filterMap h).map g := by
  rw [List.filterMap_map, List.map_filterMap]
  congr 1
  funext a
  exact heq a

@[simp] lemma RecordLayout.field?_relocate (layout : RecordLayout) (name : FieldName) :
    (layout.relocate r).field? name = (layout.field? name).map (.relocate r) := by
  rw [field?, fields, relocate_members, filterMap_map_of_eq (g := .relocate r) (by rintro (_ | _) <;> rfl),
    ← List.map_reverse]
  exact find?_map_of_eq (fun _ => rfl) _

@[simp] lemma PackedLayout.field?_relocate (layout : PackedLayout) (name : FieldName) :
    (layout.relocate r).field? name = (layout.field? name).map (.relocate r) := by
  rw [field?, fields, relocate_members, filterMap_map_of_eq (g := .relocate r) (by rintro (_ | _) <;> rfl),
    ← List.map_reverse]
  exact find?_map_of_eq (fun _ => rfl) _

@[simp] lemma UnionLayout.case?_relocate (layout : UnionLayout) (name : CaseName) :
    (layout.relocate r).case? name = (layout.case? name).map (.relocate r) :=
  find?_map_of_eq (fun _ => rfl) _

namespace Declaration

@[simp] lemma bits_relocate (d : Declaration) : (d.relocate r).bits = d.bits := by
  obtain ⟨_, _, _, _, _ | _ | _⟩ := d <;> rfl

@[simp] lemma toType_relocate (d : Declaration) : (d.relocate r).toType = d.toType.relocate r := by
  rw [toType, bits_relocate]
  rfl

@[simp] lemma memberType?_relocate (d : Declaration) (name : FieldName) :
    (d.relocate r).memberType? name = (d.memberType? name).map (.relocate r) := by
  obtain ⟨_, _, _, _, layout | layout | layout⟩ := d
  · change ((layout.relocate r).field? name).map _ = ((layout.field? name).map _).map _
    rw [RecordLayout.field?_relocate, Option.map_map, Option.map_map]
    rfl
  · change ((layout.relocate r).field? name).map _ = ((layout.field? name).map _).map _
    rw [PackedLayout.field?_relocate, Option.map_map, Option.map_map]
    rfl
  · change ((layout.relocate r).case? name.toCase).map _ = ((layout.case? name.toCase).map _).map _
    rw [UnionLayout.case?_relocate, Option.map_map, Option.map_map]
    rfl

end Declaration

@[simp] lemma Package.find?_relocate (p : Package) (name : TypeName) :
    (p.relocate r).find? name = (p.find? name).map (.relocate r) :=
  find?_map_of_eq (fun _ => rfl) _

lemma TypeTable.find?_relocate (t : TypeTable) (i : Identifier) :
    (t.relocate r).find? (r.identifier i) = (t.find? i).map (.relocate r) :=
  find?_map_of_eq (fun d => by simp [r.identifier_injective.eq_iff]) _

end RecordSchema
