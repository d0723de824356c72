import RecordSchema.Proofs.Relocation.Parsing
import RecordSchema.Proofs.Relocation.Reading
import RecordSchema.Proofs.Schema.Grammar

namespace RecordSchema

section

variable {ρ : Type} (P : Position → Prop)

mutual

def TypeExpr.All : TypeExpr ρ → Prop
  | .integer _ bits p => bits.All ∧ P p
  | .float bits p => bits.All ∧ P p
  | .vector element count p => element.All ∧ count.All ∧ P p
  | .matrix element width height p => element.All ∧ width.All ∧ height.All ∧ P p
  | .booleanSet octets flags p => octets.All ∧ (∀ flag ∈ flags, P flag.2) ∧ P p
  | .string octets _ p => octets.All ∧ P p
  | .reference _ p => P p
  | .typeOf _ q _ p => P q ∧ P p

def SizeExpr.All : SizeExpr ρ → Prop
  | .constant _ p => P p
  | .inOctets of p => of.All ∧ P p
  | .inBits of p => of.All ∧ P p

end

def RecordItem.All : RecordItem ρ → Prop
  | .field _ type p => type.All P ∧ P p
  | .padding octets p => octets.All P ∧ P p

def PackedItem.All : PackedItem ρ → Prop
  | .field _ type p => type.All P ∧ P p
  | .padding bits p => bits.All P ∧ P p

def CaseItem.All (item : CaseItem ρ) : Prop :=
  item.type.All P ∧ P item.position

def Body.All : Body ρ → Prop
  | .record items => ∀ item ∈ items, item.All P
  | .packed items => ∀ item ∈ items, item.All P
  | .union cases => ∀ item ∈ cases, item.All P

def Definition.All (d : Definition ρ) : Prop :=
  d.body.All P ∧ P d.position

def Statement.All : Statement → Prop
  | .packageBegin _ p => P p
  | .packageEnd p => P p
  | .importPackage _ _ p => P p
  | .define d => d.All P
  | .showType type p => type.All P ∧ P p
  | .showSize size p => size.All P ∧ P p

lemma TypeExpr.All.position {P : Position → Prop} {type : TypeExpr ρ} (h : type.All P) : P type.position := by
  cases type with
  | integer | float | string | typeOf => exact h.2
  | vector | booleanSet => exact h.2.2
  | matrix => exact h.2.2.2
  | reference => exact h

end

section

variable {ρ : Type} {f : Position → Position}

mutual

lemma TypeExpr.all_of_map : ∀ {type : TypeExpr ρ}, type.map f id = type → type.All fun p => f p = p
  | .integer .., h => by
    obtain ⟨-, hbits, hp⟩ := TypeExpr.integer.inj h
    exact ⟨SizeExpr.all_of_map hbits, hp⟩
  | .float .., h => by
    obtain ⟨hbits, hp⟩ := TypeExpr.float.inj h
    exact ⟨SizeExpr.all_of_map hbits, hp⟩
  | .vector .., h => by
    obtain ⟨helement, hcount, hp⟩ := TypeExpr.vector.inj h
    exact ⟨TypeExpr.all_of_map helement, SizeExpr.all_of_map hcount, hp⟩
  | .matrix .., h => by
    obtain ⟨helement, hwidth, hheight, hp⟩ := TypeExpr.matrix.inj h
    exact ⟨TypeExpr.all_of_map helement, SizeExpr.all_of_map hwidth, SizeExpr.all_of_map hheight, hp⟩
  | .booleanSet .., h => by
    obtain ⟨hoctets, hflags, hp⟩ := TypeExpr.booleanSet.inj h
    refine ⟨SizeExpr.all_of_map hoctets, fun flag hflag => ?_, hp⟩
    exact (Prod.mk.inj (List.map_inj_left.mp (hflags.trans (List.map_id _).symm) flag hflag)).2
  | .string .., h => by
    obtain ⟨hoctets, -, hp⟩ := TypeExpr.string.inj h
    exact ⟨SizeExpr.all_of_map hoctets, hp⟩
  | .reference .., h => (TypeExpr.reference.inj h).2
  | .typeOf .., h => by
    obtain ⟨-, hq, -, hp⟩ := TypeExpr.typeOf.inj h
    exact ⟨hq, hp⟩

lemma SizeExpr.all_of_map : ∀ {size : SizeExpr ρ}, size.map f id = size → size.All fun p => f p = p
  | .constant .., h => (SizeExpr.constant.inj h).2
  | .inOctets .., h => by
    obtain ⟨hof, hp⟩ := SizeExpr.inOctets.inj h
    exact ⟨TypeExpr.all_of_map hof, hp⟩
  | .inBits .., h => by
    obtain ⟨hof, hp⟩ := SizeExpr.inBits.inj h
    exact ⟨TypeExpr.all_of_map hof, hp⟩

end

lemma RecordItem.all_of_map {item : RecordItem ρ} (h : item.map f id = item) : item.All fun p => f p = p := by
  cases item with
  | field =>
    obtain ⟨-, htype, hp⟩ := RecordItem.field.inj h
    exact ⟨TypeExpr.all_of_map htype, hp⟩
  | padding =>
    obtain ⟨hoctets, hp⟩ := RecordItem.padding.inj h
    exact ⟨SizeExpr.all_of_map hoctets, hp⟩

lemma PackedItem.all_of_map {item : PackedItem ρ} (h : item.map f id = item) : item.All fun p => f p = p := by
  cases item with
  | field =>
    obtain ⟨-, htype, hp⟩ := PackedItem.field.inj h
    exact ⟨TypeExpr.all_of_map htype, hp⟩
  | padding =>
    obtain ⟨hbits, hp⟩ := PackedItem.padding.inj h
    exact ⟨SizeExpr.all_of_map hbits, hp⟩

lemma CaseItem.all_of_map {item : CaseItem ρ} (h : item.map f id = item) : item.All fun p => f p = p := by
  obtain ⟨-, htype, hp⟩ := CaseItem.mk.inj h
  exact ⟨TypeExpr.all_of_map htype, hp⟩

lemma Body.all_of_map {body : Body ρ} (h : body.map f id = body) : body.All fun p => f p = p := by
  cases body with
  | record items =>
    have hitems := (Body.record.inj h).trans (List.map_id _).symm
    exact fun item hitem => RecordItem.all_of_map (List.map_inj_left.mp hitems item hitem)
  | packed items =>
    have hitems := (Body.packed.inj h).trans (List.map_id _).symm
    exact fun item hitem => PackedItem.all_of_map (List.map_inj_left.mp hitems item hitem)
  | union cases =>
    have hitems := (Body.union.inj h).trans (List.map_id _).symm
    exact fun item hitem => CaseItem.all_of_map (List.map_inj_left.mp hitems item hitem)

lemma Definition.all_of_map {d : Definition ρ} (h : d.map f id = d) : d.All fun p => f p = p := by
  obtain ⟨-, hbody, hp⟩ := Definition.mk.inj h
  exact ⟨Body.all_of_map hbody, hp⟩

end

open Classical in
noncomputable def Relocation.keeping (P : Position → Prop) : Relocation :=
  ⟨fun p => if P p then p else ⟨p.file, p.line + 1, p.column, p.span⟩, id, Function.injective_id⟩

namespace Expr

lemma position_of_toStatement {e : Expr} {statement : Statement} (h : e.toStatement = .ok statement) :
    statement.position = e.position := by
  have hmatches := (toStatement_eq_ok_iff.mp h).2
  cases statement <;> obtain ⟨_, _, rfl, _⟩ := matches_form_iff.mp hmatches <;> rfl

end Expr

end RecordSchema
