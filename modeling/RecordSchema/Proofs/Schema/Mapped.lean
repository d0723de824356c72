import RecordSchema.Schema.Statement
import Mathlib.Tactic.Common

namespace RecordSchema

section

variable {ρ σ : Type} (place : Position → Position) (h : ρ → σ)

mutual

def TypeExpr.map : TypeExpr ρ → TypeExpr σ
  | .integer kind bits p => .integer kind bits.map (place p)
  | .float bits p => .float bits.map (place p)
  | .vector element count p => .vector element.map count.map (place p)
  | .matrix element width height p => .matrix element.map width.map height.map (place p)
  | .booleanSet octets flags p => .booleanSet octets.map (flags.map fun flag => (flag.1, place flag.2)) (place p)
  | .string octets encoding p => .string octets.map encoding (place p)
  | .reference target p => .reference (h target) (place p)
  | .typeOf target tp path p => .typeOf (h target) (place tp) path (place p)

def SizeExpr.map : SizeExpr ρ → SizeExpr σ
  | .constant value p => .constant value (place p)
  | .inOctets of p => .inOctets of.map (place p)
  | .inBits of p => .inBits of.map (place p)

end

@[simp] lemma TypeExpr.position_map (type : TypeExpr ρ) : (type.map place h).position = place type.position := by
  cases type <;> simp only [map, position]

@[simp] def RecordItem.map : RecordItem ρ → RecordItem σ
  | .field name type p => .field name (type.map place h) (place p)
  | .padding octets p => .padding (octets.map place h) (place p)

@[simp] def PackedItem.map : PackedItem ρ → PackedItem σ
  | .field name type p => .field name (type.map place h) (place p)
  | .padding bits p => .padding (bits.map place h) (place p)

@[simps] def CaseItem.map (item : CaseItem ρ) : CaseItem σ :=
  ⟨item.name, item.type.map place h, place item.position⟩

@[simp] def Body.map : Body ρ → Body σ
  | .record items => .record (items.map (.map place h))
  | .packed items => .packed (items.map (.map place h))
  | .union cases => .union (cases.map (.map place h))

@[simps] def Definition.map (d : Definition ρ) : Definition σ :=
  ⟨d.name, d.body.map place h, place d.position⟩

end

section

variable {ρ : Type}

mutual

def TypeExpr.uses : TypeExpr ρ → List (ρ × List FieldName)
  | .integer _ bits _ => bits.uses
  | .float bits _ => bits.uses
  | .vector element count _ => element.uses ++ count.uses
  | .matrix element width height _ => element.uses ++ (width.uses ++ height.uses)
  | .booleanSet octets _ _ => octets.uses
  | .string octets _ _ => octets.uses
  | .reference target _ => [(target, [])]
  | .typeOf target _ path _ => [(target, path)]

def SizeExpr.uses : SizeExpr ρ → List (ρ × List FieldName)
  | .constant _ _ => []
  | .inOctets of _ => of.uses
  | .inBits of _ => of.uses

end

mutual

lemma TypeExpr.map_id : ∀ type : TypeExpr ρ, type.map id id = type
  | .integer _ bits _ => by simp [TypeExpr.map, SizeExpr.map_id bits]
  | .float bits _ => by simp [TypeExpr.map, SizeExpr.map_id bits]
  | .vector element count _ => by simp [TypeExpr.map, TypeExpr.map_id element, SizeExpr.map_id count]
  | .matrix element width height _ => by
    simp [TypeExpr.map, TypeExpr.map_id element, SizeExpr.map_id width, SizeExpr.map_id height]
  | .booleanSet octets _ _ => by simp [TypeExpr.map, SizeExpr.map_id octets]
  | .string octets _ _ => by simp [TypeExpr.map, SizeExpr.map_id octets]
  | .reference .. => rfl
  | .typeOf .. => rfl

lemma SizeExpr.map_id : ∀ size : SizeExpr ρ, size.map id id = size
  | .constant .. => rfl
  | .inOctets of _ => by simp [SizeExpr.map, TypeExpr.map_id of]
  | .inBits of _ => by simp [SizeExpr.map, TypeExpr.map_id of]

end

lemma Definition.map_id (d : Definition ρ) : d.map id id = d := by
  have hrecord : RecordItem.map id (id : ρ → ρ) = id := by
    funext item
    cases item <;> simp [TypeExpr.map_id, SizeExpr.map_id]
  have hpacked : PackedItem.map id (id : ρ → ρ) = id := by
    funext item
    cases item <;> simp [TypeExpr.map_id, SizeExpr.map_id]
  have hcase : CaseItem.map id (id : ρ → ρ) = id := by
    funext item
    simp [CaseItem.map, TypeExpr.map_id]
  obtain ⟨name, body, p⟩ := d
  cases body <;> simp [Definition.map, hrecord, hpacked, hcase]

end

end RecordSchema
