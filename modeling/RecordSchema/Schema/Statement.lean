import RecordSchema.Schema.TypeExpr

namespace RecordSchema

inductive RecordItem (ρ : Type) where
  | field (name : FieldName) (type : TypeExpr ρ) (position : Position)
  | padding (octets : SizeExpr ρ) (position : Position)
deriving DecidableEq, Repr

inductive PackedItem (ρ : Type) where
  | field (name : FieldName) (type : TypeExpr ρ) (position : Position)
  | padding (bits : SizeExpr ρ) (position : Position)
deriving DecidableEq, Repr

structure CaseItem (ρ : Type) where
  name : CaseName
  type : TypeExpr ρ
  position : Position
deriving DecidableEq, Repr

inductive Body (ρ : Type) where
  | record (items : List (RecordItem ρ))
  | packed (items : List (PackedItem ρ))
  | union (cases : List (CaseItem ρ))
deriving DecidableEq, Repr

def Body.keyword {ρ : Type} : Body ρ → String
  | record _ => "record"
  | packed _ => "packed"
  | union _ => "union"

structure Definition (ρ : Type) where
  name : TypeName
  body : Body ρ
  position : Position
deriving DecidableEq, Repr

inductive Statement where
  | packageBegin (name : PackageName) (position : Position)
  | packageEnd (position : Position)
  | importPackage (package : PackageName) (qualifier : Segment) (position : Position)
  | define (definition : Definition Mention)
  | showType (type : TypeExpr Mention) (position : Position)
  | showSize (size : SizeExpr Mention) (position : Position)
deriving DecidableEq, Repr

def Statement.position : Statement → Position
  | packageBegin _ p => p
  | packageEnd p => p
  | importPackage _ _ p => p
  | define d => d.position
  | showType _ p => p
  | showSize _ p => p

/-- A statement whose names have been found: a closed package is named, an import is bound, and a
declaration has its identifier and its package. -/
inductive BoundStatement where
  | packageBegin (name : PackageName) (position : Position)
  | packageEnd (name : PackageName) (position : Position)
  | imported (package : PackageName) (position : Position)
  | define (identifier : Identifier) (package : PackageName) (definition : Definition Target)
  | showType (type : TypeExpr Target) (position : Position)
  | showSize (size : SizeExpr Target) (position : Position)
deriving DecidableEq, Repr

end RecordSchema
