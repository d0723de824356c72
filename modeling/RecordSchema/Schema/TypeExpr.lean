import RecordSchema.Name.Package
import RecordSchema.Source.Position

namespace RecordSchema

inductive IntegerKind where
  | signed
  | unsigned
  | signedNormalized
  | unsignedNormalized
deriving DecidableEq, Repr

namespace IntegerKind

def keyword : IntegerKind → String
  | signed => "signed"
  | unsigned => "unsigned"
  | signedNormalized => "signed-normalized"
  | unsignedNormalized => "unsigned-normalized"

def ofKeyword? : String → Option IntegerKind
  | "signed" => some signed
  | "unsigned" => some unsigned
  | "signed-normalized" => some signedNormalized
  | "unsigned-normalized" => some unsignedNormalized
  | _ => none

theorem ofKeyword?_keyword (k : IntegerKind) : ofKeyword? k.keyword = some k := by
  cases k <;> rfl

theorem keyword_of_ofKeyword? {word : String} {k : IntegerKind} (h : ofKeyword? word = some k) :
    k.keyword = word := by
  unfold ofKeyword? at h
  split at h <;> cases h <;> rfl

end IntegerKind

structure Identifier where
  value : Nat
deriving DecidableEq, Repr, Inhabited

def Identifier.render (i : Identifier) : String :=
  "#" ++ toString i.value

structure Mention where
  qualifier : Option Segment
  name : TypeName
deriving DecidableEq, Repr

def Mention.render (m : Mention) : String :=
  match m.qualifier with
  | none => m.name.text
  | some qualifier => qualifier.text ++ "." ++ m.name.text

structure Target where
  identifier : Identifier
  package : PackageName
  name : TypeName
deriving DecidableEq, Repr

mutual

inductive TypeExpr (ρ : Type) where
  | integer (kind : IntegerKind) (bits : SizeExpr ρ) (position : Position)
  | float (bits : SizeExpr ρ) (position : Position)
  | vector (element : TypeExpr ρ) (count : SizeExpr ρ) (position : Position)
  | matrix (element : TypeExpr ρ) (width height : SizeExpr ρ) (position : Position)
  | booleanSet (octets : SizeExpr ρ) (flags : List (FieldName × Position)) (position : Position)
  | string (octets : SizeExpr ρ) (encoding : String) (position : Position)
  | reference (target : ρ) (position : Position)
  | typeOf (target : ρ) (targetPosition : Position) (path : List FieldName) (position : Position)

inductive SizeExpr (ρ : Type) where
  | constant (value : Nat) (position : Position)
  | inOctets (of : TypeExpr ρ) (position : Position)
  | inBits (of : TypeExpr ρ) (position : Position)

end

deriving instance DecidableEq, Repr for TypeExpr, SizeExpr

def TypeExpr.position {ρ : Type} : TypeExpr ρ → Position
  | integer _ _ p => p
  | float _ p => p
  | vector _ _ p => p
  | matrix _ _ _ p => p
  | booleanSet _ _ p => p
  | string _ _ p => p
  | reference _ p => p
  | typeOf _ _ _ p => p

def SizeExpr.position {ρ : Type} : SizeExpr ρ → Position
  | constant _ p => p
  | inOctets _ p => p
  | inBits _ p => p

end RecordSchema
