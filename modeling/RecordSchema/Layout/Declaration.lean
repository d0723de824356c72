import RecordSchema.Layout.Packed
import RecordSchema.Layout.Record
import RecordSchema.Layout.Union

namespace RecordSchema

inductive Layout where
  | record (layout : RecordLayout)
  | packed (layout : PackedLayout)
  | union (layout : UnionLayout)
deriving DecidableEq, Repr

structure Declaration where
  identifier : Identifier
  package : PackageName
  name : TypeName
  position : Position
  layout : Layout
deriving DecidableEq, Repr

namespace Declaration

def bits (d : Declaration) : Nat :=
  match d.layout with
  | .record r => r.octets * 8
  | .packed p => p.bits
  | .union u => u.bits

/-- The type of a member. Cases of unions are found by the names that fields have. -/
def memberType? (d : Declaration) (name : FieldName) : Option DataType :=
  match d.layout with
  | .record r => (r.field? name).map (·.type)
  | .packed p => (p.field? name).map (·.type)
  | .union u => (u.case? name.toCase).map (·.type)

def target (d : Declaration) : Target :=
  ⟨d.identifier, d.package, d.name⟩

def toType (d : Declaration) : DataType :=
  .declared d.target d.bits

def keyword (d : Declaration) : String :=
  match d.layout with
  | .record _ => "record"
  | .packed _ => "packed"
  | .union _ => "union"

def fullName (d : Declaration) : String :=
  d.package.render ++ "." ++ d.name.text

end Declaration

structure Package where
  name : PackageName
  declarations : List Declaration := []
deriving DecidableEq, Repr

def Package.find? (p : Package) (name : TypeName) : Option Declaration :=
  p.declarations.find? (·.name = name)

end RecordSchema
