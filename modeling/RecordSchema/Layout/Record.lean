import RecordSchema.Layout.DataType

namespace RecordSchema

structure RecordField where
  name : FieldName
  type : DataType
  /-- Distance from the start of the record, in octets. -/
  offset : Nat
  position : Position
deriving DecidableEq, Repr

inductive RecordMember where
  | field (field : RecordField)
  | padding (offset octets : Nat) (position : Position)
deriving DecidableEq, Repr

def RecordMember.field? : RecordMember → Option RecordField
  | field f => some f
  | padding .. => none

structure RecordLayout where
  members : List RecordMember
  octets : Nat
deriving DecidableEq, Repr

namespace RecordLayout

def fields (r : RecordLayout) : List RecordField :=
  r.members.filterMap RecordMember.field?

def field? (r : RecordLayout) (name : FieldName) : Option RecordField :=
  r.fields.reverse.find? (·.name = name)

end RecordLayout

end RecordSchema
