import RecordSchema.Collection.Upsert
import RecordSchema.Layout.DataType

namespace RecordSchema

structure UnionCase where
  name : CaseName
  type : DataType
  position : Position
deriving DecidableEq, Repr

structure UnionLayout where
  cases : List UnionCase
  bits : Nat
deriving DecidableEq, Repr

namespace UnionLayout

/-- A union is as large as its largest case. A case whose name was given before takes the earlier one's
place. -/
def ofCases (cases : List UnionCase) : UnionLayout where
  cases := cases.foldl (fun kept c => upsert UnionCase.name c kept) []
  bits := (cases.map (·.type.bits)).foldl max 0

def case? (u : UnionLayout) (name : CaseName) : Option UnionCase :=
  u.cases.find? (·.name = name)

end UnionLayout

end RecordSchema
