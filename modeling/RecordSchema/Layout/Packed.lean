import RecordSchema.Collection.Interval
import RecordSchema.Layout.Fault

namespace RecordSchema

abbrev BitRange := Interval

def BitRange.ofBounds (lower upper : Nat) : Except Fault BitRange :=
  if h : lower ≤ upper then .ok ⟨lower, upper, h⟩ else .error .bitRangeInverted

inductive PackedSpec where
  | field (name : FieldName) (type : DataType) (width : Nat) (position : Position)
  | padding (width : Nat) (position : Position)
deriving DecidableEq, Repr

def PackedSpec.width : PackedSpec → Nat
  | field _ _ width _ => width
  | padding width _ => width

structure PackedField where
  name : FieldName
  type : DataType
  range : BitRange
  position : Position
deriving DecidableEq, Repr

inductive PackedMember where
  | field (field : PackedField)
  | padding (range : BitRange) (position : Position)
deriving DecidableEq, Repr

namespace PackedMember

def range : PackedMember → BitRange
  | field f => f.range
  | padding range _ => range

def field? : PackedMember → Option PackedField
  | field f => some f
  | padding .. => none

end PackedMember

def PackedSpec.place (range : BitRange) : PackedSpec → PackedMember
  | field name type _ position => .field ⟨name, type, range, position⟩
  | padding _ position => .padding range position

structure PackedLayout where
  members : List PackedMember
  bits : Nat
deriving DecidableEq, Repr

namespace PackedLayout

/-- Members lie side by side; the last one declared takes the least significant bits. -/
def place : List PackedSpec → Except Fault PackedLayout
  | [] => .ok ⟨[], 0⟩
  | spec :: later => do
    let below ← place later
    if spec.width = 0 then .error .zeroWidth
    else
      let range ← BitRange.ofBounds below.bits (below.bits + spec.width - 1)
      .ok ⟨spec.place range :: below.members, below.bits + spec.width⟩

def ascending (p : PackedLayout) : List PackedMember :=
  p.members.reverse

def fields (p : PackedLayout) : List PackedField :=
  p.members.filterMap PackedMember.field?

/-- Of fields with one name the last one counts. -/
def field? (p : PackedLayout) (name : FieldName) : Option PackedField :=
  p.fields.reverse.find? (·.name = name)

end PackedLayout

end RecordSchema
