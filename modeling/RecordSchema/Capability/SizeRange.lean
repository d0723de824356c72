import RecordSchema.Collection.Interval
import RecordSchema.Layout.Fault

namespace RecordSchema

abbrev SizeRange := Interval

namespace SizeRange

def ofBounds (lower upper : Nat) : Except Fault SizeRange :=
  if h : lower ≤ upper then .ok ⟨lower, upper, h⟩ else .error .sizeRangeInverted

def exactly (n : Nat) : SizeRange :=
  ⟨n, n, Nat.le_refl n⟩

def describe (r : SizeRange) : String :=
  if r.lower = r.upper then toString r.lower else r.render

end SizeRange

structure SizeRanges where
  ranges : List SizeRange := []
deriving DecidableEq, Repr

namespace SizeRanges

def none : SizeRanges := {}

def exactly (sizes : List Nat) : SizeRanges :=
  ⟨sizes.map SizeRange.exactly⟩

def between (lower upper : Nat) (h : lower ≤ upper := by decide) : SizeRanges :=
  ⟨[⟨lower, upper, h⟩]⟩

def ofBounds (bounds : List (Nat × Nat)) : Except Fault SizeRanges := do
  .ok ⟨← bounds.mapM fun (lower, upper) => SizeRange.ofBounds lower upper⟩

def contains (s : SizeRanges) (n : Nat) : Bool :=
  s.ranges.any (·.contains n)

def render (s : SizeRanges) : String :=
  if s.ranges = [] then "none" else ", ".intercalate (s.ranges.map SizeRange.describe)

end SizeRanges

structure MatrixShapes where
  widths : SizeRanges := .none
  heights : SizeRanges := .none
deriving DecidableEq, Repr

def MatrixShapes.contains (m : MatrixShapes) (width height : Nat) : Bool :=
  m.widths.contains width && m.heights.contains height

def MatrixShapes.render (m : MatrixShapes) : String :=
  "widths " ++ m.widths.render ++ "; heights " ++ m.heights.render

end RecordSchema
