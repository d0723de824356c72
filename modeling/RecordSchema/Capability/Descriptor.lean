import RecordSchema.Capability.Basic
import RecordSchema.Document.Basic

namespace RecordSchema

inductive DescriptorError where
  | noNumber (text : String)
  | emptyRange (lower upper : Nat)
  | malformed
deriving DecidableEq, Repr

def DescriptorError.message : DescriptorError → Option String
  | noNumber text => some ("`" ++ text ++ "` is not a non-negative integer")
  | emptyRange lower upper => some ("empty size range [" ++ toString lower ++ ", " ++ toString upper ++ "]")
  | malformed => none

namespace Descriptor

def largestNumber : Nat := UInt64.size - 1

def digitsOf (text : List Char) : Option Nat :=
  match text with
  | [] => none
  | '_' :: _ => none
  | _ =>
    if text.all fun c => c.isDigit || c = '_' then
      some ((text.filter Char.isDigit).foldl (fun n c => 10 * n + (c.toNat - '0'.toNat)) 0)
    else none

/-- At most one plus sign, then digits; underscores may stand anywhere but in front. -/
def numberOf (text : List Char) : Option Nat :=
  match text with
  | '+' :: rest => digitsOf rest
  | _ => digitsOf text

inductive Bound where
  | number (n : Nat)
  | text (s : String)
deriving DecidableEq, Repr

def Bound.ofDocument? : Document → Option Bound
  | .integer (.ofNat n) => if n ≤ largestNumber then some (.number n) else none
  | .text s => some (.text s)
  | _ => none

def Bound.value : Bound → Except DescriptorError Nat
  | number n => .ok n
  | text s =>
    match numberOf s.toList with
    | some n => .ok n
    | none => .error (.noNumber s)

def Bound.document (n : Nat) : Document :=
  if n ≤ largestNumber then .integer n else .text (toString n)

def rangeOfDocument : Document → Except DescriptorError SizeRange
  | .table entries =>
    let bound? (key : String) := (entries.lookup key).bind Bound.ofDocument?
    match bound? "lower", bound? "upper" with
    | some lower, some upper => do
      let lower ← lower.value
      let upper ← upper.value
      if h : lower ≤ upper then .ok ⟨lower, upper, h⟩ else .error (.emptyRange lower upper)
    | _, _ => .error .malformed
  | d =>
    match Bound.ofDocument? d with
    | some bound => do .ok (.exactly (← bound.value))
    | none => .error .malformed

def rangeDocument (r : SizeRange) : Document :=
  if r.lower = r.upper then Bound.document r.lower
  else .table [("lower", Bound.document r.lower), ("upper", Bound.document r.upper)]

def rangesOfDocument : Document → Except DescriptorError SizeRanges
  | .list items => do .ok ⟨← items.mapM rangeOfDocument⟩
  | _ => .error .malformed

def rangesDocument (s : SizeRanges) : Document :=
  .list (s.ranges.map rangeDocument)

def setShapes (m : MatrixShapes) (entry : String × Document) : Except DescriptorError MatrixShapes :=
  match entry.1 with
  | "widths" => do .ok { m with widths := ← rangesOfDocument entry.2 }
  | "heights" => do .ok { m with heights := ← rangesOfDocument entry.2 }
  | _ => .ok m

def shapeKeys : List String := ["widths", "heights"]

/-- A list gives the values of the first keys in their order. Whether it may have more items than there
are keys depends on the notation. -/
def entriesOfList {σ : Type} (keys : List String) (lenient : Bool) (items : List Document)
    (set : σ → String × Document → Except DescriptorError σ) (start : σ) :
    Except DescriptorError σ := do
  let result ← (keys.zip items).foldlM set start
  if lenient ∨ items.length ≤ keys.length then .ok result else .error .malformed

def shapesOfDocument (lenient : Bool) : Document → Except DescriptorError MatrixShapes
  | .table entries => entries.foldlM setShapes {}
  | .list items => entriesOfList shapeKeys lenient items setShapes {}
  | _ => .error .malformed

def shapesDocument (m : MatrixShapes) : Document :=
  .table [("widths", rangesDocument m.widths), ("heights", rangesDocument m.heights)]

def encodingsOfDocument : Document → Except DescriptorError Encodings
  | .list items => do
    let names ← items.mapM fun
      | .text name => .ok name
      | _ => .error .malformed
    .ok (.ofList names)
  | _ => .error .malformed

def encodingsDocument (e : Encodings) : Document :=
  .list (e.names.map .text)

def keys : List String :=
  ["record_integer_sizes", "record_float_sizes", "packed_integer_sizes", "packed_sizes",
    "vector_integer_counts", "vector_float_counts", "matrix_integer_shapes", "matrix_float_shapes",
    "boolean_set_sizes", "string_sizes", "string_encodings"]

def set (lenient : Bool) (c : Capabilities) (entry : String × Document) :
    Except DescriptorError Capabilities :=
  let value := entry.2
  match entry.1 with
  | "record_integer_sizes" => do .ok { c with recordIntegers := ← rangesOfDocument value }
  | "record_float_sizes" => do .ok { c with recordFloats := ← rangesOfDocument value }
  | "packed_integer_sizes" => do .ok { c with packedIntegers := ← rangesOfDocument value }
  | "packed_sizes" => do .ok { c with packedTotals := ← rangesOfDocument value }
  | "vector_integer_counts" => do .ok { c with integerVectors := ← rangesOfDocument value }
  | "vector_float_counts" => do .ok { c with floatVectors := ← rangesOfDocument value }
  | "matrix_integer_shapes" => do .ok { c with integerMatrices := ← shapesOfDocument lenient value }
  | "matrix_float_shapes" => do .ok { c with floatMatrices := ← shapesOfDocument lenient value }
  | "boolean_set_sizes" => do .ok { c with booleanSets := ← rangesOfDocument value }
  | "string_sizes" => do .ok { c with strings := ← rangesOfDocument value }
  | "string_encodings" => do .ok { c with encodings := ← encodingsOfDocument value }
  | _ => .ok c

end Descriptor

namespace Capabilities

/-- Reads a descriptor; what it leaves out keeps its default. The first fault in the order of the
document counts. -/
def ofDocument (lenient : Bool) : Document → Except DescriptorError Capabilities
  | .table entries => entries.foldlM (Descriptor.set lenient) standard
  | .list items => Descriptor.entriesOfList Descriptor.keys lenient items (Descriptor.set lenient) standard
  | _ => .error .malformed

def toDocument (c : Capabilities) : Document :=
  .table [
    ("record_integer_sizes", Descriptor.rangesDocument c.recordIntegers),
    ("record_float_sizes", Descriptor.rangesDocument c.recordFloats),
    ("packed_integer_sizes", Descriptor.rangesDocument c.packedIntegers),
    ("packed_sizes", Descriptor.rangesDocument c.packedTotals),
    ("vector_integer_counts", Descriptor.rangesDocument c.integerVectors),
    ("vector_float_counts", Descriptor.rangesDocument c.floatVectors),
    ("matrix_integer_shapes", Descriptor.shapesDocument c.integerMatrices),
    ("matrix_float_shapes", Descriptor.shapesDocument c.floatMatrices),
    ("boolean_set_sizes", Descriptor.rangesDocument c.booleanSets),
    ("string_sizes", Descriptor.rangesDocument c.strings),
    ("string_encodings", Descriptor.encodingsDocument c.encodings)]

end Capabilities

end RecordSchema
