import RecordSchema.Compile.Resolve
import RecordSchema.Diagnostic.Check

namespace RecordSchema

inductive Placement where
  | record
  | packed
deriving DecidableEq, Repr

namespace Check

def reject {α : Type} (problem : CheckProblem) (p : Position) : Attempt CheckError α :=
  .error (.error ⟨problem, p⟩)

def positive (what : Positive) (n : Nat) (p : Position) : Attempt CheckError Unit :=
  if n = 0 then reject (.sizeZero what) p else .ok ()

def supported (m : Measured) (p : Position) : Attempt CheckError Unit :=
  if m.isSupported then .ok () else reject (.sizeUnsupported m) p

def wholeOctets (bits : Nat) (p : Position) : Attempt CheckError Nat :=
  if bits % 8 = 0 then .ok (bits / 8) else reject (.sizeNotOctets bits) p

def scalar (type : DataType) (p : Position) : Attempt CheckError Unit :=
  if type.isScalar then .ok () else reject (.elementNotScalar type.render) p

def measuredInteger (c : Capabilities) (bits : Nat) : Placement → Measured
  | .record => .integer c.recordIntegers bits
  | .packed => .packedInteger c.packedIntegers bits

def distinctFlags : (seen : List FieldName) → List (FieldName × Position) → Attempt CheckError Unit
  | _, [] => .ok ()
  | seen, (flag, p) :: rest =>
    if flag ∈ seen then reject (.flagDuplicate flag) p else distinctFlags (flag :: seen) rest

end Check

def TypeTable.walk (t : TypeTable) : DataType → List FieldName → Except Fault DataType
  | type, [] => .ok type
  | type, field :: rest =>
    match type.identifier? with
    | none => .error (.pathThrough type)
    | some i => do
      let d ← t.get i
      match d.memberType? field with
      | none => .error (.pathMisses field)
      | some type => t.walk type rest

variable (c : Capabilities) (t : TypeTable)

mutual

def TypeExpr.check : Placement → TypeExpr Target → Attempt CheckError DataType
  | placement, .integer kind bits p => do
    let bits ← bits.evaluate
    Check.positive .integer bits p
    Check.supported (Check.measuredInteger c bits placement) p
    .ok (.integer kind bits)
  | _, .float bits p => do
    let bits ← bits.evaluate
    Check.positive .float bits p
    Check.supported (.float c.recordFloats bits) p
    .ok (.float bits)
  | _, .vector element count p => do
    let type ← element.check .record
    Check.scalar type element.position
    let count ← count.evaluate
    Check.supported (.elementCount (c.vectors type.isInteger) count) p
    .ok (.vector type count)
  | _, .matrix element width height p => do
    let type ← element.check .record
    Check.scalar type element.position
    let width ← width.evaluate
    let height ← height.evaluate
    Check.supported (.matrixShape (c.matrices type.isInteger) width height) p
    .ok (.matrix type width height)
  | _, .booleanSet octets flags p => do
    let octets ← octets.evaluate
    Check.supported (.booleanSet c.booleanSets octets) p
    Check.distinctFlags [] flags
    if octets * 8 < flags.length then Check.reject (.booleanSetTooSmall flags.length octets) p
    else .ok (.booleanSet (flags.map Prod.fst) octets)
  | _, .string octets encoding p => do
    let octets ← octets.evaluate
    Check.supported (.string c.strings octets) p
    if c.encodings.contains encoding then .ok (.string encoding octets)
    else Check.reject (.encodingUnsupported encoding c.encodings) p
  | _, .reference target _ => do
    let d ← Attempt.ofFault (t.get target.identifier)
    .ok d.toType
  | _, .typeOf target _ path _ => do
    let d ← Attempt.ofFault (t.get target.identifier)
    Attempt.ofFault (t.walk d.toType path)

def SizeExpr.evaluate : SizeExpr Target → Attempt CheckError Nat
  | .constant value _ => .ok value
  | .inBits of _ => do
    let type ← of.check .record
    .ok type.bits
  | .inOctets of p => do
    let type ← of.check .record
    Check.wholeOctets type.bits p

end

end RecordSchema
