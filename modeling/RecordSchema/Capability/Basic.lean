import RecordSchema.Capability.Encodings
import RecordSchema.Capability.SizeRange

namespace RecordSchema

structure Capabilities where
  /-- Bits of integers outside packed records. -/
  recordIntegers : SizeRanges := .exactly [8, 16, 32, 64]
  /-- Bits of floats. -/
  recordFloats : SizeRanges := .exactly [16, 32, 64]
  /-- Bits of integers inside packed records. -/
  packedIntegers : SizeRanges := .between 1 64
  /-- Bits of packed records as a whole. -/
  packedTotals : SizeRanges := .exactly [8, 16, 32, 64]
  integerVectors : SizeRanges := .between 2 4
  floatVectors : SizeRanges := .between 2 4
  integerMatrices : MatrixShapes := {}
  floatMatrices : MatrixShapes := { widths := .between 2 4, heights := .between 2 4 }
  /-- Octets of boolean sets. -/
  booleanSets : SizeRanges := .between 1 8
  /-- Octets of strings. -/
  strings : SizeRanges := .between 1 2147483647
  encodings : Encodings := .ofList ["UTF-8"]
deriving DecidableEq, Repr

namespace Capabilities

def standard : Capabilities := {}

def vectors (c : Capabilities) (integers : Bool) : SizeRanges :=
  if integers then c.integerVectors else c.floatVectors

def matrices (c : Capabilities) (integers : Bool) : MatrixShapes :=
  if integers then c.integerMatrices else c.floatMatrices

end Capabilities

end RecordSchema
