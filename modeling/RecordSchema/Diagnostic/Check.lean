import RecordSchema.Capability.Basic
import RecordSchema.Schema.TypeExpr

namespace RecordSchema

inductive Measured where
  | integer (supported : SizeRanges) (bits : Nat)
  | packedInteger (supported : SizeRanges) (bits : Nat)
  | float (supported : SizeRanges) (bits : Nat)
  | elementCount (supported : SizeRanges) (count : Nat)
  | matrixShape (supported : MatrixShapes) (width height : Nat)
  | booleanSet (supported : SizeRanges) (octets : Nat)
  | string (supported : SizeRanges) (octets : Nat)
deriving DecidableEq, Repr

namespace Measured

def render : Measured → String
  | integer _ n => "integer size " ++ toString n
  | packedInteger _ n => "packed integer size " ++ toString n
  | float _ n => "float size " ++ toString n
  | elementCount _ n => "vector element count " ++ toString n
  | matrixShape _ width height => "matrix shape " ++ toString width ++ "x" ++ toString height
  | booleanSet _ n => "boolean set size " ++ toString n
  | string _ n => "string size " ++ toString n

def supported : Measured → String
  | integer s _ => s.render
  | packedInteger s _ => s.render
  | float s _ => s.render
  | elementCount s _ => s.render
  | matrixShape s _ _ => s.render
  | booleanSet s _ => s.render
  | string s _ => s.render

def isSupported : Measured → Bool
  | integer s n => s.contains n
  | packedInteger s n => s.contains n
  | float s n => s.contains n
  | elementCount s n => s.contains n
  | matrixShape s width height => s.contains width height
  | booleanSet s n => s.contains n
  | string s n => s.contains n

end Measured

inductive Positive where
  | integer
  | float
  | padding
deriving DecidableEq, Repr

def Positive.render : Positive → String
  | integer => "integer size"
  | float => "float size"
  | padding => "padding"

inductive CheckProblem where
  | sizeUnsupported (measured : Measured)
  | encodingUnsupported (encoding : String) (supported : Encodings)
  | sizeNotOctets (bits : Nat)
  | fieldNameDuplicate (name : FieldName)
  | caseNameDuplicate (name : CaseName)
  | flagDuplicate (name : FieldName)
  | booleanSetTooSmall (flags octets : Nat)
  | packedFieldNotInteger (name : FieldName) (found : String)
  | packedSizeUnsupported (name : TypeName) (bits : Nat) (supported : SizeRanges)
  | elementNotScalar (found : String)
  | sizeZero (what : Positive)
  | unionEmpty (name : TypeName)
deriving DecidableEq, Repr

namespace CheckProblem

def message : CheckProblem → String
  | sizeUnsupported measured => "unsupported " ++ measured.render
  | encodingUnsupported encoding _ => "unsupported string encoding `" ++ encoding ++ "`"
  | sizeNotOctets bits => "size of " ++ toString bits ++ " bits is not a whole number of octets"
  | fieldNameDuplicate name => "field `" ++ name.text ++ "` is declared more than once"
  | caseNameDuplicate name => "case `" ++ name.text ++ "` is declared more than once"
  | flagDuplicate name => "flag `" ++ name.text ++ "` appears more than once in the boolean set"
  | booleanSetTooSmall flags octets =>
    "a boolean set of " ++ toString octets ++ " octet(s) cannot hold " ++ toString flags ++ " flags"
  | packedFieldNotInteger name found =>
    "packed field `" ++ name.text ++ "` has type " ++ found ++ "; packed fields must be integers"
  | packedSizeUnsupported name bits _ =>
    "packed record `" ++ name.text ++ "` is " ++ toString bits ++ " bits wide, which is not supported"
  | elementNotScalar found => "element type " ++ found ++ " is not an integer or float"
  | sizeZero what => what.render ++ " must not be zero"
  | unionEmpty name => "union `" ++ name.text ++ "` has no cases"

def code : CheckProblem → String
  | sizeUnsupported _ => "SIZE_UNSUPPORTED"
  | encodingUnsupported .. => "ENCODING_UNSUPPORTED"
  | sizeNotOctets _ => "SIZE_NOT_OCTETS"
  | fieldNameDuplicate _ => "FIELD_NAME_DUPLICATE"
  | caseNameDuplicate _ => "CASE_NAME_DUPLICATE"
  | flagDuplicate _ => "BOOLEAN_SET_FIELD_DUPLICATE"
  | booleanSetTooSmall .. => "BOOLEAN_SET_TOO_SMALL"
  | packedFieldNotInteger .. => "PACKED_FIELD_NOT_INTEGER"
  | packedSizeUnsupported .. => "PACKED_SIZE_UNSUPPORTED"
  | elementNotScalar _ => "ELEMENT_NOT_SCALAR"
  | sizeZero _ => "SIZE_ZERO"
  | unionEmpty _ => "UNION_EMPTY"

def label : CheckProblem → String
  | sizeUnsupported _ => "check::size_unsupported"
  | encodingUnsupported .. => "check::encoding_unsupported"
  | sizeNotOctets _ => "check::size_not_octets"
  | fieldNameDuplicate _ => "check::field_name_duplicate"
  | caseNameDuplicate _ => "check::case_name_duplicate"
  | flagDuplicate _ => "check::boolean_set_field_duplicate"
  | booleanSetTooSmall .. => "check::boolean_set_too_small"
  | packedFieldNotInteger .. => "check::packed_field_not_integer"
  | packedSizeUnsupported .. => "check::packed_size_unsupported"
  | elementNotScalar _ => "check::element_not_scalar"
  | sizeZero _ => "check::size_zero"
  | unionEmpty _ => "check::union_empty"

def help : CheckProblem → Option String
  | sizeUnsupported measured => some ("supported: " ++ measured.supported)
  | encodingUnsupported _ supported => some ("supported: " ++ supported.render)
  | packedSizeUnsupported _ _ supported => some ("supported: " ++ supported.render)
  | _ => none

end CheckProblem

structure CheckError where
  problem : CheckProblem
  position : Position
deriving DecidableEq, Repr

end RecordSchema
