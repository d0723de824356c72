import RecordSchema.Layout.DataType

namespace RecordSchema

/-- A broken promise between two parts of the compiler, never the fault of a source. -/
inductive Fault where
  | identifierBound (identifier : Identifier) (package : PackageName) (name : TypeName)
  | identifierUnbound (identifier : Identifier)
  | closesOther (closing : PackageName) (opened : Option PackageName)
  | pathThrough (type : DataType)
  | pathMisses (field : FieldName)
  | zeroWidth
  | bitRangeInverted
  | sizeRangeInverted
  | secondPackage
deriving DecidableEq, Repr

def Fault.message : Fault → String
  | identifierBound i package name =>
    "identifier " ++ i.render ++ " is already bound to type " ++ package.render ++ "." ++ name.text
  | identifierUnbound i => "no type is registered under identifier " ++ i.render
  | closesOther closing opened =>
    let shown := match opened with
      | none => "None"
      | some p => "Some(" ++ p.outline ++ ")"
    "checker closing `" ++ closing.render ++ "` while " ++ shown ++ " is open"
  | pathThrough type => "resolved field path continues through " ++ type.render
  | pathMisses field => "resolved field path names missing field `" ++ field.text ++ "`"
  | zeroWidth => "packed member with zero width"
  | bitRangeInverted => "bit range lower bound exceeds upper bound"
  | sizeRangeInverted => "size range lower bound exceeds upper bound"
  | secondPackage => "one source produced two packages"

end RecordSchema
