import RecordSchema.Schema.TypeExpr

namespace RecordSchema

inductive ResolveProblem where
  | packageNested (opened : PackageName)
  | packageDuplicate (previous : PackageName)
  | noCurrentPackage
  | packageNonexistent (package : PackageName)
  | packageUnexpected (expected found : PackageName)
  | packageLoadFailed (package : PackageName)
  | importConflict (package : PackageName) (qualifier : Segment)
  | importNonexistent (qualifier : Segment)
  | typeDuplicate (name : TypeName)
  | typeNonexistent (mention : Mention) (similar : List String)
  | fieldNonexistent (package : PackageName) (type : TypeName) (field : FieldName)
  | pathNotNominal (field : FieldName) (found : String)
  | expectedPackage
  | unexpectedEof (opened : PackageName)
deriving DecidableEq, Repr

namespace ResolveProblem

def message : ResolveProblem → String
  | packageNested opened => "package `" ++ opened.render ++ "` is still open; packages cannot be nested"
  | packageDuplicate previous => "this file already declared package `" ++ previous.render ++ "`"
  | noCurrentPackage => "no package is open"
  | packageNonexistent package => "package `" ++ package.render ++ "` does not exist"
  | packageUnexpected expected found =>
    "expected package `" ++ expected.render ++ "`, but the source declares `" ++ found.render ++ "`"
  | packageLoadFailed package => "Error loading package `" ++ package.render ++ "`"
  | importConflict package qualifier =>
    "import of `" ++ package.render ++ "` as `" ++ qualifier.text ++ "` conflicts with an earlier import"
  | importNonexistent qualifier => "no import is bound to `" ++ qualifier.text ++ "`"
  | typeDuplicate name => "type `" ++ name.text ++ "` is already declared in this package"
  | typeNonexistent mention _ => "type `" ++ mention.render ++ "` does not exist"
  | fieldNonexistent package type field =>
    "type `" ++ package.render ++ "." ++ type.text ++ "` has no field `" ++ field.text ++ "`"
  | pathNotNominal field found =>
    "cannot look up `" ++ field.text ++ "` in `" ++ found ++ "`; only declared types have fields"
  | expectedPackage => "expected a package declaration"
  | unexpectedEof opened => "unexpected end of file: package `" ++ opened.render ++ "` is still open"

def code : ResolveProblem → String
  | packageNested _ => "PACKAGE_NESTED"
  | packageDuplicate _ => "PACKAGE_DUPLICATE"
  | noCurrentPackage => "NO_CURRENT_PACKAGE"
  | packageNonexistent _ => "PACKAGE_NONEXISTENT"
  | packageUnexpected .. => "PACKAGE_UNEXPECTED"
  | packageLoadFailed _ => "PACKAGE_LOAD_FAILED"
  | importConflict .. => "PACKAGE_IMPORT_CONFLICT"
  | importNonexistent _ => "IMPORT_NONEXISTENT"
  | typeDuplicate _ => "TYPE_DUPLICATE"
  | typeNonexistent .. => "TYPE_NONEXISTENT"
  | fieldNonexistent .. => "FIELD_NONEXISTENT"
  | pathNotNominal .. => "FIELD_PATH_NOT_NOMINAL"
  | expectedPackage => "EXPECTED_PACKAGE"
  | unexpectedEof _ => "UNEXPECTED_EOF"

def label : ResolveProblem → String
  | packageNested _ => "resolve::package_nested"
  | packageDuplicate _ => "resolve::package_duplicate"
  | noCurrentPackage => "resolve::no_current_package"
  | packageNonexistent _ => "resolve::package_nonexistent"
  | packageUnexpected .. => "resolve::package_unexpected"
  | packageLoadFailed _ => "resolve::package_load_failed"
  | importConflict .. => "resolve::package_import_conflict"
  | importNonexistent _ => "resolve::import_nonexistent"
  | typeDuplicate _ => "resolve::type_duplicate"
  | typeNonexistent .. => "resolve::type_nonexistent"
  | fieldNonexistent .. => "resolve::field_nonexistent"
  | pathNotNominal .. => "resolve::field_path_not_nominal"
  | expectedPackage => "resolve::expected_package"
  | unexpectedEof _ => "resolve::unexpected_eof"

def similarHelp : List String → Option String
  | [] => none
  | [name] => some ("did you mean `" ++ name ++ "`?")
  | names => some ("did you mean one of " ++ ", ".intercalate (names.map fun n => "`" ++ n ++ "`") ++ "?")

def help : ResolveProblem → Option String
  | packageDuplicate _ => some "each file declares exactly one package"
  | noCurrentPackage => some "open a package with (package-begin ...)"
  | typeNonexistent _ similar => similarHelp similar
  | expectedPackage => some "every source file starts with (package-begin ...)"
  | unexpectedEof _ => some "close it with (package-end)"
  | _ => none

end ResolveProblem

/-- Only a package that nobody's import asked for is missed at no place. -/
structure ResolveError where
  problem : ResolveProblem
  position : Option Position
deriving DecidableEq, Repr

end RecordSchema
