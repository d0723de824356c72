import RecordSchema.Expr.Basic
import RecordSchema.Name.Grammar

namespace RecordSchema

inductive ParseProblem where
  | expected (wanted found : String)
  | unknownStatement (keyword : String)
  | unknownType (keyword : String)
  | unknownSize (keyword : String)
  | unknownMember (keyword declaration : String)
  | arity (form : String) (takes found : Nat)
  | unknownKind (word : String)
  | invalidSize (text : String)
  | invalidName (error : NameError)
deriving DecidableEq, Repr

namespace ParseProblem

def message : ParseProblem → String
  | expected wanted found => "expected " ++ wanted ++ ", found " ++ found
  | unknownStatement keyword => "unknown statement `" ++ keyword ++ "`"
  | unknownType keyword => "unknown type constructor `" ++ keyword ++ "`"
  | unknownSize keyword => "unknown size expression `" ++ keyword ++ "`"
  | unknownMember keyword declaration => "`" ++ keyword ++ "` is not allowed in a " ++ declaration
  | arity form takes found =>
    "`" ++ form ++ "` takes " ++ toString takes ++ " argument(s), found " ++ toString found
  | unknownKind word => "unknown integer kind `" ++ word ++ "`"
  | invalidSize text => "`" ++ text ++ "` is not a valid size"
  | invalidName error => error.message

def label : ParseProblem → String
  | expected .. => "parser::unexpected"
  | unknownStatement _ => "parser::unknown_statement"
  | unknownType _ => "parser::unknown_type"
  | unknownSize _ => "parser::unknown_size"
  | unknownMember .. => "parser::unknown_member"
  | arity .. => "parser::arity"
  | unknownKind _ => "parser::integer_kind"
  | invalidSize _ => "parser::invalid_size"
  | invalidName _ => "parser::invalid_name"

def help : ParseProblem → Option String
  | unknownStatement _ =>
    some "statements are package-begin, package-end, import, record, packed, union, :type and :size"
  | unknownSize _ => some "sizes are literals, (size-in-bits T) or (size-in-octets T)"
  | unknownKind _ => some "use signed, unsigned, signed-normalized or unsigned-normalized"
  | _ => none

end ParseProblem

structure ParseError where
  problem : ParseProblem
  position : Position
deriving DecidableEq, Repr

def Expr.unexpected (wanted : String) (e : Expr) : ParseError :=
  ⟨.expected wanted (e.describe ++ " `" ++ e.render ++ "`"), e.position⟩

end RecordSchema
