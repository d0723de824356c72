import RecordSchema.Expr.Basic

namespace RecordSchema

inductive ReadProblem where
  | unterminatedString
  | invalidEscape (found : Char)
  | unexpectedClose (found : Bracket)
  | mismatchedClose (expected found : Bracket)
  | unclosedList (bracket : Bracket)
deriving DecidableEq, Repr

namespace ReadProblem

def message : ReadProblem → String
  | unterminatedString => "unterminated string literal"
  | invalidEscape found => "invalid escape sequence `\\" ++ found.toString ++ "`"
  | unexpectedClose found => "unexpected `" ++ found.closing.toString ++ "`"
  | mismatchedClose expected found =>
    "expected `" ++ expected.closing.toString ++ "`, found `" ++ found.closing.toString ++ "`"
  | unclosedList bracket => "unexpected end of file: unclosed `" ++ bracket.opening.toString ++ "`"

def label : ReadProblem → String
  | unterminatedString => "syntax::unterminated_string"
  | invalidEscape _ => "syntax::invalid_escape"
  | unexpectedClose _ => "syntax::unbalanced"
  | mismatchedClose .. => "syntax::mismatched_close"
  | unclosedList _ => "syntax::unexpected_eof"

def help : ReadProblem → Option String
  | invalidEscape _ => some "only `\\\"` and `\\\\` are recognized"
  | _ => none

end ReadProblem

structure ReadError where
  problem : ReadProblem
  position : Position
deriving DecidableEq, Repr

end RecordSchema
