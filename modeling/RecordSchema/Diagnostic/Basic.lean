import RecordSchema.Compile.ImportGraph
import RecordSchema.Diagnostic.Check
import RecordSchema.Diagnostic.Resolution
import RecordSchema.Expr.Problem
import RecordSchema.Schema.Problem

namespace RecordSchema

inductive Diagnostic where
  | lexical (error : ReadError)
  | parse (error : ParseError)
  | resolution (error : ResolveError)
  | check (error : CheckError)
  | circularImport (path : List Import) (position : Option Position)
  | unreadable (package : PackageName) (reason : String)
deriving DecidableEq, Repr

namespace Diagnostic

def kind : Diagnostic → String
  | lexical _ => "lexical"
  | parse _ => "parse"
  | resolution _ => "resolution"
  | check _ => "check"
  | circularImport .. => "circular import"
  | unreadable .. => "I/O"

def message : Diagnostic → String
  | lexical e => e.problem.message
  | parse e => e.problem.message
  | resolution e => e.problem.message
  | check e => e.problem.message
  | circularImport path _ => "Circular import: " ++ renderCycle path
  | unreadable package reason => "could not read package `" ++ package.render ++ "`: " ++ reason

def position? : Diagnostic → Option Position
  | lexical e => some e.position
  | parse e => some e.position
  | resolution e => e.position
  | check e => some e.position
  | circularImport _ p => p
  | unreadable .. => none

def code? : Diagnostic → Option String
  | resolution e => some e.problem.code
  | check e => some e.problem.code
  | _ => none

def label : Diagnostic → String
  | lexical e => e.problem.label
  | parse e => e.problem.label
  | resolution e => e.problem.label
  | check e => e.problem.label
  | circularImport .. => "context::circular_import"
  | unreadable .. => "context::io"

def help? : Diagnostic → Option String
  | lexical e => e.problem.help
  | parse e => e.problem.help
  | resolution e => e.problem.help
  | check e => e.problem.help
  | _ => none

def line (package : PackageName) (d : Diagnostic) : String :=
  let place := match d.position? with
    | none => ""
    | some p => " (" ++ p.render ++ ")"
  package.render ++ ": " ++ d.kind ++ " error: " ++ d.message ++ place ++ "\n"

end Diagnostic

end RecordSchema
