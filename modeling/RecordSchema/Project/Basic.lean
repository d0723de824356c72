import RecordSchema.Compile.Report
import RecordSchema.Compile.Sources

namespace RecordSchema

namespace Text

def isInfix (part : List Char) : List Char → Bool
  | [] => part.isEmpty
  | c :: cs => part.isPrefixOf (c :: cs) || isInfix part cs

theorem isInfix_iff {part : List Char} : ∀ {text : List Char}, isInfix part text = true ↔ part <:+: text
  | [] => by simp [isInfix]
  | c :: cs => by simp [isInfix, @isInfix_iff part cs, List.infix_cons_iff]

end Text

inductive Expectation where
  | success
  /-- One part of a message per diagnostic, in their order. -/
  | diagnostics (parts : List String)
deriving DecidableEq, Repr

inductive Verdict where
  | pass
  | fail (reason : String)
deriving DecidableEq, Repr

structure RootError where
  root : String
  error : NameError
deriving DecidableEq, Repr

def RootError.message (e : RootError) : String :=
  "Invalid package name `" ++ e.root ++ "`: " ++ e.error.message

structure Project where
  name : String
  files : List (String × String) := []
  roots : List String := []
  capabilities : Capabilities := .standard
  expected : Expectation := .success
deriving DecidableEq, Repr

namespace Project

/-- Where the source of a package is kept: a directory for every word but the last, which names the
file. Slashes in a word lead to further directories. -/
def sourcePath (package : String) : String :=
  let path := (Text.splitOn '.' package.toList).foldl Path.join []
  String.ofList (Path.appendSuffix sourceSuffix path)

def addPackage (p : Project) (package text : String) : Project :=
  let path := sourcePath package
  let earlier := p.files.find? fun file => Path.ofText file.1 = Path.ofText path
  { p with files := upsert Prod.fst ((earlier.map Prod.fst).getD path, text) p.files }

def checkPackage (p : Project) (root : String) : Project :=
  { p with roots := p.roots ++ [root] }

def paths (p : Project) : List String :=
  (p.files.map Prod.fst).mergeSort fun a b => (Path.ofText a).le (Path.ofText b)

def tree (p : Project) : FileTree :=
  p.files.foldl (fun tree (path, text) => tree.add path (.text text)) { root := p.name }

def rootNames (p : Project) : Except RootError (List PackageName) :=
  p.roots.mapM fun root => (PackageName.parse root).mapError fun error => ⟨root, error⟩

def check (p : Project) : Except Fault (Except RootError Report) :=
  match p.rootNames with
  | .error e => .ok (.error e)
  | .ok names =>
    match (p.tree.catalog p.capabilities).checkPackages names |>.run {} with
    | .ok report _ => .ok (.ok report)
    | .error fault _ => .error fault

def firstMiss : List String → List String → Option (String × String)
  | message :: messages, part :: parts =>
    if Text.isInfix part.toList message.toList then firstMiss messages parts else some (message, part)
  | _, _ => none

def judge (expected : Expectation) (r : Report) : Verdict :=
  let messages := r.all.map Diagnostic.message
  match expected with
  | .success => if messages = [] then .pass else .fail ("expected no diagnostics, got:\n" ++ r.render)
  | .diagnostics parts =>
    if messages.length ≠ parts.length then
      .fail ("expected " ++ toString parts.length ++ " diagnostics, got " ++ toString messages.length ++
        ":\n" ++ r.render)
    else match firstMiss messages parts with
      | none => .pass
      | some (message, part) => .fail ("`" ++ message ++ "` does not contain `" ++ part ++ "`")

def run (p : Project) : Except Fault Verdict := do
  match ← p.check with
  | .error e => .ok (.fail e.message)
  | .ok report => .ok (judge p.expected report)

end Project

end RecordSchema
