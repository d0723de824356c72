import RecordSchema.Compile.Load

namespace RecordSchema

structure Report where
  packages : List (PackageName × List Diagnostic) := []
deriving DecidableEq, Repr

namespace Report

def add (r : Report) (name : PackageName) (found : List Diagnostic) : Report :=
  if r.packages.any (·.1 = name) then
    ⟨r.packages.map fun entry => if entry.1 = name then (name, entry.2 ++ found) else entry⟩
  else ⟨r.packages ++ [(name, found)]⟩

def diagnostics (r : Report) (name : PackageName) : List Diagnostic :=
  (r.packages.lookup name).getD []

def isSuccess (r : Report) : Bool :=
  r.packages.all (·.2.isEmpty)

def all (r : Report) : List Diagnostic :=
  r.packages.flatMap Prod.snd

def errorCount (r : Report) : Nat :=
  r.all.length

def render (r : Report) : String :=
  String.join (r.packages.flatMap fun (name, found) => found.map (Diagnostic.line name))

end Report

namespace Catalog

def checkEach (k : Catalog) (r : Report) : List PackageName → Run Report
  | [] => return r
  | name :: rest => do
    let _ ← k.load name none
    let found ← Run.takeDiagnostics
    k.checkEach (r.add name found) rest

def checkPackages (k : Catalog) (names : List PackageName) : Run Report :=
  k.checkEach {} names

end Catalog

end RecordSchema
