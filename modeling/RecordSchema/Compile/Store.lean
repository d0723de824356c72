import RecordSchema.Compile.Check
import RecordSchema.Diagnostic.Basic
import RecordSchema.Source.Registry

namespace RecordSchema

inductive LoadError where
  | circular (package : PackageName)
  | failed (package : PackageName)
deriving DecidableEq, Repr

namespace LoadError

def package : LoadError → PackageName
  | circular p => p
  | failed p => p

def message : LoadError → String
  | circular p => "circular import of package `" ++ p.render ++ "`"
  | failed p => "failed to load package `" ++ p.render ++ "`"

end LoadError

inductive LoadEvent where
  /-- The source of a package is asked for; `loading` tells whether the package counts as being loaded. -/
  | started (package : PackageName) (loading : Bool)
  | importFailed (importer : PackageName) (error : LoadError)
deriving DecidableEq, Repr

def LoadEvent.render : LoadEvent → String
  | started p loading => "load " ++ p.render ++ " " ++ toString loading
  | importFailed importer error => importer.render ++ ": " ++ error.message

structure Store where
  nextIdentifier : Nat := 0
  /-- Packages that loaded without a diagnostic, in the order of completion. -/
  packages : List Package := []
  types : TypeTable := {}
  /-- Diagnostics that have not been taken yet, the oldest first. -/
  diagnostics : List Diagnostic := []
  /-- Packages being loaded, the outermost first. -/
  loading : List PackageName := []
  /-- Imports met since the outermost package began to load. -/
  imports : ImportGraph := {}
  sources : SourceRegistry := {}
  events : List LoadEvent := []
deriving Repr

namespace Store

def package? (s : Store) (name : PackageName) : Option Package :=
  s.packages.find? (·.name = name)

def sortedPackages (s : Store) : List Package :=
  s.packages.mergeSort fun p q => p.name.le q.name

def outline (s : Store) : String :=
  "GlobalContext \x7b next_identifier: " ++ toString s.nextIdentifier ++
    ", packages: " ++ toString s.packages.length ++
    ", types: " ++ toString s.types.declarations.length ++
    ", errors: " ++ toString s.diagnostics.length ++
    ", loading: [" ++ ", ".intercalate (s.loading.map PackageName.outline) ++ "], .. \x7d"

end Store

abbrev Run := EStateM Fault Store

abbrev Importer := PackageName → Option Position → Run (Except LoadError Package)

namespace Run

def report (d : Diagnostic) : Run Unit :=
  modify fun s => { s with diagnostics := s.diagnostics ++ [d] }

def note (e : LoadEvent) : Run Unit :=
  modify fun s => { s with events := s.events ++ [e] }

def takeDiagnostics : Run (List Diagnostic) :=
  modifyGet fun s => (s.diagnostics, { s with diagnostics := [] })

def takeEvents : Run (List LoadEvent) :=
  modifyGet fun s => (s.events, { s with events := [] })

def freshIdentifier : Run Identifier :=
  modifyGet fun s => (⟨s.nextIdentifier⟩, { s with nextIdentifier := s.nextIdentifier + 1 })

def ofExcept {α : Type} : Except Fault α → Run α
  | .ok a => pure a
  | .error fault => throw fault

def attempt {ε α : Type} : Attempt ε α → Run (Except ε α)
  | .ok a => pure (.ok a)
  | .error (.error e) => pure (.error e)
  | .error (.fault fault) => throw fault

def putType (d : Declaration) : Run Unit := do
  let types ← ofExcept ((← get).types.put d)
  modify fun s => { s with types }

def registerText (path text : String) : Run FileId :=
  modifyGet fun s =>
    let (file, sources) := s.sources.insert path text
    (file, { s with sources })

def readFile (path : String) (disk : String → Except String String) :
    Run (Except SourceError (FileId × String)) := do
  let file ← modifyGet fun s =>
    let (file, sources) := s.sources.register path
    (file, { s with sources })
  match (← get).sources.read disk file with
  | .error e => return .error e
  | .ok (text, sources) =>
    modify fun s => { s with sources }
    return .ok (file, text)

end Run

end RecordSchema
