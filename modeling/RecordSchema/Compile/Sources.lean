import RecordSchema.Compile.File
import RecordSchema.Compile.Load
import RecordSchema.Source.FileTree

namespace RecordSchema

def sourceSuffix : List Char := ".prs".toList

abbrev Fetch := Run (Except LoadError (FileId × String))

def Fetch.fromMemory (name : PackageName) (text : String) : Fetch := do
  let file ← Run.registerText (String.ofList (name.chars ++ sourceSuffix)) text
  return .ok (file, text)

def Catalog.compiling (c : Capabilities) (name : PackageName) (fetch : Fetch) : Supplier := fun load _ => do
  match ← fetch with
  | .error e => return .error e
  | .ok (file, text) => compileSource c load name file text

namespace FileTree

/-- Where a package has its source: a directory for every segment but the last, which names the file. -/
def placeOf (name : PackageName) : Place :=
  let words := name.segments.map fun s => s.text.toList
  words.dropLast ++ (words.getLast?.map (· ++ sourceSuffix)).toList

def packageAt? (place : Place) : Option PackageName := do
  let file ← place.getLast?
  if sourceSuffix.isSuffixOf file then
    let word := file.take (file.length - sourceSuffix.length)
    let segments ← (place.dropLast ++ [word]).mapM fun w => (Name.parse _ (String.ofList w)).toOption
    (PackageName.ofSegments segments).toOption
  else none

def packagePath (tree : FileTree) (name : PackageName) : String :=
  tree.pathTo (String.ofList (Text.joinWith ['/'] (placeOf name)))

end FileTree

def Fetch.fromFile (tree : FileTree) (name : PackageName) (contents : FileContents) : Fetch := do
  match ← Run.readFile (tree.packagePath name) (fun _ => contents.read) with
  | .error e =>
    Run.report (.unreadable name e.detail)
    return .error (.failed name)
  | .ok found => return .ok found

inductive Library where
  | texts (sources : List (PackageName × String))
  | files (tree : FileTree)
deriving DecidableEq, Repr

namespace Library

def fetches : Library → List (PackageName × Fetch)
  | texts sources => sources.map fun (name, text) => (name, .fromMemory name text)
  | files tree => tree.files.filterMap fun (place, contents) =>
      (FileTree.packageAt? place).map fun name => (name, .fromFile tree name contents)

def fetch? (l : Library) (name : PackageName) : Option Fetch :=
  l.fetches.lookup name

def catalog (l : Library) (c : Capabilities) : Catalog :=
  ⟨l.fetches.map fun (name, fetch) => (name, Catalog.compiling c name fetch)⟩

end Library

def Catalog.ofTexts (c : Capabilities) (texts : List (PackageName × String)) : Catalog :=
  (Library.texts texts).catalog c

def FileTree.catalog (c : Capabilities) (tree : FileTree) : Catalog :=
  (Library.files tree).catalog c

structure Outline where
  imports : List PackageName := []
  /-- Whether the package does without imports that fail. -/
  tolerant : Bool := false
  /-- Whether the package fails for a reason of its own. -/
  broken : Bool := false
deriving DecidableEq, Repr

namespace Outline

/-- Asks for the imports in turn, the first one on line `line`. Gives the first failure that is not
tolerated. -/
def importEach (o : Outline) (name : PackageName) (load : Importer) :
    (line : Nat) → List PackageName → Run (Option LoadError)
  | _, [] => return none
  | line, package :: rest => do
    let p : Position := ⟨⟨0⟩, line, 1, ⟨0, 0⟩⟩
    match ← load package (some p) with
    | .ok _ => importEach o name load (line + 1) rest
    | .error e =>
      Run.note (.importFailed name e)
      if o.tolerant then importEach o name load (line + 1) rest
      else
        Run.report (.resolution ⟨.packageLoadFailed package, some p⟩)
        return some (.failed name)

def supplier (o : Outline) (name : PackageName) : Supplier := fun load _ => do
  match ← o.importEach name load 1 o.imports with
  | some e => return .error e
  | none => return if o.broken then .error (.failed name) else .ok { name }

end Outline

def Catalog.withOutlines (k : Catalog) (outlines : List (PackageName × Outline)) : Catalog :=
  ⟨outlines.map (fun (name, o) => (name, o.supplier name)) ++ k.suppliers⟩

end RecordSchema
