import RecordSchema.Compile.Store
import RecordSchema.Expr.Reader
import RecordSchema.Schema.Parse

namespace RecordSchema

namespace Scope

def importPackage (s : Scope) (load : Importer) (package : PackageName) (qualifier : Segment)
    (p : Position) : Run (Except ResolveError (Scope × BoundStatement)) := do
  let conflict : ResolveError := ⟨.importConflict package qualifier, some p⟩
  match s.requirePackage p with
  | .error e => return .error e
  | .ok _ =>
    if (s.imported? qualifier).isSome || (s.qualifierOf? package).isSome then return .error conflict
    match ← load package (some p) with
    | .error _ => return .error ⟨.packageLoadFailed package, some p⟩
    | .ok loaded =>
      match s.bindImport qualifier loaded with
      | .error _ => return .error conflict
      | .ok s => return .ok (s, .imported package p)

def resolve (s : Scope) (load : Importer) : Statement → Run (Except ResolveError (Scope × BoundStatement))
  | .packageBegin name p =>
    match s.state with
    | .unopened => return .ok ({ s with state := .opened name }, .packageBegin name p)
    | .opened current => return .error ⟨.packageNested current, some p⟩
    | .closed previous => return .error ⟨.packageDuplicate previous, some p⟩
  | .packageEnd p =>
    match s.requirePackage p with
    | .error e => return .error e
    | .ok name => return .ok ({ s with state := .closed name }, .packageEnd name p)
  | .importPackage package qualifier p => s.importPackage load package qualifier p
  | .define d => do
    match ← Run.attempt (d.resolve (← get).types s) with
    | .error e => return .error e
    | .ok (package, d) => return .ok (s, .define (← Run.freshIdentifier) package d)
  | .showType type p => do
    match s.requirePackage p with
    | .error e => return .error e
    | .ok _ =>
      match ← Run.attempt (type.resolve (← get).types s) with
      | .error e => return .error e
      | .ok type => return .ok (s, .showType type p)
  | .showSize size p => do
    match s.requirePackage p with
    | .error e => return .error e
    | .ok _ =>
      match ← Run.attempt (size.resolve (← get).types s) with
      | .error e => return .error e
      | .ok size => return .ok (s, .showSize size p)

def commit (s : Scope) (d : Declaration) : Except ResolveError Scope :=
  (s.defineType d).mapError fun _ => ⟨.typeDuplicate d.name, some d.position⟩

def finish (s : Scope) (eof : Position) : Except ResolveError Unit :=
  match s.state with
  | .unopened => .error ⟨.expectedPackage, some eof⟩
  | .opened package => .error ⟨.unexpectedEof package, some eof⟩
  | .closed _ => .ok ()

end Scope

def Collector.define (k : Collector) (c : Capabilities) (identifier : Identifier) (package : PackageName)
    (d : Definition Target) : Run (Except CheckError (Collector × Declaration)) := do
  match ← Run.attempt (Check.declaration c (← get).types identifier package d) with
  | .error e => return .error e
  | .ok d =>
    Run.putType d
    return .ok (k.add d, d)

inductive CommandResult where
  | type (type : DataType)
  | size (size : Nat)
deriving DecidableEq, Repr

structure FileState where
  scope : Scope := {}
  collector : Collector := {}
  results : List CommandResult := []
deriving Repr

inductive Outcome where
  | nothing
  | abort
  | finished (package : Package)
deriving DecidableEq, Repr

namespace FileState

variable (c : Capabilities)

def perform (f : FileState) : BoundStatement → Run (FileState × Outcome)
  | .packageBegin name _ => return ({ f with collector := .begin name }, .nothing)
  | .packageEnd name _ => do
    let (collector, package) := f.collector.finish name
    return ({ f with collector }, .finished (← Run.ofExcept package))
  | .imported .. => return (f, .nothing)
  | .define identifier package d => do
    match ← f.collector.define c identifier package d with
    | .error e =>
      Run.report (.check e)
      return (f, .nothing)
    | .ok (collector, d) =>
      match f.scope.commit d with
      | .error e =>
        Run.report (.resolution e)
        return ({ f with collector }, .nothing)
      | .ok scope => return ({ f with collector, scope }, .nothing)
  | .showType type _ => do
    match ← Run.attempt (type.check c (← get).types .record) with
    | .error e =>
      Run.report (.check e)
      return (f, .nothing)
    | .ok type => return ({ f with results := f.results ++ [.type type] }, .nothing)
  | .showSize size _ => do
    match ← Run.attempt (size.evaluate c (← get).types) with
    | .error e =>
      Run.report (.check e)
      return (f, .nothing)
    | .ok size => return ({ f with results := f.results ++ [.size size] }, .nothing)

/-- Takes one top-level expression through. A rejected one is reported and otherwise passed over, but
after an import that failed the rest of the file has no meaning. -/
def feed (load : Importer) (f : FileState) (e : Expr) : Run (FileState × Outcome) := do
  match e.toStatement with
  | .error error =>
    Run.report (.parse error)
    return (f, .nothing)
  | .ok statement =>
    match ← f.scope.resolve load statement with
    | .error error =>
      Run.report (.resolution error)
      match error.problem with
      | .packageLoadFailed _ => return (f, .abort)
      | _ => return (f, .nothing)
    | .ok (scope, statement) => perform c { f with scope } statement

def finish (f : FileState) (eof : Position) : Run Unit :=
  match f.scope.finish eof with
  | .error error => Run.report (.resolution error)
  | .ok () => return ()

end FileState

abbrev Product := Option (Package × Position)

def FileState.feedAll (c : Capabilities) (load : Importer) :
    FileState → Product → List Expr → Run (FileState × Product × Bool)
  | f, product, [] => return (f, product, true)
  | f, product, e :: rest => do
    match ← f.feed c load e with
    | (f, .nothing) => feedAll c load f product rest
    | (f, .abort) => return (f, product, false)
    | (f, .finished package) =>
      if product.isSome then throw .secondPackage
      feedAll c load f (some (package, e.position)) rest

def FileState.close (f : FileState) (reading : Reading) : Run Unit :=
  match reading.error with
  | some error => Run.report (.lexical error)
  | none => f.finish reading.finish

def Product.deliver (name : PackageName) : Product → Run (Except LoadError Package)
  | none => return .error (.failed name)
  | some (package, p) => do
    if package.name = name then return .ok package
    Run.report (.resolution ⟨.packageUnexpected name package.name, some p⟩)
    return .error (.failed name)

/-- Takes the rest of a source through. After an import that failed the end does not matter. -/
def FileState.compile (c : Capabilities) (load : Importer) (name : PackageName) (reading : Reading)
    (f : FileState) (product : Product) (rest : List Expr) : Run (Except LoadError Package) := do
  let (f, product, complete) ← f.feedAll c load product rest
  if complete then f.close reading
  Product.deliver name product

def compileSource (c : Capabilities) (load : Importer) (name : PackageName) (file : FileId) (text : String) :
    Run (Except LoadError Package) :=
  let reading := Expr.read file text
  FileState.compile c load name reading {} none reading.exprs

end RecordSchema
