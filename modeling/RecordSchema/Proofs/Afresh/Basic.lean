import RecordSchema.Proofs.Load.Cycle
import RecordSchema.Proofs.Source.Filed

namespace RecordSchema

structure Numbering where
  file : PackageName → FileId
  identifier : PackageName → TypeName → Identifier

structure Yield where
  package : Package
  types : TypeTable := {}
  needs : List PackageName := []

abbrev Provider := PackageName → Option Position → Attempt (List Diagnostic) Yield

structure Draft where
  file : FileState := {}
  product : Product := none
  types : TypeTable := {}
  needs : List PackageName := []
  told : List Diagnostic := []

def Outcome.product (p : Position) (product : Product) : Outcome → Product
  | finished package => some (package, p)
  | _ => product

namespace Draft

def tell (w : Draft) (d : Diagnostic) : Draft :=
  { w with told := w.told ++ [d] }

def heed {α : Type} (w : Draft) (x : Attempt Diagnostic α) (k : α → Draft) : Attempt (List Diagnostic) Draft :=
  match x with
  | .ok a => .ok (k a)
  | .error (.error d) => .ok (w.tell d)
  | .error (.fault fault) => .error (.fault fault)

def receive (w : Draft) (package : PackageName) (qualifier : Segment) (p : Position) (y : Yield) :
    Attempt (List Diagnostic) Draft :=
  let w := { w with types := ⟨w.types.declarations ++ y.types.declarations⟩, needs := w.needs ++ y.needs }
  let conflict : OneToOne.Conflict → Diagnostic := fun _ => .resolution ⟨.importConflict package qualifier, some p⟩
  w.heed (Attempt.ofError ((w.file.scope.bindImport qualifier y.package).mapError conflict)) fun scope =>
    { w with file := { w.file with scope } }

variable (c : Capabilities) (n : Numbering) (load : Provider) (name : PackageName)

def take (w : Draft) (p : Position) : Effect → Attempt (List Diagnostic) Draft
  | .taken file out => .ok { w with file, product := out.product p w.product }
  | .declares package d =>
    w.heed (w.file.settle c w.types (n.identifier name d.name) package d) fun found =>
      { w with file := found.1, types := ⟨w.types.declarations ++ [found.2]⟩ }
  | .asks package qualifier p =>
    match load package (some p) with
    | .ok y => w.receive package qualifier p y
    | .error (.error found) =>
      .error (.error (w.told ++ found ++ [.resolution ⟨.packageLoadFailed package, some p⟩]))
    | .error (.fault fault) => .error (.fault fault)

def feed (w : Draft) (e : Expr) : Attempt (List Diagnostic) Draft :=
  match w.file.effect c w.types e with
  | .ok effect => w.take c n load name e.position effect
  | .error (.error d) => .ok (w.tell d)
  | .error (.fault fault) => .error (.fault fault)

end Draft

def FileState.remains (f : FileState) (reading : Reading) : List Diagnostic :=
  match reading.error with
  | some error => [.lexical error]
  | none =>
    match f.scope.finish reading.finish with
    | .error error => [.resolution error]
    | .ok () => []

def Product.misnamed (name : PackageName) : Product → List Diagnostic
  | none => []
  | some (package, p) =>
    if package.name = name then [] else [.resolution ⟨.packageUnexpected name package.name, some p⟩]

def Draft.finish (w : Draft) (name : PackageName) (reading : Reading) : Attempt (List Diagnostic) Yield :=
  match w.told ++ w.file.remains reading ++ w.product.misnamed name, w.product with
  | [], some (package, _) => .ok ⟨package, w.types, w.needs⟩
  | told, _ => .error (.error told)

def compileAfresh (c : Capabilities) (n : Numbering) (load : Provider) (name : PackageName) (text : String) :
    Attempt (List Diagnostic) Yield := do
  let reading := Expr.read (n.file name) text
  let w ← reading.exprs.foldlM (Draft.feed c n load name) { needs := [name] }
  w.finish name reading

namespace Library

variable (l : Library) (c : Capabilities) (n : Numbering)

variable {l} in
lemma mem_names_of_source? {name : PackageName} {x : Except Diagnostic String} (h : l.source? name = some x) :
    name ∈ (l.catalog c).names := by
  have hfetch : (l.fetch? name).isSome := by rw [fetch?_isSome, h, Option.isSome_some]
  obtain ⟨fetch, hfetch⟩ := Option.isSome_iff_exists.mp hfetch
  exact Catalog.mem_names_of_supplier? (supplier?_of_fetch hfetch)

/-- What the load of a package comes to for the last one on a chain. -/
def afresh (chain : Chain) (name : PackageName) (importer : Option Position) : Attempt (List Diagnostic) Yield :=
  if _ : name ∈ chain.names then .error (.error [.circularImport (chain.cycle name importer) importer])
  else
    match _ : l.source? name with
    | none => .error (.error [.resolution ⟨.packageNonexistent name, importer⟩])
    | some (.error d) => .error (.error [d])
    | some (.ok text) =>
      compileAfresh c n (fun other p => afresh (chain ++ [(name, importer)]) other p) name text
termination_by ((l.catalog c).remaining chain.names).length
decreasing_by
  rw [Chain.names_concat]
  exact Catalog.length_remaining_lt (mem_names_of_source? c ‹_›) ‹_›

end Library

end RecordSchema
