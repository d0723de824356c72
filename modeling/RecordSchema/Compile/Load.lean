import RecordSchema.Compile.Store

namespace RecordSchema

abbrev Supplier := Importer → Option Position → Run (Except LoadError Package)

structure Catalog where
  suppliers : List (PackageName × Supplier) := []

namespace Catalog

def names (k : Catalog) : List PackageName :=
  k.suppliers.map Prod.fst

def supplier? (k : Catalog) (name : PackageName) : Option Supplier :=
  k.suppliers.lookup name

def remaining (k : Catalog) (chain : List PackageName) : List PackageName :=
  k.names.filter (· ∉ chain)

theorem mem_names_of_supplier? {k : Catalog} {name : PackageName} {supply : Supplier}
    (h : k.supplier? name = some supply) : name ∈ k.names := by
  obtain ⟨l₁, l₂, hl, _⟩ := List.lookup_eq_some_iff.mp h
  simp [names, hl]

theorem length_remaining_lt {k : Catalog} {chain : List PackageName} {name : PackageName}
    (hn : name ∈ k.names) (hc : name ∉ chain) :
    (k.remaining (chain ++ [name])).length < (k.remaining chain).length := by
  have hsplit : k.remaining (chain ++ [name]) = (k.remaining chain).filter (· ≠ name) := by
    rw [remaining, remaining, List.filter_filter]
    congr 1
    funext q
    simp only [List.mem_append, List.mem_singleton, not_or, Bool.decide_and, Bool.and_comm, ne_eq]
  rw [hsplit]
  refine Nat.lt_of_le_of_ne (List.length_filter_le _ _) fun h => ?_
  have := List.length_filter_eq_length_iff.mp h name (by simpa [remaining] using ⟨hn, hc⟩)
  simp at this

end Catalog

namespace Run

def startLoading (chain : List PackageName) (name : PackageName) : Run Unit := do
  modify fun s => { s with loading := chain ++ [name] }
  note (.started name ((← get).loading.contains name))

def stopLoading (chain : List PackageName) : Run Unit :=
  modify fun s => { s with loading := chain, imports := if chain = [] then .empty else s.imports }

def recordImport (i : Import) : Run Unit :=
  modify fun s => { s with imports := s.imports.add i }

def reportCycle (current name : PackageName) (importer : Option Position) : Run Unit := do
  let back := ((← get).imports.shortestPath name current).getD []
  report (.circularImport (back ++ [⟨current, name, importer⟩]) importer)

def reportMissing (name : PackageName) (importer : Option Position) : Run (Except LoadError Package) := do
  report (.resolution ⟨.packageNonexistent name, importer⟩)
  return .error (.failed name)

/-- A load succeeds if it gave a package and no diagnostic, and only then the package is kept. -/
def conclude (name : PackageName) (queued : Nat) : Except LoadError Package → Run (Except LoadError Package)
  | .error _ => return .error (.failed name)
  | .ok package => do
    if (← get).diagnostics.length = queued then
      modify fun s => { s with packages := s.packages ++ [package] }
      return .ok package
    else return .error (.failed name)

end Run

namespace Catalog

/-- Loads a package for the last one on a chain of packages being loaded. -/
def loadOn (k : Catalog) (chain : List PackageName) (name : PackageName) (importer : Option Position) :
    Run (Except LoadError Package) := do
  match (← get).package? name with
  | some package => return .ok package
  | none =>
    if let some current := chain.getLast? then
      Run.recordImport ⟨current, name, importer⟩
    if _ : name ∈ chain then
      if let some current := chain.getLast? then
        Run.reportCycle current name importer
      return .error (.circular name)
    else
      let queued := (← get).diagnostics.length
      Run.startLoading chain name
      let result ← match _ : k.supplier? name with
        | some supply => supply (fun other p => loadOn k (chain ++ [name]) other p) importer
        | none => Run.reportMissing name importer
      Run.stopLoading chain
      Run.conclude name queued result
termination_by (k.remaining chain).length
decreasing_by exact length_remaining_lt (mem_names_of_supplier? ‹_›) ‹_›

def load (k : Catalog) : Importer :=
  fun name importer => do k.loadOn (← get).loading name importer

end Catalog

inductive Request where
  | load (name : PackageName) (importer : Option Position)
  | takeDiagnostics
deriving DecidableEq, Repr

def Catalog.serve (k : Catalog) : List Request → Run Unit
  | [] => return ()
  | .load name importer :: rest => do
    let _ ← k.load name importer
    k.serve rest
  | .takeDiagnostics :: rest => do
    let _ ← Run.takeDiagnostics
    k.serve rest

end RecordSchema
