import RecordSchema.Compile.Scope
import RecordSchema.Diagnostic.Resolution
import RecordSchema.Layout.TypeTable
import RecordSchema.Schema.Statement
import RecordSchema.Text.EditDistance

namespace RecordSchema

inductive Failure (ε : Type) where
  | error (error : ε)
  | fault (fault : Fault)
deriving DecidableEq, Repr

abbrev Attempt (ε α : Type) := Except (Failure ε) α

namespace Attempt

def ofFault {ε α : Type} (x : Except Fault α) : Attempt ε α :=
  x.mapError .fault

def ofError {ε α : Type} (x : Except ε α) : Attempt ε α :=
  x.mapError .error

end Attempt

namespace Scope

def requirePackage (s : Scope) (p : Position) : Except ResolveError PackageName :=
  match s.current? with
  | some package => .ok package
  | none => .error ⟨.noCurrentPackage, some p⟩

def nonexistent (m : Mention) (candidates : List Mention) (p : Position) : ResolveError :=
  ⟨.typeNonexistent m (Text.suggestions m.render (candidates.map Mention.render)), some p⟩

/-- A plain name means an earlier declaration of this file, a qualified one a declaration of the imported
package. -/
def find (s : Scope) (m : Mention) (p : Position) : Except ResolveError Target := do
  match m.qualifier with
  | none =>
    let package ← s.requirePackage p
    match s.type? m.name with
    | some identifier => .ok ⟨identifier, package, m.name⟩
    | none => .error (nonexistent m (s.types.keys.map (⟨none, ·⟩)) p)
  | some qualifier =>
    match s.imported? qualifier with
    | none => .error ⟨.importNonexistent qualifier, some p⟩
    | some package =>
      match package.find? m.name with
      | some d => .ok ⟨d.identifier, package.name, m.name⟩
      | none => .error (nonexistent m (package.declarations.map (⟨some qualifier, ·.name⟩)) p)

end Scope

namespace TypeTable

/-- A path names a member of the declaration it starts from, then a member of that member's type, and so
on; all types before the last must be declared ones. -/
def checkPath (t : TypeTable) (p : Position) : Declaration → List FieldName → Attempt ResolveError Unit
  | _, [] => .ok ()
  | d, field :: rest =>
    match d.memberType? field, rest with
    | none, _ => .error (.error ⟨.fieldNonexistent d.package d.name field, some p⟩)
    | some _, [] => .ok ()
    | some (.declared target _), next :: rest => do
      let d ← Attempt.ofFault (t.get target.identifier)
      t.checkPath p d (next :: rest)
    | some type, next :: _ => .error (.error ⟨.pathNotNominal next type.render, some p⟩)

def checkPathFrom (t : TypeTable) (target : Target) (path : List FieldName) (p : Position) :
    Attempt ResolveError Unit := do
  t.checkPath p (← Attempt.ofFault (t.get target.identifier)) path

end TypeTable

variable (t : TypeTable) (s : Scope)

mutual

def TypeExpr.resolve : TypeExpr Mention → Attempt ResolveError (TypeExpr Target)
  | .integer kind bits p => do .ok (.integer kind (← bits.resolve) p)
  | .float bits p => do .ok (.float (← bits.resolve) p)
  | .vector element count p => do
    let element ← element.resolve
    .ok (.vector element (← count.resolve) p)
  | .matrix element width height p => do
    let element ← element.resolve
    let width ← width.resolve
    .ok (.matrix element width (← height.resolve) p)
  | .booleanSet octets flags p => do .ok (.booleanSet (← octets.resolve) flags p)
  | .string octets encoding p => do .ok (.string (← octets.resolve) encoding p)
  | .reference mention p => do .ok (.reference (← Attempt.ofError (s.find mention p)) p)
  | .typeOf mention mp path p => do
    let target ← Attempt.ofError (s.find mention mp)
    t.checkPathFrom target path p
    .ok (.typeOf target mp path p)

def SizeExpr.resolve : SizeExpr Mention → Attempt ResolveError (SizeExpr Target)
  | .constant value p => .ok (.constant value p)
  | .inOctets of p => do .ok (.inOctets (← of.resolve) p)
  | .inBits of p => do .ok (.inBits (← of.resolve) p)

end

def RecordItem.resolve : RecordItem Mention → Attempt ResolveError (RecordItem Target)
  | .field name type p => do .ok (.field name (← type.resolve t s) p)
  | .padding octets p => do .ok (.padding (← octets.resolve t s) p)

def PackedItem.resolve : PackedItem Mention → Attempt ResolveError (PackedItem Target)
  | .field name type p => do .ok (.field name (← type.resolve t s) p)
  | .padding bits p => do .ok (.padding (← bits.resolve t s) p)

def CaseItem.resolve (c : CaseItem Mention) : Attempt ResolveError (CaseItem Target) := do
  .ok ⟨c.name, ← c.type.resolve t s, c.position⟩

def Body.resolve : Body Mention → Attempt ResolveError (Body Target)
  | .record items => do .ok (.record (← items.mapM (RecordItem.resolve t s)))
  | .packed items => do .ok (.packed (← items.mapM (PackedItem.resolve t s)))
  | .union cases => do .ok (.union (← cases.mapM (CaseItem.resolve t s)))

def Definition.resolve (d : Definition Mention) :
    Attempt ResolveError (PackageName × Definition Target) := do
  let package ← Attempt.ofError (s.requirePackage d.position)
  if (s.type? d.name).isSome then .error (.error ⟨.typeDuplicate d.name, some d.position⟩)
  else .ok (package, ⟨d.name, ← d.body.resolve t s, d.position⟩)

end RecordSchema
