import RecordSchema.Compile.Evaluate

namespace RecordSchema

namespace Check

variable (c : Capabilities) (t : TypeTable)

def recordItems : (seen : List FieldName) → (offset : Nat) → List (RecordItem Target) →
    Attempt CheckError RecordLayout
  | _, offset, [] => .ok ⟨[], offset⟩
  | seen, offset, .field name type p :: rest =>
    if name ∈ seen then reject (.fieldNameDuplicate name) p
    else do
      let type ← type.check c t .record
      let octets ← wholeOctets type.bits p
      let layout ← recordItems (name :: seen) (offset + octets) rest
      .ok { layout with members := .field ⟨name, type, offset, p⟩ :: layout.members }
  | seen, offset, .padding octets p :: rest => do
    let octets ← octets.evaluate c t
    positive .padding octets p
    let layout ← recordItems seen (offset + octets) rest
    .ok { layout with members := .padding offset octets p :: layout.members }

def packedItems : (seen : List FieldName) → List (PackedItem Target) →
    Attempt CheckError (List PackedSpec)
  | _, [] => .ok []
  | seen, .field name type p :: rest =>
    if name ∈ seen then reject (.fieldNameDuplicate name) p
    else do
      let type ← type.check c t .packed
      if type.isInteger then
        let specs ← packedItems (name :: seen) rest
        .ok (.field name type type.bits p :: specs)
      else reject (.packedFieldNotInteger name type.render) p
  | seen, .padding bits p :: rest => do
    let bits ← bits.evaluate c t
    positive .padding bits p
    let specs ← packedItems seen rest
    .ok (.padding bits p :: specs)

def caseItems : (seen : List CaseName) → List (CaseItem Target) → Attempt CheckError (List UnionCase)
  | _, [] => .ok []
  | seen, item :: rest =>
    if item.name ∈ seen then reject (.caseNameDuplicate item.name) item.position
    else do
      let type ← item.type.check c t .record
      let cases ← caseItems (item.name :: seen) rest
      .ok (⟨item.name, type, item.position⟩ :: cases)

def packedTotal (d : Definition Target) (p : PackedLayout) : Attempt CheckError Unit :=
  if p.members = [] ∨ c.packedTotals.contains p.bits then .ok ()
  else reject (.packedSizeUnsupported d.name p.bits c.packedTotals) d.position

def layout (d : Definition Target) : Attempt CheckError Layout :=
  match d.body with
  | .record items => do .ok (.record (← recordItems c t [] 0 items))
  | .packed items => do
    let specs ← packedItems c t [] items
    let packed ← Attempt.ofFault (PackedLayout.place specs)
    packedTotal c d packed
    .ok (.packed packed)
  | .union [] => reject (.unionEmpty d.name) d.position
  | .union cases => do .ok (.union (.ofCases (← caseItems c t [] cases)))

def declaration (identifier : Identifier) (package : PackageName) (d : Definition Target) :
    Attempt CheckError Declaration := do
  .ok ⟨identifier, package, d.name, d.position, ← layout c t d⟩

end Check

structure Collector where
  opened : Option PackageName := none
  declarations : List Declaration := []
deriving DecidableEq, Repr

namespace Collector

def begin (package : PackageName) : Collector :=
  ⟨some package, []⟩

def add (k : Collector) (d : Declaration) : Collector :=
  { k with declarations := upsert Declaration.name d k.declarations }

def finish (k : Collector) (package : PackageName) : Collector × Except Fault Package :=
  if k.opened = some package then ({}, .ok ⟨package, k.declarations⟩)
  else ({ k with opened := none }, .error (.closesOther package k.opened))

end Collector

end RecordSchema
