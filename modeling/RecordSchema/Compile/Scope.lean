import RecordSchema.Collection.OneToOne
import RecordSchema.Layout.Declaration

namespace RecordSchema

inductive PackageState where
  | unopened
  | opened (package : PackageName)
  | closed (package : PackageName)
deriving DecidableEq, Repr

structure Scope where
  state : PackageState := .unopened
  qualifiers : OneToOne Segment PackageName := .empty
  packages : List Package := []
  types : OneToOne TypeName Identifier := .empty
deriving DecidableEq, Repr

namespace Scope

def current? (s : Scope) : Option PackageName :=
  match s.state with
  | .opened package => some package
  | _ => none

def imported? (s : Scope) (qualifier : Segment) : Option Package :=
  (s.qualifiers.value? qualifier).bind fun name => s.packages.find? (·.name = name)

def qualifierOf? (s : Scope) (package : PackageName) : Option Segment :=
  s.qualifiers.key? package

def bindImport (s : Scope) (qualifier : Segment) (package : Package) : Except OneToOne.Conflict Scope := do
  let qualifiers ← s.qualifiers.insert qualifier package.name
  .ok { s with qualifiers, packages := s.packages ++ [package] }

def type? (s : Scope) (name : TypeName) : Option Identifier :=
  s.types.value? name

def typeNames (s : Scope) : List String :=
  (s.types.keys.map Name.text).mergeSort fun a b => !decide (b < a)

def defineType (s : Scope) (d : Declaration) : Except OneToOne.Conflict Scope := do
  let types ← s.types.insert d.name d.identifier
  .ok { s with types }

end Scope

end RecordSchema
