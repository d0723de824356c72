import RecordSchema.Layout.Declaration

namespace RecordSchema

structure TypeTable where
  declarations : List Declaration := []
deriving DecidableEq, Repr

namespace TypeTable

def empty : TypeTable := {}

def find? (t : TypeTable) (i : Identifier) : Option Declaration :=
  t.declarations.find? (·.identifier = i)

def get (t : TypeTable) (i : Identifier) : Except Fault Declaration :=
  match t.find? i with
  | some d => .ok d
  | none => .error (.identifierUnbound i)

def put (t : TypeTable) (d : Declaration) : Except Fault TypeTable :=
  match t.find? d.identifier with
  | some earlier => .error (.identifierBound d.identifier earlier.package earlier.name)
  | none => .ok ⟨t.declarations ++ [d]⟩

end TypeTable

end RecordSchema
