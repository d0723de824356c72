namespace RecordSchema

structure FileId where
  index : Nat
deriving DecidableEq, Repr, Inhabited

def FileId.render (f : FileId) : String :=
  "file#" ++ toString f.index

structure Span where
  start : Nat
  stop : Nat
deriving DecidableEq, Repr, Inhabited

namespace Span

def length (s : Span) : Nat :=
  s.stop - s.start

def isEmpty (s : Span) : Bool :=
  s.start == s.stop

def cover (s t : Span) : Span :=
  ⟨min s.start t.start, max s.stop t.stop⟩

end Span

structure Position where
  file : FileId
  line : Nat
  column : Nat
  span : Span := ⟨0, 0⟩
deriving DecidableEq, Repr

instance : Inhabited Position := ⟨⟨⟨0⟩, 1, 1, ⟨0, 0⟩⟩⟩

def Position.render (p : Position) : String :=
  p.file.render ++ ":" ++ toString p.line ++ ":" ++ toString p.column

end RecordSchema
