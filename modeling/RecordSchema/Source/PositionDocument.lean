import RecordSchema.Document.Basic
import RecordSchema.Source.Position

namespace RecordSchema

namespace Position

def word? : Document → Option Nat
  | .integer (.ofNat n) => if n < UInt32.size then some n else none
  | _ => none

def spanOfDocument? : Document → Option Span
  | .table entries => do
    let start ← word? (← entries.lookup "start")
    let stop ← word? (← entries.lookup "end")
    some ⟨start, stop⟩
  | .list [start, stop] => do some ⟨← word? start, ← word? stop⟩
  | _ => none

/-- Keys may come in any order, and unknown ones do not matter; a list holds the values in the order of
`toDocument`. -/
def ofDocument? : Document → Option Position
  | .table entries => do
    let file ← word? (← entries.lookup "file")
    let line ← word? (← entries.lookup "line")
    let column ← word? (← entries.lookup "column")
    let span ← spanOfDocument? (← entries.lookup "span")
    some ⟨⟨file⟩, line, column, span⟩
  | .list [file, line, column, span] => do
    some ⟨⟨← word? file⟩, ← word? line, ← word? column, ← spanOfDocument? span⟩
  | _ => none

def toDocument (p : Position) : Document :=
  .table [("file", .integer p.file.index), ("line", .integer p.line), ("column", .integer p.column),
    ("span", .table [("start", .integer p.span.start), ("end", .integer p.span.stop)])]

end Position

end RecordSchema
