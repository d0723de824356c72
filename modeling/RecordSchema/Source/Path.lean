import RecordSchema.Text.Split

namespace RecordSchema

structure Path where
  absolute : Bool
  parts : List (List Char)
deriving DecidableEq, Repr

namespace Path

/-- Empty parts and single dots do not count, except for a dot that a relative path begins with. -/
def ofText (text : String) : Path :=
  let words := Text.splitOn '/' text.toList
  let kept := words.filter fun w => w ≠ [] ∧ w ≠ ['.']
  match words with
  | [] :: _ => ⟨text ≠ "", kept⟩
  | ['.'] :: _ => ⟨false, ['.'] :: kept⟩
  | _ => ⟨false, kept⟩

def le (p q : Path) : Bool :=
  if p.absolute = q.absolute then (compare (p.parts.map String.ofList) (q.parts.map String.ofList)).isLE
  else p.absolute

def render (p : Path) : String :=
  let body := Text.joinWith ['/'] p.parts
  String.ofList (if p.absolute then '/' :: body else body)

def join (base path : List Char) : List Char :=
  if base = [] ∨ path.head? = some '/' then path
  else if base.getLast? = some '/' then base ++ path
  else base ++ '/' :: path

def appendSuffix (suffix path : List Char) : List Char :=
  match (path.reverse.dropWhile (· = '/')).reverse with
  | [] => path
  | name => name ++ suffix

end Path

end RecordSchema
