import RecordSchema.Name.Grammar
import RecordSchema.Text.Quoted
import RecordSchema.Text.Split

namespace RecordSchema

structure PackageName where
  segments : List Segment
  segments_ne_nil : segments ≠ []
deriving DecidableEq

namespace PackageName

def kind : String := "qualified package name"

def ofSegments (segments : List Segment) : Except NameError PackageName :=
  if h : segments = [] then .error (.empty kind) else .ok ⟨segments, h⟩

def parse (text : String) : Except NameError PackageName :=
  if text = "" then .error (.empty kind)
  else do ofSegments (← (Text.splitOn '.' text.toList).mapM fun word => Name.parse _ (String.ofList word))

def last (p : PackageName) : Segment :=
  p.segments.getLast p.segments_ne_nil

def chars (p : PackageName) : List Char :=
  Text.joinWith ['.'] (p.segments.map fun s => s.text.toList)

def render (p : PackageName) : String :=
  String.ofList p.chars

instance : Repr PackageName := ⟨fun p _ => p.render⟩

def compare (p q : PackageName) : Ordering :=
  Ord.compare (p.segments.map Name.text) (q.segments.map Name.text)

def le (p q : PackageName) : Bool :=
  (p.compare q).isLE

def outline (p : PackageName) : String :=
  let quoted (s : Segment) := String.ofList (Text.Quoted.encode s.text.toList)
  let segment (s : Segment) := "PackageNameUnqualified(" ++ quoted s ++ ")"
  "PackageNameQualified([" ++ ", ".intercalate (p.segments.map segment) ++ "])"

theorem ext_segments {p q : PackageName} (h : p.segments = q.segments) : p = q := by
  cases p; cases q; cases h; rfl

end PackageName

end RecordSchema
