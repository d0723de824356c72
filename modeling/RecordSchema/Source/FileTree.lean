import RecordSchema.Collection.Upsert
import RecordSchema.Source.Path

namespace RecordSchema

inductive FileContents where
  | text (content : String)
  | binary
deriving DecidableEq, Repr

namespace FileContents

def ofBytes (bytes : List UInt8) : FileContents :=
  match String.fromUTF8? ⟨bytes.toArray⟩ with
  | some content => text content
  | none => binary

def read : FileContents → Except String String
  | text content => .ok content
  | binary => .error "stream did not contain valid UTF-8"

end FileContents

abbrev Place := List (List Char)

namespace Place

/-- Where one part of a path leads. Two dots lead back, but not out of the tree. -/
def step (here : Place) (part : List Char) : Option Place :=
  if part = [] ∨ part = ['.'] then some here
  else if part ≠ ['.', '.'] then some (here ++ [part])
  else if here = [] then none
  else some here.dropLast

def steps : (here : Place) → List (List Char) → Option (List Place)
  | _, [] => some []
  | here, part :: rest => do
    let next ← step here part
    some (next :: (← steps next rest))

def along (path : String) : Option (List Place) :=
  if path.toList.head? = some '/' then none else steps [] (Text.splitOn '/' path.toList)

end Place

structure FileTree where
  root : String
  files : List (Place × FileContents) := []
  directories : List Place := []
deriving DecidableEq, Repr

namespace FileTree

def pathTo (tree : FileTree) (path : String) : String :=
  String.ofList (Path.join tree.root.toList path.toList)

def isDirectory (tree : FileTree) (place : Place) : Bool :=
  place = [] || tree.directories.contains place

def addDirectory (tree : FileTree) (path : String) : FileTree :=
  { tree with directories := tree.directories ++ (Place.along path).getD [] }

def add (tree : FileTree) (path : String) (contents : FileContents) : FileTree :=
  let places := (Place.along path).getD []
  match places.getLast? with
  | none => tree
  | some place =>
    { tree with
      files := upsert Prod.fst (place, contents) tree.files
      directories := tree.directories ++ places.dropLast }

def file? (tree : FileTree) (path : String) : Option FileContents := do
  let places ← Place.along path
  let place ← places.getLast?
  if places.dropLast.all tree.isDirectory then tree.files.lookup place else none

end FileTree

end RecordSchema
