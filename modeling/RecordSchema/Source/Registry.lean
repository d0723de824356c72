import RecordSchema.Source.Path
import RecordSchema.Source.Position

namespace RecordSchema

structure SourceFile where
  /-- The path as it was written when the file was registered. -/
  path : String
  contents : Option String := none
deriving DecidableEq, Repr

inductive SourceError where
  | unknownFile (file : FileId)
  | unreadable (path reason : String)
deriving DecidableEq, Repr

namespace SourceError

def message : SourceError → String
  | unknownFile file => "File not found: " ++ file.render
  | unreadable path _ => "Failed to read source file: " ++ path

def detail : SourceError → String
  | unknownFile file => (unknownFile file).message
  | unreadable path reason => (unreadable path reason).message ++ ": " ++ reason

end SourceError

structure SourceRegistry where
  files : List SourceFile := []
deriving DecidableEq, Repr

namespace SourceRegistry

def empty : SourceRegistry := {}

def lookup? (r : SourceRegistry) (path : String) : Option FileId :=
  (r.files.findIdx? fun f => Path.ofText f.path = Path.ofText path).map FileId.mk

/-- A path gets one number, whichever way and however often it is registered. -/
def register (r : SourceRegistry) (path : String) : FileId × SourceRegistry :=
  match r.lookup? path with
  | some file => (file, r)
  | none => (⟨r.files.length⟩, ⟨r.files ++ [{ path }]⟩)

def setContents (r : SourceRegistry) (file : FileId) (text : String) : SourceRegistry :=
  ⟨r.files.modify file.index fun f => { f with contents := some text }⟩

def insert (r : SourceRegistry) (path text : String) : FileId × SourceRegistry :=
  let (file, r) := r.register path
  (file, r.setContents file text)

def file? (r : SourceRegistry) (file : FileId) : Option SourceFile :=
  r.files[file.index]?

def path (r : SourceRegistry) (file : FileId) : Except SourceError String :=
  match r.file? file with
  | some f => .ok f.path
  | none => .error (.unknownFile file)

/-- The contents of a file, fetched from `disk` if none are held yet and kept from then on. -/
def read (r : SourceRegistry) (disk : String → Except String String) (file : FileId) :
    Except SourceError (String × SourceRegistry) :=
  match r.file? file with
  | none => .error (.unknownFile file)
  | some ⟨_, some text⟩ => .ok (text, r)
  | some ⟨path, none⟩ =>
    match disk path with
    | .error reason => .error (.unreadable path reason)
    | .ok text => .ok (text, r.setContents file text)

def paths (r : SourceRegistry) : List String :=
  r.files.map SourceFile.path

end SourceRegistry

end RecordSchema
