import RecordSchema.Capability.Descriptor
import RecordSchema.Document.Toml
import RecordSchema.Source.FileTree

namespace RecordSchema.Capabilities

def ofToml (text : String) : Except DescriptorError Capabilities :=
  match Document.ofToml? text with
  | some document => ofDocument true document
  | none => .error .malformed

inductive FileError where
  | unreadable (path : String)
  | rejected (path : String) (error : DescriptorError)
deriving DecidableEq, Repr

def FileError.message : FileError → String
  | unreadable path => "Failed to read capability descriptor: " ++ path
  | rejected path _ => "Failed to parse capability descriptor: " ++ path

def ofFile (tree : FileTree) (path : String) : Except FileError Capabilities :=
  match tree.file? path with
  | some (.text content) => (ofToml content).mapError (.rejected (tree.pathTo path))
  | _ => .error (.unreadable (tree.pathTo path))

end RecordSchema.Capabilities
