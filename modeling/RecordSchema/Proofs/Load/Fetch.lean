import RecordSchema.Compile.Sources
import RecordSchema.Proofs.Load.Statement

namespace RecordSchema

lemma lookup_map_values {κ α β : Type} [DecidableEq κ] (g : κ → α → β) (k : κ) : ∀ items : List (κ × α),
    (items.map fun entry => (entry.1, g entry.1 entry.2)).lookup k = (items.lookup k).map (g k)
  | [] => rfl
  | (key, a) :: rest => by
    rw [List.map_cons, List.lookup_cons, List.lookup_cons]
    cases heq : k == key with
    | true =>
      rw [eq_of_beq heq]
      rfl
    | false => exact lookup_map_values g k rest

inductive Fetched (s : Store) : Except LoadError (FileId × String) → Store → Prop
  | read (found : FileId × String) (sources : SourceRegistry) : Fetched s (.ok found) { s with sources }
  | unread (e : LoadError) (sources : SourceRegistry) {d : Diagnostic} (plain : d.isCircular = false) :
      Fetched s (.error e) (Store.reporting { s with sources } d)

namespace Fetch

lemma fromMemory_ends (name : PackageName) (text : String) (s : Store) :
    (fromMemory name text).Ends s (Fetched s) :=
  .of_run rfl (.read _ _)

section

variable {tree : FileTree} {name : PackageName} {contents : FileContents} {s : Store}

def registering (tree : FileTree) (name : PackageName) (s : Store) : Store :=
  { s with sources := (s.sources.register (tree.packagePath name)).2 }

def reads (tree : FileTree) (name : PackageName) (contents : FileContents) (s : Store) :
    Except SourceError (String × SourceRegistry) :=
  (registering tree name s).sources.read (fun _ => contents.read) (s.sources.register (tree.packagePath name)).1

lemma fromFile_run_ok {text : String} {sources : SourceRegistry} (h : reads tree name contents s = .ok (text, sources)) :
    (fromFile tree name contents).run s =
      .ok (.ok ((s.sources.register (tree.packagePath name)).1, text)) { s with sources } := by
  rw [reads, registering] at h
  rw [fromFile, EStateM.run_bind, Run.readFile]
  simp only [EStateM.run_bind, EStateM.run_modifyGet, EStateM.run_get]
  rw [h]
  rfl

lemma fromFile_run_error {e : SourceError} (h : reads tree name contents s = .error e) :
    (fromFile tree name contents).run s =
      .ok (.error (.failed name)) ((registering tree name s).reporting (.unreadable name e.detail)) := by
  rw [reads, registering] at h
  rw [fromFile, EStateM.run_bind, Run.readFile]
  simp only [EStateM.run_bind, EStateM.run_modifyGet, EStateM.run_get]
  rw [h]
  rfl

end

lemma fromFile_ends (tree : FileTree) (name : PackageName) (contents : FileContents) (s : Store) :
    (fromFile tree name contents).Ends s (Fetched s) := by
  cases hread : reads tree name contents s with
  | error e => exact .of_run (fromFile_run_error hread) (.unread _ _ rfl)
  | ok found => exact .of_run (fromFile_run_ok hread) (.read _ _)

end Fetch

namespace Library

variable {l : Library} {c : Capabilities} {name : PackageName} {fetch : Fetch}

lemma fetch_ends (h : l.fetch? name = some fetch) (s : Store) : fetch.Ends s (Fetched s) := by
  obtain ⟨before, after, hsplit, _⟩ := List.lookup_eq_some_iff.mp h
  have hmem : (name, fetch) ∈ l.fetches := by simp [hsplit]
  cases l with
  | texts sources =>
    obtain ⟨⟨_, text⟩, _, heq⟩ := List.mem_map.mp hmem
    cases heq
    exact Fetch.fromMemory_ends _ text s
  | files tree =>
    obtain ⟨⟨place, contents⟩, _, heq⟩ := List.mem_filterMap.mp hmem
    obtain ⟨_, _, heq⟩ := Option.map_eq_some_iff.mp heq
    cases heq
    exact Fetch.fromFile_ends tree _ contents s

lemma supplier?_catalog (l : Library) (c : Capabilities) (name : PackageName) :
    (l.catalog c).supplier? name = (l.fetch? name).map (Catalog.compiling c name) :=
  lookup_map_values (Catalog.compiling c) name l.fetches

lemma supplier?_of_fetch (h : l.fetch? name = some fetch) :
    (l.catalog c).supplier? name = some (Catalog.compiling c name fetch) := by
  rw [supplier?_catalog, h, Option.map_some]

lemma supplier?_of_no_fetch (h : l.fetch? name = none) : (l.catalog c).supplier? name = none := by
  rw [supplier?_catalog, h, Option.map_none]

end Library

end RecordSchema
