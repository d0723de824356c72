import RecordSchema.Proofs.Source.Filed

namespace RecordSchema

def enlist (names : List PackageName) (name : PackageName) : List PackageName :=
  if name ∈ names then names else names ++ [name]

namespace SourceRegistry

def Lists (r : SourceRegistry) (l : Library) (names : List PackageName) : Prop :=
  r.paths = names.map l.path

lemma paths_register (r : SourceRegistry) (path : String) :
    (r.register path).2.paths = if (r.lookup? path).isSome then r.paths else r.paths ++ [path] := by
  rw [register]
  cases r.lookup? path with
  | some file => rfl
  | none => exact List.map_append

lemma paths_read {r r' : SourceRegistry} {disk : String → Except String String} {file : FileId} {text : String}
    (h : r.read disk file = .ok (text, r')) : r'.paths = r.paths := by
  unfold read at h
  split at h
  · cases h
  · cases h
    rfl
  · split at h
    · cases h
    · cases h
      exact paths_setContents r file _

variable {r : SourceRegistry} {l : Library} {names : List PackageName}

lemma Lists.empty (l : Library) : ({} : SourceRegistry).Lists l [] :=
  rfl

lemma Lists.lookup? (h : r.Lists l names) (name : PackageName) :
    r.lookup? (l.path name) = (names.findIdx? (· = name)).map FileId.mk := by
  have hsame (other : PackageName) :
      decide (Path.ofText (l.path other) = Path.ofText (l.path name)) = decide (other = name) := by
    rw [decide_eq_decide]
    exact ⟨l.path_injective, fun heq => by rw [heq]⟩
  rw [lookup?_eq_findIdx?, h, List.findIdx?_map]
  congr 2
  funext other
  exact hsame other

lemma Lists.register (h : r.Lists l names) (name : PackageName) :
    (r.register (l.path name)).2.Lists l (enlist names name) := by
  have hknown : (r.lookup? (l.path name)).isSome = decide (name ∈ names) := by
    rw [h.lookup?, Option.isSome_map, List.findIdx?_isSome, Bool.eq_iff_iff]
    simp
  rw [Lists, paths_register, hknown, enlist]
  by_cases hname : name ∈ names
  · simp only [hname, decide_true, if_true]
    exact h
  · simp only [hname, decide_false, Bool.false_eq_true, if_false]
    rw [h, List.map_append]
    rfl

end SourceRegistry

namespace Library

variable {l : Library} {name : PackageName} {fetch : Fetch} {s : Store} {names : List PackageName}

lemma fetch_lists (hfetch : l.fetch? name = some fetch) (h : s.sources.Lists l names) :
    fetch.Ends s fun _ s' => s'.sources.Lists l (enlist names name) := by
  have hregistered := h.register name
  cases l with
  | texts sources =>
    rw [fetch?_texts] at hfetch
    obtain ⟨text, _, rfl⟩ := Option.map_eq_some_iff.mp hfetch
    refine .of_run rfl ?_
    change (SourceRegistry.setContents _ _ _).paths = _
    rw [SourceRegistry.paths_setContents]
    exact hregistered
  | files tree =>
    rw [fetch?_files] at hfetch
    obtain ⟨contents, _, rfl⟩ := Option.map_eq_some_iff.mp hfetch
    cases hread : Fetch.reads tree name contents s with
    | error e => exact .of_run (Fetch.fromFile_run_error hread) hregistered
    | ok found => exact .of_run (Fetch.fromFile_run_ok hread) ((SourceRegistry.paths_read hread).trans hregistered)

end Library

end RecordSchema
