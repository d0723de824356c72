import RecordSchema.Proofs.Load.Fetch
import RecordSchema.Proofs.Source.Place
import Mathlib.Data.List.Basic

namespace RecordSchema

namespace Library

def entries : Library → List (PackageName × FileContents)
  | texts sources => sources.map fun (name, text) => (name, .text text)
  | files tree => tree.files.filterMap fun (place, contents) =>
      (FileTree.packageAt? place).map fun name => (name, contents)

def source? (l : Library) (name : PackageName) : Option (Except Diagnostic String) :=
  (l.entries.lookup name).map fun contents => contents.read.mapError fun reason =>
    .unreadable name (SourceError.unreadable (l.path name) reason).detail

end Library

namespace SourceRegistry

def Extends (r r' : SourceRegistry) : Prop :=
  ∀ path file, r.lookup? path = some file → r'.lookup? path = some file

lemma Extends.refl (r : SourceRegistry) : r.Extends r :=
  fun _ _ h => h

lemma Extends.trans {r r' r'' : SourceRegistry} (h : r.Extends r') (h' : r'.Extends r'') : r.Extends r'' :=
  fun path file hfile => h' path file (h path file hfile)

variable {r : SourceRegistry} {path : String} {file : FileId}

lemma lookup?_eq_some (h : r.lookup? path = some file) :
    ∃ f, r.file? file = some f ∧ Path.ofText f.path = Path.ofText path := by
  obtain ⟨i, hi, rfl⟩ := Option.map_eq_some_iff.mp h
  obtain ⟨hlt, heq, _⟩ := List.findIdx?_eq_some_iff_getElem.mp hi
  exact ⟨r.files[i], List.getElem?_eq_getElem hlt, of_decide_eq_true heq⟩

lemma register_extends (r : SourceRegistry) (path : String) : r.Extends (r.register path).2 := by
  rw [register]
  cases r.lookup? path with
  | some file => exact .refl r
  | none =>
    intro other file h
    obtain ⟨i, hi, rfl⟩ := Option.map_eq_some_iff.mp h
    simp only [lookup?, List.findIdx?_append, hi, Option.some_or, Option.map_some]

lemma lookup?_register (r : SourceRegistry) (path : String) :
    (r.register path).2.lookup? path = some (r.register path).1 := by
  rw [register]
  cases h : r.lookup? path with
  | some file => exact h
  | none =>
    have hnone := Option.map_eq_none_iff.mp h
    simp [lookup?, List.findIdx?_append, hnone]

lemma lookup?_eq_findIdx? (r : SourceRegistry) (path : String) : r.lookup? path =
    (r.paths.findIdx? fun other => Path.ofText other = Path.ofText path).map FileId.mk := by
  rw [paths, List.findIdx?_map]
  rfl

@[simp] lemma paths_setContents (r : SourceRegistry) (file : FileId) (text : String) :
    (r.setContents file text).paths = r.paths := by
  refine List.ext_getElem? fun i => ?_
  simp only [paths, setContents, List.getElem?_map, List.getElem?_modify]
  cases r.files[i]? with
  | none => rfl
  | some f => by_cases h : file.index = i <;> simp [h]

lemma lookup?_setContents (r : SourceRegistry) (file : FileId) (text path : String) :
    (r.setContents file text).lookup? path = r.lookup? path := by
  rw [lookup?_eq_findIdx?, lookup?_eq_findIdx?, paths_setContents]

lemma setContents_extends (r : SourceRegistry) (file : FileId) (text : String) :
    r.Extends (r.setContents file text) := by
  intro path other h
  rwa [lookup?_setContents]

def Filed (r : SourceRegistry) (l : Library) : Prop :=
  ∀ f ∈ r.files, ∃ name, f.path = l.path name ∧ ∀ text ∈ f.contents, l.source? name = some (.ok text)

namespace Filed

variable {l : Library} {name : PackageName}

lemma empty (l : Library) : ({} : SourceRegistry).Filed l := by
  rintro f ⟨⟩

lemma register (h : r.Filed l) (name : PackageName) : (r.register (l.path name)).2.Filed l := by
  rw [SourceRegistry.register]
  cases r.lookup? (l.path name) with
  | some file => exact h
  | none =>
    intro f hf
    rcases List.mem_append.mp hf with hf | hf
    · exact h f hf
    · rw [List.mem_singleton.mp hf]
      exact ⟨name, rfl, by rintro text ⟨⟩⟩

lemma exists_file? (h : r.Filed l) (hfile : r.lookup? (l.path name) = some file) :
    ∃ contents, r.file? file = some ⟨l.path name, contents⟩ ∧
      ∀ text ∈ contents, l.source? name = some (.ok text) := by
  obtain ⟨f, hf, heq⟩ := lookup?_eq_some hfile
  obtain ⟨other, hpath, hcontents⟩ := h f (List.mem_of_getElem? hf)
  obtain rfl := l.path_injective (hpath ▸ heq)
  exact ⟨f.contents, by rw [hf, ← hpath], hcontents⟩

lemma setContents {text : String} (h : r.Filed l) (hfile : r.lookup? (l.path name) = some file)
    (htext : l.source? name = some (.ok text)) : (r.setContents file text).Filed l := by
  obtain ⟨contents, hget, _⟩ := h.exists_file? hfile
  intro f hf
  obtain ⟨i, hi⟩ := List.mem_iff_getElem?.mp hf
  rw [SourceRegistry.setContents, List.getElem?_modify] at hi
  obtain ⟨g, hg, rfl⟩ := Option.map_eq_some_iff.mp hi
  by_cases heq : file.index = i
  · rw [file?, heq, hg] at hget
    cases hget
    exact ⟨name, by simp [heq], by simpa [heq] using htext⟩
  · simpa [heq] using h g (List.mem_of_getElem? hg)

end Filed

end SourceRegistry

namespace Library

variable {l : Library} {name : PackageName} {fetch : Fetch} {s : Store}

lemma fetch?_texts (sources : List (PackageName × String)) (name : PackageName) :
    (texts sources).fetch? name = (sources.lookup name).map (.fromMemory name) :=
  lookup_map_values Fetch.fromMemory name sources

lemma lookup_entries_texts (sources : List (PackageName × String)) (name : PackageName) :
    (texts sources).entries.lookup name = (sources.lookup name).map .text :=
  lookup_map_values (fun _ => FileContents.text) name sources

lemma source?_texts (sources : List (PackageName × String)) (name : PackageName) :
    (texts sources).source? name = (sources.lookup name).map .ok := by
  rw [source?, lookup_entries_texts, Option.map_map]
  rfl

lemma fetch?_files (tree : FileTree) (name : PackageName) : (files tree).fetch? name =
    ((files tree).entries.lookup name).map (.fromFile tree name) := by
  rw [← lookup_map_values (Fetch.fromFile tree) name, entries, List.map_filterMap, fetch?, fetches]
  congr 2
  funext entry
  rw [Option.map_map]
  rfl

lemma fetch?_isSome (l : Library) (name : PackageName) : (l.fetch? name).isSome = (l.source? name).isSome := by
  cases l with
  | texts sources => rw [fetch?_texts, source?_texts, Option.isSome_map, Option.isSome_map]
  | files tree => rw [fetch?_files, source?, Option.isSome_map, Option.isSome_map]

inductive Gets (l : Library) (name : PackageName) (s : Store) : Except LoadError (FileId × String) → Store → Prop
  | text {text : String} {file : FileId} {sources : SourceRegistry} (source : l.source? name = some (.ok text))
      (registered : sources.lookup? (l.path name) = some file) (extends_ : s.sources.Extends sources)
      (filed : sources.Filed l) : Gets l name s (.ok (file, text)) { s with sources }
  | unread {d : Diagnostic} {sources : SourceRegistry} (source : l.source? name = some (.error d))
      (extends_ : s.sources.Extends sources) (filed : sources.Filed l) :
      Gets l name s (.error (.failed name)) (Store.reporting { s with sources } d)

lemma fromMemory_gets {text : String} (hsource : l.source? name = some (.ok text))
    (hpath : l.path name = String.ofList (name.chars ++ sourceSuffix)) (hs : s.sources.Filed l) :
    (Fetch.fromMemory name text).Ends s (l.Gets name s) := by
  have hregistered := s.sources.lookup?_register (l.path name)
  have hfiled := (hs.register name).setContents hregistered hsource
  have hextends := (s.sources.register_extends (l.path name)).trans
    (SourceRegistry.setContents_extends _ (s.sources.register (l.path name)).1 text)
  rw [← SourceRegistry.lookup?_setContents _ (s.sources.register (l.path name)).1 text] at hregistered
  refine .of_run ?_ (.text hsource hregistered hextends hfiled)
  rw [hpath]
  rfl

lemma fromFile_gets {tree : FileTree} {contents : FileContents} (hpath : l.path name = tree.packagePath name)
    (hsource : l.source? name = some (contents.read.mapError fun reason =>
      .unreadable name (SourceError.unreadable (l.path name) reason).detail)) (hs : s.sources.Filed l) :
    (Fetch.fromFile tree name contents).Ends s (l.Gets name s) := by
  let registered : Store := { s with sources := (s.sources.register (l.path name)).2 }
  have hregistered : registered.sources.lookup? (l.path name) = some (s.sources.register (l.path name)).1 :=
    s.sources.lookup?_register (l.path name)
  have hextends : s.sources.Extends registered.sources := s.sources.register_extends (l.path name)
  have hfiled : registered.sources.Filed l := hs.register name
  have hreads : Fetch.reads tree name contents s =
      registered.sources.read (fun _ => contents.read) (s.sources.register (l.path name)).1 := by
    rw [Fetch.reads, Fetch.registering, ← hpath]
  have hread (text : String) (sources : SourceRegistry) (h : Fetch.reads tree name contents s = .ok (text, sources)) :
      (Fetch.fromFile tree name contents).run s =
        .ok (.ok ((s.sources.register (l.path name)).1, text)) { registered with sources } := by
    rw [hpath]
    exact Fetch.fromFile_run_ok h
  have hunread (e : SourceError) (h : Fetch.reads tree name contents s = .error e) :
      (Fetch.fromFile tree name contents).run s =
        .ok (.error (.failed name)) (registered.reporting (.unreadable name e.detail)) := by
    have hrun := Fetch.fromFile_run_error h
    rwa [Fetch.registering, ← hpath] at hrun
  obtain ⟨held, hfile, htexts⟩ := hfiled.exists_file? hregistered
  rw [hreads, SourceRegistry.read, hfile] at hread hunread
  cases held with
  | some text => exact .of_run (hread _ _ rfl) (.text (htexts text rfl) hregistered hextends hfiled)
  | none =>
    dsimp only at hread hunread
    cases hcontents : contents.read with
    | error reason =>
      rw [hcontents] at hunread hsource
      exact .of_run (hunread _ rfl) (.unread hsource hextends hfiled)
    | ok text =>
      rw [hcontents] at hread hsource
      have hkept := hregistered
      rw [← SourceRegistry.lookup?_setContents _ (s.sources.register (l.path name)).1 text] at hkept
      exact .of_run (hread _ _ rfl) (.text hsource hkept (hextends.trans (SourceRegistry.setContents_extends _ _ _))
        (hfiled.setContents hregistered hsource))

theorem fetch_gets (h : l.fetch? name = some fetch) (hs : s.sources.Filed l) : fetch.Ends s (l.Gets name s) := by
  cases l with
  | texts sources =>
    rw [fetch?_texts] at h
    obtain ⟨text, htext, rfl⟩ := Option.map_eq_some_iff.mp h
    exact fromMemory_gets (by rw [source?_texts, htext]; rfl) rfl hs
  | files tree =>
    rw [fetch?_files] at h
    obtain ⟨contents, hcontents, rfl⟩ := Option.map_eq_some_iff.mp h
    exact fromFile_gets rfl (by rw [source?, hcontents]; rfl) hs

end Library

end RecordSchema
