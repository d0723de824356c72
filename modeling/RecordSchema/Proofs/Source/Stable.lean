import RecordSchema.Proofs.Source.Calls
import Mathlib.Logic.Function.Basic

/-! A registry is a one-to-one correspondence between paths and numbers that only grows. -/

namespace RecordSchema

open SourceHistory Registration

/-- The files by their numbers, the numbers by the paths, and a counter of 32 bits. -/
structure SourceTables where
  files : FileId → Option SourceFile := fun _ => none
  numbers : Path → Option FileId := fun _ => none
  next : UInt32 := 0

namespace SourceTables

def lookup? (t : SourceTables) (path : String) : Option FileId :=
  t.numbers (Path.ofText path)

def register (t : SourceTables) (path : String) : FileId × SourceTables :=
  match t.lookup? path with
  | some file => (file, t)
  | none =>
    let file : FileId := ⟨t.next.toNat⟩
    let t := { t with next := t.next + 1 }
    let t := { t with files := Function.update t.files file (some { path }) }
    let t := { t with numbers := Function.update t.numbers (Path.ofText path) (some file) }
    (file, t)

def setContents (t : SourceTables) (file : FileId) (text : String) : SourceTables :=
  match t.files file with
  | some f => { t with files := Function.update t.files file (some { f with contents := some text }) }
  | none => t

def insert (t : SourceTables) (path text : String) : FileId × SourceTables :=
  let (file, t) := t.register path
  (file, t.setContents file text)

def path (t : SourceTables) (file : FileId) : Except SourceError String :=
  match t.files file with
  | some f => .ok f.path
  | none => .error (.unknownFile file)

def read (t : SourceTables) (disk : String → Except String String) (file : FileId) :
    Except SourceError (String × SourceTables) :=
  match t.files file with
  | none => .error (.unknownFile file)
  | some ⟨_, some text⟩ => .ok (text, t)
  | some ⟨path, none⟩ =>
    match disk path with
    | .error reason => .error (.unreadable path reason)
    | .ok text => .ok (text, t.setContents file text)

def answer (t : SourceTables) : SourceCall → SourceAnswer × SourceTables
  | .register path =>
    let (file, t) := t.register path
    (.file file, t)
  | .insert path text =>
    let (file, t) := t.insert path text
    (.file file, t)
  | .read file disk =>
    match t.read disk file with
    | .ok (text, t) => (.text (.ok text), t)
    | .error e => (.text (.error e), t)
  | .path file => (.path (t.path file), t)
  | .lookup path => (.found (t.lookup? path), t)

variable {t : SourceTables} {file : FileId} {path : String}

lemma register_of_known (h : t.lookup? path = some file) : t.register path = (file, t) := by
  rw [register, h]

lemma register_of_fresh (h : t.lookup? path = none) : t.register path = (⟨t.next.toNat⟩,
    { files := Function.update t.files ⟨t.next.toNat⟩ (some { path }),
      numbers := Function.update t.numbers (Path.ofText path) (some ⟨t.next.toNat⟩), next := t.next + 1 }) := by
  rw [register, h]

lemma answer_insert (t : SourceTables) (path text : String) : t.answer (.insert path text) =
    (.file (t.register path).1, (t.register path).2.setContents (t.register path).1 text) :=
  rfl

end SourceTables

namespace SourceRegistry

variable {r : SourceRegistry} {t : SourceTables} {history : SourceHistory} {call : SourceCall} {calls : List SourceCall}
  {file : FileId} {path : String} {f : SourceFile}

lemma file?_register_of_fresh (h : r.lookup? path = none) :
    (r.register path).2.file? = Function.update r.file? ⟨r.paths.length⟩ (some { path }) := by
  funext file
  rw [SourceRegistry.register, h, file?, paths, List.length_map]
  by_cases heq : file = ⟨r.files.length⟩
  · rw [heq, Function.update_self, List.getElem?_concat_length]
  · have hindex : file.index ≠ r.files.length := fun hindex => heq (congrArg FileId.mk hindex)
    rw [Function.update_of_ne heq, file?]
    grind

lemma file?_setContents_of_some (h : r.file? file = some f) (text : String) :
    (r.setContents file text).file? = Function.update r.file? file (some { f with contents := some text }) := by
  funext other
  rw [file?_setContents]
  by_cases heq : other = file
  · rw [heq, Function.update_self, h, Option.map_some, if_pos rfl]
  · simp [heq, Ne.symm heq]

structure Tracks (r : SourceRegistry) (t : SourceTables) : Prop where
  files : t.files = r.file?
  lookup? : t.lookup? = r.lookup?
  next : t.next.toNat = r.paths.length

namespace Tracks

lemma empty : ({} : SourceRegistry).Tracks {} :=
  ⟨rfl, rfl, rfl⟩

lemma register (h : r.Tracks t) (path : String) (hlt : (r.register path).2.paths.length < UInt32.size) :
    (t.register path).1 = (r.register path).1 ∧ (r.register path).2.Tracks (t.register path).2 := by
  cases hlookup : r.lookup? path with
  | some file =>
    rw [SourceTables.register_of_known (by rw [h.lookup?, hlookup]), SourceRegistry.register, hlookup]
    exact ⟨rfl, h⟩
  | none =>
    have hfile : (r.register path).1 = ⟨t.next.toNat⟩ := by
      rw [fst_register, hlookup, h.next, Option.getD_none]
    rw [SourceTables.register_of_fresh (by rw [h.lookup?, hlookup])]
    refine ⟨hfile.symm, ?_, ?_, ?_⟩
    · rw [file?_register_of_fresh hlookup, h.files, h.next]
    · funext other
      change Function.update t.numbers _ _ (Path.ofText other) = _
      by_cases heq : Path.ofText other = Path.ofText path
      · rw [heq, Function.update_self, lookup?_congr heq, lookup?_register, hfile]
      · rw [Function.update_of_ne heq, lookup?_register_of_ne heq, ← h.lookup?, SourceTables.lookup?]
    · have hpaths : (r.register path).2.paths.length = r.paths.length + 1 := by
        rw [paths_register, hlookup]
        exact List.length_append
      rw [hpaths] at hlt ⊢
      rw [UInt32.toNat_add, h.next]
      exact Nat.mod_eq_of_lt hlt

lemma setContents (h : r.Tracks t) (file : FileId) (text : String) :
    (r.setContents file text).Tracks (t.setContents file text) := by
  rw [SourceTables.setContents, h.files]
  cases hfile : r.file? file with
  | none =>
    rw [setContents_eq_self (by rw [hfile]; rintro f ⟨⟩)]
    exact h
  | some f =>
    refine ⟨?_, ?_, ?_⟩
    · rw [file?_setContents_of_some hfile]
    · funext path
      rw [lookup?_setContents, ← h.lookup?]
      rfl
    · rw [paths_setContents]
      exact h.next

lemma answer (h : r.Tracks t) (hlt : (r.answer call).2.paths.length < UInt32.size) :
    (t.answer call).1 = (r.answer call).1 ∧ (r.answer call).2.Tracks (t.answer call).2 := by
  cases call with
  | register path =>
    obtain ⟨hfile, hnext⟩ := h.register path hlt
    exact ⟨congrArg SourceAnswer.file hfile, hnext⟩
  | insert path text =>
    rw [answer_insert, paths_setContents] at hlt
    obtain ⟨hfile, hnext⟩ := h.register path hlt
    rw [answer_insert, SourceTables.answer_insert, hfile]
    exact ⟨rfl, hnext.setContents _ text⟩
  | read file disk =>
    rw [SourceTables.answer, SourceTables.read, SourceRegistry.answer, SourceRegistry.read, h.files]
    cases r.file? file with
    | none => exact ⟨rfl, h⟩
    | some f =>
      obtain ⟨path, contents⟩ := f
      cases contents with
      | some text => exact ⟨rfl, h⟩
      | none =>
        dsimp only
        cases disk path with
        | error reason => exact ⟨rfl, h⟩
        | ok text => exact ⟨rfl, h.setContents file text⟩
  | path file =>
    rw [SourceTables.answer, SourceTables.path, h.files]
    exact ⟨rfl, h⟩
  | lookup path =>
    rw [SourceTables.answer, h.lookup?]
    exact ⟨rfl, h⟩

lemma answers_alike (h : r.Tracks t) (hlt : (exchange SourceRegistry.answer r calls).2.paths.length < UInt32.size) :
    (exchange SourceTables.answer t calls).1 = (exchange SourceRegistry.answer r calls).1 := by
  induction calls generalizing r t with
  | nil => rfl
  | cons call calls ih =>
    rw [exchange_cons] at hlt
    -- Paths are only ever added, so the bound at the end is one at every step.
    have hstep := (paths_prefix_exchange (r.answer call).2 calls).length_le.trans_lt hlt
    obtain ⟨hanswer, hnext⟩ := h.answer hstep
    rw [exchange_cons, exchange_cons, hanswer, ih hnext hlt]

end Tracks

structure Tells (r : SourceRegistry) (history : SourceHistory) : Prop where
  /-- Numbers go by the order in which paths are registered first. -/
  lookup?_eq : ∀ path, r.lookup? path = number? (registered history) path
  registered_iff : ∀ path, (r.lookup? path).isSome ↔ Path.ofText path ∈ keys (registered history)
  issued_iff : ∀ file, (∃ path, r.path file = .ok path) ↔ file.index < (keys (registered history)).toFinset.card
  mutual_iff : ∀ path file, r.lookup? path = some file ↔
    ∃ spelled, r.path file = .ok spelled ∧ Path.ofText spelled = Path.ofText path
  spelled : ∀ file path, r.path file = .ok path → spelling? (registered history) path = some path
  /-- Whoever has registered a path has been given the number that it has now, and gets the path back for it. -/
  given : ∀ call answer path, (call, answer) ∈ history → call.path? = some path →
    ∃ file spelled, answer = .file file ∧ r.lookup? path = some file ∧
      r.path file = .ok spelled ∧ Path.ofText spelled = Path.ofText path
  /-- The text put in last comes first, then the one read first, and then the disk. -/
  read_eq : ∀ disk file, (r.read disk file).map Prod.fst = (r.path file).bind fun path =>
    match lastInserted? history path, firstRead? history file with
    | some text, _ => .ok text
    | none, some text => .ok text
    | none, none => (disk path).mapError (.unreadable path)

namespace Follows

lemma registered_iff (h : r.Follows history) (path : String) :
    (r.lookup? path).isSome ↔ Path.ofText path ∈ keys (registered history) := by
  rw [h.numbers.lookup?_eq, Option.isSome_iff_ne_none, ne_eq, number?_eq_none_iff, not_not]

lemma issued_iff (h : r.Follows history) (file : FileId) :
    (∃ path, r.path file = .ok path) ↔ file.index < (keys (registered history)).toFinset.card := by
  rw [← h.numbers.length_eq]
  simp only [path_eq_ok_iff]
  rw [← Option.isSome_iff_exists, isSome_getElem?]

lemma mutual_iff (h : r.Follows history) (path : String) (file : FileId) : r.lookup? path = some file ↔
    ∃ spelled, r.path file = .ok spelled ∧ Path.ofText spelled = Path.ofText path := by
  constructor
  · intro hfile
    obtain ⟨f, hf, heq⟩ := lookup?_eq_some hfile
    exact ⟨f.path, path_of_file? hf, heq⟩
  · rintro ⟨spelled, hspelled, heq⟩
    rw [← lookup?_congr heq]
    exact (h.numbers.spelled file spelled hspelled).1

lemma read_eq (h : r.Follows history) (disk : String → Except String String) (file : FileId) :
    (r.read disk file).map Prod.fst = (r.path file).bind fun path =>
      match lastInserted? history path, firstRead? history file with
      | some text, _ => .ok text
      | none, some text => .ok text
      | none, none => (disk path).mapError (.unreadable path) := by
  rw [SourceRegistry.read, SourceRegistry.path]
  cases hfile : r.file? file with
  | none => rfl
  | some f =>
    obtain ⟨path, contents⟩ := f
    have hheld := h.holds file _ hfile
    rw [held?] at hheld
    dsimp only [Except.bind] at hheld ⊢
    cases hlast : lastInserted? history path with
    | some text =>
      rw [hlast, Option.some_or] at hheld
      rw [hheld]
      rfl
    | none =>
      rw [hlast, Option.none_or] at hheld
      rw [hheld]
      cases firstRead? history file with
      | some text => rfl
      | none =>
        dsimp only
        cases disk path <;> rfl

lemma tells (h : r.Follows history) : r.Tells history where
  lookup?_eq := h.numbers.lookup?_eq
  registered_iff := h.registered_iff
  issued_iff := h.issued_iff
  mutual_iff := h.mutual_iff
  spelled file path hpath := (h.numbers.spelled file path hpath).2
  given call answer path hmem hpath := by
    obtain ⟨file, hanswer, hfile⟩ := h.given call answer path hmem hpath
    obtain ⟨spelled, hspelled, heq⟩ := (h.mutual_iff path file).mp hfile
    exact ⟨file, spelled, hanswer, hfile, hspelled, heq⟩
  read_eq := h.read_eq

end Follows

/-- The paths and the numbers go one to one, for good. A text that has been read is the text of its file until another
one is put in, whatever becomes of the disk. A counter of 32 bits does, for fewer paths than it counts. -/
theorem stable_one_to_one (calls more : List SourceCall) :
    let history := (exchange answer {} calls).1
    let r := (exchange answer {} calls).2
    r.Tells history ∧
    (∀ path file, r.lookup? path = some file → (exchange answer r more).2.lookup? path = some file) ∧
    (∀ file path, r.path file = .ok path → (exchange answer r more).2.path file = .ok path) ∧
    (∀ disk file path text r', r.path file = .ok path → r.read disk file = .ok (text, r') →
      (∀ call ∈ more, call.inserted? path = none) →
      ∀ later, ((exchange answer r' more).2.read later file).map Prod.fst = .ok text) ∧
    ((keys (registered history)).toFinset.card < UInt32.size →
      (exchange SourceTables.answer {} calls).1 = history) := by
  intro history r
  have hfollows : r.Follows history := follows_exchange calls
  have hmore := paths_prefix_exchange r more
  refine ⟨hfollows.tells, extends_of_prefix hmore, fun file path => path_of_prefix hmore, ?_, fun hlt => ?_⟩
  · intro disk file path text r' hpath hread hquiet later
    have hheld : r'.file? file = some ⟨path, some text⟩ := by
      obtain ⟨f, hf, _, rfl⟩ := read_eq_ok hread
      cases (path_of_file? hf).symm.trans hpath
      rw [file?_setContents, hf, Option.map_some, if_pos rfl]
    rw [read_of_held (file?_exchange hheld hquiet)]
    rfl
  · rw [← hfollows.numbers.length_eq] at hlt
    exact Tracks.empty.answers_alike hlt

def mixedCalls : List SourceCall :=
  [.register "a//b", .insert "c" "one", .register "a/b", .read ⟨0⟩ fun _ => .ok "two", .insert "c/." "three"]

def laterCalls : List SourceCall :=
  [.read ⟨0⟩ fun _ => .error "gone", .insert "c" "four", .lookup "d"]

lemma mixed_stable_one_to_one :
    let history := (exchange answer {} mixedCalls).1
    let r := (exchange answer {} mixedCalls).2
    let r' := (exchange answer r laterCalls).2
    (keys (registered history)).toFinset.card = 2 ∧ r.path ⟨0⟩ = .ok "a//b" ∧ r.lookup? "a/b" = some ⟨0⟩ ∧
    r.read (fun _ => .error "gone") ⟨0⟩ = .ok ("two", r) ∧ (∀ call ∈ laterCalls, call.inserted? "a//b" = none) ∧
    r.Tells history ∧ r'.lookup? "a/b" = some ⟨0⟩ ∧ r'.path ⟨0⟩ = .ok "a//b" ∧
    (∀ later, (r'.read later ⟨0⟩).map Prod.fst = .ok "two") ∧
    (exchange SourceTables.answer {} mixedCalls).1 = history := by
  intro history r r'
  obtain ⟨htells, hlookup, hpath, hread, htables⟩ := stable_one_to_one mixedCalls laterCalls
  have hcard : (keys (registered history)).toFinset.card = 2 := by decide +kernel
  have hspelled : r.path ⟨0⟩ = .ok "a//b" := by rfl
  have hfile : r.lookup? "a/b" = some ⟨0⟩ := by decide +kernel
  have htext : r.read (fun _ => .error "gone") ⟨0⟩ = .ok ("two", r) := by rfl
  have hquiet : ∀ call ∈ laterCalls, call.inserted? "a//b" = none := by decide +kernel
  have hlt : (keys (registered history)).toFinset.card < UInt32.size := by
    rw [hcard]
    decide
  exact ⟨hcard, hspelled, hfile, htext, hquiet, htells, hlookup _ _ hfile, hpath _ _ hspelled,
    hread _ _ _ _ _ hspelled htext hquiet, htables hlt⟩

end SourceRegistry

end RecordSchema
