import RecordSchema.Proofs.Collection.Exchange
import RecordSchema.Proofs.Source.Numbers
import Mathlib.Data.List.Induction

namespace RecordSchema

/-- What may be asked of a registry. What the disk holds, it holds at that moment. -/
inductive SourceCall where
  | register (path : String)
  | insert (path text : String)
  | read (file : FileId) (disk : String → Except String String)
  | path (file : FileId)
  | lookup (path : String)

inductive SourceAnswer where
  | file (file : FileId)
  | text (result : Except SourceError String)
  | path (result : Except SourceError String)
  | found (file : Option FileId)

abbrev SourceHistory := List (SourceCall × SourceAnswer)

def SourceRegistry.answer (r : SourceRegistry) : SourceCall → SourceAnswer × SourceRegistry
  | .register path =>
    let (file, r) := r.register path
    (.file file, r)
  | .insert path text =>
    let (file, r) := r.insert path text
    (.file file, r)
  | .read file disk =>
    match r.read disk file with
    | .ok (text, r) => (.text (.ok text), r)
    | .error e => (.text (.error e), r)
  | .path file => (.path (r.path file), r)
  | .lookup path => (.found (r.lookup? path), r)

namespace SourceCall

def path? : SourceCall → Option String
  | register written => some written
  | insert written _ => some written
  | _ => none

def inserted? (wanted : String) : SourceCall → Option String
  | insert written text => if Path.ofText written = Path.ofText wanted then some text else none
  | _ => none

end SourceCall

namespace SourceHistory

variable {history : SourceHistory} {path : String} {file : FileId}

def registered (history : SourceHistory) : List String :=
  history.filterMap fun entry => entry.1.path?

def lastInserted? (history : SourceHistory) (path : String) : Option String :=
  history.reverse.findSome? fun entry => entry.1.inserted? path

def readOf? (file : FileId) : SourceCall × SourceAnswer → Option String
  | (.read other _, .text (.ok text)) => if other = file then some text else none
  | _ => none

def firstRead? (history : SourceHistory) (file : FileId) : Option String :=
  history.findSome? (readOf? file)

lemma registered_concat (history : SourceHistory) (entry : SourceCall × SourceAnswer) :
    registered (history ++ [entry]) = registered history ++ entry.1.path?.toList := by
  rw [registered, List.filterMap_append, ← registered]
  cases h : entry.1.path? <;> simp [h]

lemma registered_concat_of_none {entry : SourceCall × SourceAnswer} (h : entry.1.path? = none) :
    registered (history ++ [entry]) = registered history := by
  rw [registered_concat, h]
  exact List.append_nil _

lemma lastInserted?_concat (history : SourceHistory) (entry : SourceCall × SourceAnswer) (path : String) :
    lastInserted? (history ++ [entry]) path = (entry.1.inserted? path).or (lastInserted? history path) := by
  rw [lastInserted?, List.reverse_concat, List.findSome?_cons, ← lastInserted?]
  cases entry.1.inserted? path <;> rfl

lemma firstRead?_concat (history : SourceHistory) (entry : SourceCall × SourceAnswer) (file : FileId) :
    firstRead? (history ++ [entry]) file = (firstRead? history file).or (readOf? file entry) := by
  rw [firstRead?, List.findSome?_append, ← firstRead?, List.findSome?_singleton]

def held? (history : SourceHistory) (file : FileId) (path : String) : Option String :=
  (lastInserted? history path).or (firstRead? history file)

lemma held?_concat (history : SourceHistory) (entry : SourceCall × SourceAnswer) (file : FileId) (path : String) :
    held? (history ++ [entry]) file path =
      (entry.1.inserted? path).or ((held? history file path).or (readOf? file entry)) := by
  rw [held?, lastInserted?_concat, firstRead?_concat, Option.or_assoc, held?, Option.or_assoc]

lemma lastInserted?_eq_none (h : Path.ofText path ∉ Registration.keys (registered history)) :
    lastInserted? history path = none := by
  rw [lastInserted?, List.findSome?_eq_none_iff]
  rintro ⟨call, answer⟩ hentry
  cases call with
  | insert other text =>
    have hmem : other ∈ registered history := List.mem_filterMap.mpr ⟨_, List.mem_reverse.mp hentry, rfl⟩
    exact if_neg fun heq => h (List.mem_map.mpr ⟨other, hmem, heq⟩)
  | register | read | path | lookup => rfl

end SourceHistory

open SourceHistory Registration

namespace SourceRegistry

variable {r r' : SourceRegistry} {history : SourceHistory} {call : SourceCall} {file other : FileId}
  {path text : String} {disk : String → Except String String} {f : SourceFile}

lemma file?_setContents (r : SourceRegistry) (file other : FileId) (text : String) :
    (r.setContents file text).file? other =
      (r.file? other).map fun f => if file = other then { f with contents := some text } else f := by
  rw [file?, setContents, List.getElem?_modify, ← file?]
  have hiff : file.index = other.index ↔ file = other := by
    cases file
    cases other
    simp
  simp only [hiff]
  split <;> simp

lemma setContents_eq_self (h : ∀ f, r.file? file = some f → f.contents = some text) : r.setContents file text = r := by
  obtain ⟨files⟩ := r
  rw [setContents, SourceRegistry.mk.injEq]
  refine List.ext_getElem? fun i => ?_
  rw [List.getElem?_modify]
  by_cases heq : file.index = i
  · subst heq
    cases hfile : files[file.index]? with
    | none => rfl
    | some f =>
      rw [← h f hfile]
      simp
  · simp [heq]

lemma read_of_held (h : r.file? file = some ⟨path, some text⟩) (disk : String → Except String String) :
    r.read disk file = .ok (text, r) := by
  rw [SourceRegistry.read, h]

lemma read_eq_ok (h : r.read disk file = .ok (text, r')) : ∃ f, r.file? file = some f ∧
    (f.contents = some text ∨ f.contents = none ∧ disk f.path = .ok text) ∧ r' = r.setContents file text := by
  rw [SourceRegistry.read] at h
  cases hfile : r.file? file with
  | none =>
    rw [hfile] at h
    cases h
  | some f =>
    obtain ⟨path, contents⟩ := f
    rw [hfile] at h
    cases contents with
    | some text =>
      cases h
      refine ⟨_, rfl, .inl rfl, (setContents_eq_self fun f hf => ?_).symm⟩
      cases hfile.symm.trans hf
      rfl
    | none =>
      cases hdisk : disk path with
      | error reason =>
        simp only [hdisk] at h
        cases h
      | ok text =>
        simp only [hdisk] at h
        cases h
        exact ⟨_, rfl, .inr ⟨rfl, hdisk⟩, rfl⟩

lemma answer_insert (r : SourceRegistry) (path text : String) : r.answer (.insert path text) =
    (.file (r.register path).1, (r.register path).2.setContents (r.register path).1 text) :=
  rfl

lemma answer_read_error {e : SourceError} (h : r.read disk file = .error e) :
    r.answer (.read file disk) = (.text (.error e), r) := by
  rw [answer, h]

lemma answer_read_ok (h : r.read disk file = .ok (text, r')) : r.answer (.read file disk) = (.text (.ok text), r') := by
  rw [answer, h]

lemma paths_prefix_register (r : SourceRegistry) (path : String) : r.paths <+: (r.register path).2.paths := by
  rw [paths_register]
  split
  · exact List.prefix_rfl
  · exact List.prefix_append _ _

lemma paths_prefix_answer (r : SourceRegistry) (call : SourceCall) : r.paths <+: (r.answer call).2.paths := by
  cases call with
  | register path => exact r.paths_prefix_register path
  | insert path text =>
    rw [answer_insert, paths_setContents]
    exact r.paths_prefix_register path
  | read file disk =>
    cases hread : r.read disk file with
    | error e =>
      rw [answer_read_error hread]
    | ok found =>
      rw [answer_read_ok hread, paths_read hread]
  | path | lookup => exact List.prefix_rfl

lemma paths_prefix_exchange (r : SourceRegistry) (calls : List SourceCall) :
    r.paths <+: (exchange answer r calls).2.paths := by
  induction calls generalizing r with
  | nil => exact List.prefix_rfl
  | cons call calls ih => exact (r.paths_prefix_answer call).trans (ih _)

lemma path_of_prefix (h : r.paths <+: r'.paths) (hpath : r.path file = .ok path) : r'.path file = .ok path := by
  rw [path_eq_ok_iff] at hpath ⊢
  obtain ⟨hlt, rfl⟩ := List.getElem?_eq_some_iff.mp hpath
  exact List.prefix_iff_getElem?.mp h _ hlt

lemma extends_of_prefix (h : r.paths <+: r'.paths) : r.Extends r' := by
  intro path file hfile
  rw [lookup?_eq_findIdx?] at hfile ⊢
  obtain ⟨i, hi, rfl⟩ := Option.map_eq_some_iff.mp hfile
  obtain ⟨added, hadded⟩ := h
  rw [← hadded, List.findIdx?_append, hi]
  rfl

lemma file?_answer (h : r.file? file = some ⟨path, some text⟩) (hcall : call.inserted? path = none) :
    (r.answer call).2.file? file = some ⟨path, some text⟩ := by
  cases call with
  | register other => exact file?_register_of_some h other
  | insert written new =>
    have hkept := file?_register_of_some h written
    have hne : (r.register written).1 ≠ file := by
      rintro rfl
      obtain ⟨f, hf, heq⟩ := lookup?_eq_some (r.lookup?_register written)
      cases hf.symm.trans hkept
      rw [SourceCall.inserted?, if_pos heq.symm] at hcall
      cases hcall
    rw [answer_insert, file?_setContents, hkept, Option.map_some, if_neg hne]
  | read other disk =>
    cases hread : r.read disk other with
    | error e =>
      rw [answer_read_error hread]
      exact h
    | ok found =>
      obtain ⟨f, hf, htext, heq⟩ := read_eq_ok hread
      rw [answer_read_ok hread, heq, file?_setContents, h, Option.map_some]
      by_cases hfile : other = file
      · rw [hfile, h] at hf
        cases hf
        rw [if_pos hfile]
        obtain htext | ⟨hnone, _⟩ := htext
        · rw [← htext]
        · cases hnone
      · rw [if_neg hfile]
  | path | lookup => exact h

lemma file?_exchange {calls : List SourceCall} (h : r.file? file = some ⟨path, some text⟩)
    (hcalls : ∀ call ∈ calls, call.inserted? path = none) :
    (exchange answer r calls).2.file? file = some ⟨path, some text⟩ := by
  induction calls generalizing r with
  | nil => exact h
  | cons call calls ih =>
    obtain ⟨hcall, hcalls⟩ := List.forall_mem_cons.mp hcalls
    exact ih (file?_answer h hcall) hcalls

structure Follows (r : SourceRegistry) (history : SourceHistory) : Prop where
  numbers : r.Numbers (registered history)
  holds : ∀ file f, r.file? file = some f → f.contents = held? history file f.path
  issued : ∀ file text, firstRead? history file = some text → ∃ path, r.path file = .ok path
  given : ∀ call answer path, (call, answer) ∈ history → call.path? = some path →
    ∃ file, answer = .file file ∧ r.lookup? path = some file

lemma Numbers.answer (h : r.Numbers (registered history)) (call : SourceCall) :
    (r.answer call).2.Numbers (registered (history ++ [(call, (r.answer call).1)])) := by
  cases call with
  | register path =>
    rw [registered_concat]
    exact h.register path
  | insert path text =>
    rw [registered_concat]
    exact (h.register path).of_paths (paths_setContents _ _ _)
  | read file disk =>
    rw [registered_concat_of_none rfl]
    cases hread : r.read disk file with
    | error e =>
      rw [answer_read_error hread]
      exact h
    | ok found =>
      rw [answer_read_ok hread]
      exact h.of_paths (paths_read hread)
  | path | lookup =>
    rw [registered_concat_of_none rfl]
    exact h

namespace Follows

lemma empty : ({} : SourceRegistry).Follows [] where
  numbers := .empty
  holds := by rintro file f ⟨⟩
  issued := by rintro file text ⟨⟩
  given := by rintro call answer path ⟨⟩

lemma holds_register (h : r.Follows history) (hf : (r.register path).2.file? file = some f) :
    f.contents = held? history file f.path := by
  obtain hold | ⟨hfresh, rfl, rfl⟩ := file?_register hf
  · exact h.holds file f hold
  · have hinserted : lastInserted? history path = none := by
      rw [h.numbers.lookup?_eq, number?_eq_none_iff] at hfresh
      exact lastInserted?_eq_none hfresh
    have hread : firstRead? history ⟨r.paths.length⟩ = none := by
      rw [Option.eq_none_iff_forall_ne_some]
      intro text htext
      obtain ⟨other, hother⟩ := h.issued _ text htext
      rw [path_eq_ok_iff, List.getElem?_length] at hother
      cases hother
    rw [held?, hinserted, hread]
    rfl

lemma holds_answer (h : r.Follows history) (hf : (r.answer call).2.file? file = some f) :
    f.contents = held? (history ++ [(call, (r.answer call).1)]) file f.path := by
  rw [held?_concat]
  cases call with
  | register path =>
    rw [h.holds_register hf]
    exact (Option.or_none).symm
  | insert written text =>
    rw [answer_insert, file?_setContents] at hf
    obtain ⟨g, hg, rfl⟩ := Option.map_eq_some_iff.mp hf
    by_cases hfile : (r.register written).1 = file
    · obtain ⟨_, hg', hpath⟩ := lookup?_eq_some (r.lookup?_register written)
      cases hg.symm.trans (hfile ▸ hg')
      rw [if_pos hfile, SourceCall.inserted?, if_pos hpath.symm]
      rfl
    · -- Two files whose paths are equal are one.
      have hpath : Path.ofText written ≠ Path.ofText g.path := by
        intro heq
        have hlookup := ((h.numbers.register written).spelled file g.path (path_of_file? hg)).1
        rw [← lookup?_congr heq, lookup?_register] at hlookup
        exact hfile (Option.some.inj hlookup)
      rw [if_neg hfile, SourceCall.inserted?, if_neg hpath, h.holds_register hg]
      exact (Option.or_none).symm
  | read other disk =>
    cases hread : r.read disk other with
    | error e =>
      rw [answer_read_error hread] at hf ⊢
      rw [h.holds file f hf]
      exact (Option.or_none).symm
    | ok found =>
      obtain ⟨g, hg, htext, heq⟩ := read_eq_ok hread
      rw [answer_read_ok hread, heq, file?_setContents] at hf
      obtain ⟨g', hg', rfl⟩ := Option.map_eq_some_iff.mp hf
      rw [answer_read_ok hread, readOf?]
      by_cases hfile : other = file
      · subst hfile
        cases hg.symm.trans hg'
        rw [if_pos rfl, if_pos rfl, ← h.holds other g hg]
        obtain htext | ⟨hnone, _⟩ := htext
        · rw [htext]
          rfl
        · rw [hnone]
          rfl
      · rw [if_neg hfile, if_neg hfile, h.holds file g' hg', Option.or_none]
        rfl
  | path | lookup =>
    rw [h.holds file f hf]
    exact (Option.or_none).symm

lemma issued_answer (h : r.Follows history)
    (hread : firstRead? (history ++ [(call, (r.answer call).1)]) file = some text) :
    ∃ path, (r.answer call).2.path file = .ok path := by
  rw [firstRead?_concat, Option.or_eq_some_iff] at hread
  obtain hbefore | ⟨_, hnow⟩ := hread
  · obtain ⟨path, hpath⟩ := h.issued file text hbefore
    exact ⟨path, path_of_prefix (r.paths_prefix_answer call) hpath⟩
  · cases call with
    | read other disk =>
      cases hanswer : r.read disk other with
      | error e =>
        rw [answer_read_error hanswer] at hnow
        cases hnow
      | ok found =>
        obtain ⟨f, hf, _⟩ := read_eq_ok hanswer
        rw [answer_read_ok hanswer, readOf?] at hnow
        split at hnow
        · next heq =>
          subst heq
          exact ⟨f.path, path_of_prefix (r.paths_prefix_answer _) (path_of_file? hf)⟩
        · cases hnow
    | register | insert | path | lookup => cases hnow

lemma given_answer (hpath : call.path? = some path) :
    ∃ file, (r.answer call).1 = .file file ∧ (r.answer call).2.lookup? path = some file := by
  cases call with
  | register written =>
    cases hpath
    exact ⟨_, rfl, r.lookup?_register path⟩
  | insert written text =>
    cases hpath
    refine ⟨_, rfl, ?_⟩
    rw [answer_insert, lookup?_setContents]
    exact r.lookup?_register path
  | read | path | lookup => cases hpath

lemma answer (h : r.Follows history) (call : SourceCall) :
    (r.answer call).2.Follows (history ++ [(call, (r.answer call).1)]) where
  numbers := h.numbers.answer call
  holds _ _ := h.holds_answer
  issued _ _ := h.issued_answer
  given other answer path hmem hpath := by
    obtain hmem | hmem := List.mem_append.mp hmem
    · obtain ⟨file, hanswer, hfile⟩ := h.given other answer path hmem hpath
      exact ⟨file, hanswer, extends_of_prefix (r.paths_prefix_answer call) path file hfile⟩
    · cases List.mem_singleton.mp hmem
      exact given_answer hpath

end Follows

lemma follows_exchange (calls : List SourceCall) :
    (exchange answer {} calls).2.Follows (exchange answer {} calls).1 := by
  induction calls using List.reverseRecOn with
  | nil => exact .empty
  | append_singleton calls call ih =>
    rw [exchange_concat]
    exact ih.answer call

end SourceRegistry

end RecordSchema
