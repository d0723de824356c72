import RecordSchema.Proofs.Source.Registered
import Mathlib.Data.Finset.Card

namespace RecordSchema

namespace Registration

variable {paths more : List String} {path other : String}

def keys (paths : List String) : List Path :=
  paths.map Path.ofText

lemma keys_concat (paths : List String) (path : String) : keys (paths ++ [path]) = keys paths ++ [Path.ofText path] :=
  List.map_append

def number? (paths : List String) (path : String) : Option FileId :=
  if Path.ofText path ∈ keys paths then some ⟨((keys paths).takeWhile (· ≠ Path.ofText path)).toFinset.card⟩
  else none

def spelling? (paths : List String) (path : String) : Option String :=
  paths.find? fun other => Path.ofText other = Path.ofText path

lemma number?_eq_none_iff : number? paths path = none ↔ Path.ofText path ∉ keys paths := by
  rw [number?, ite_eq_right_iff]
  simp

lemma number?_congr (h : Path.ofText other = Path.ofText path) : number? paths other = number? paths path := by
  rw [number?, number?, h]

lemma takeWhile_ne {before after : List Path} {key : Path} (h : key ∉ before) :
    (before ++ key :: after).takeWhile (· ≠ key) = before := by
  rw [List.takeWhile_append_of_pos, List.takeWhile_cons_of_neg (by simp), List.append_nil]
  intro other hother
  exact decide_eq_true (ne_of_mem_of_not_mem hother h)

lemma number?_append_of_mem (h : Path.ofText path ∈ keys paths) (more : List String) :
    number? (paths ++ more) path = number? paths path := by
  obtain ⟨before, after, hsplit, hbefore⟩ := List.eq_append_cons_of_mem h
  have hmem : Path.ofText path ∈ keys (paths ++ more) := by
    rw [keys, List.map_append]
    exact List.mem_append_left _ h
  have hmore : keys (paths ++ more) = before ++ Path.ofText path :: (after ++ keys more) := by
    rw [keys, List.map_append, ← keys, hsplit, List.append_assoc, List.cons_append, keys]
  rw [number?, number?, if_pos hmem, if_pos h, hmore, hsplit, takeWhile_ne hbefore, takeWhile_ne hbefore]

lemma number?_concat_of_ne (h : Path.ofText path ≠ Path.ofText other) :
    number? (paths ++ [other]) path = number? paths path := by
  by_cases hmem : Path.ofText path ∈ keys paths
  · exact number?_append_of_mem hmem _
  · rw [number?_eq_none_iff.mpr hmem, number?_eq_none_iff]
    simp only [keys, List.map_append, List.mem_append, not_or] at hmem ⊢
    exact ⟨hmem, by simpa using h⟩

lemma number?_concat_self (h : Path.ofText path ∉ keys paths) :
    number? (paths ++ [path]) path = some ⟨(keys paths).toFinset.card⟩ := by
  rw [number?, keys_concat, if_pos (by simp), takeWhile_ne h]

lemma spelling?_concat_self (h : Path.ofText path ∉ keys paths) : spelling? (paths ++ [path]) path = some path := by
  have hbefore : paths.find? (fun other => Path.ofText other = Path.ofText path) = none := by
    rw [List.find?_eq_none]
    intro other hother heq
    exact h (List.mem_map.mpr ⟨other, hother, of_decide_eq_true heq⟩)
  rw [spelling?, List.find?_append, hbefore]
  simp

end Registration

namespace SourceRegistry

open Registration

variable {r : SourceRegistry} {file : FileId} {path other : String} {paths : List String} {f : SourceFile}

lemma lookup?_congr (h : Path.ofText other = Path.ofText path) : r.lookup? other = r.lookup? path := by
  rw [lookup?, lookup?, h]

lemma lookup?_register_of_ne (h : Path.ofText other ≠ Path.ofText path) :
    (r.register path).2.lookup? other = r.lookup? other := by
  rw [lookup?_eq_findIdx?, lookup?_eq_findIdx?, paths_register]
  split
  · rfl
  · rw [List.findIdx?_append]
    simp [Ne.symm h]

lemma fst_register (r : SourceRegistry) (path : String) :
    (r.register path).1 = (r.lookup? path).getD ⟨r.paths.length⟩ := by
  rw [register, paths, List.length_map]
  cases r.lookup? path <;> rfl

lemma path_of_file? (h : r.file? file = some f) : r.path file = .ok f.path := by
  rw [SourceRegistry.path, h]

lemma exists_file? (h : r.path file = .ok path) : ∃ f, r.file? file = some f ∧ f.path = path := by
  rw [SourceRegistry.path] at h
  cases hfile : r.file? file with
  | none =>
    rw [hfile] at h
    cases h
  | some f =>
    rw [hfile] at h
    exact ⟨f, rfl, Except.ok.inj h⟩

lemma file?_register_of_some (h : r.file? file = some f) (path : String) :
    (r.register path).2.file? file = some f := by
  rw [SourceRegistry.register]
  cases r.lookup? path with
  | some other => exact h
  | none =>
    rw [file?, List.getElem?_append_left (List.getElem?_eq_some_iff.mp h).1]
    exact h

lemma file?_register (h : (r.register path).2.file? file = some f) :
    r.file? file = some f ∨ r.lookup? path = none ∧ f = { path } ∧ file = ⟨r.paths.length⟩ := by
  rw [SourceRegistry.register] at h
  cases hlookup : r.lookup? path with
  | some other =>
    rw [hlookup] at h
    exact .inl h
  | none =>
    rw [hlookup, file?, List.getElem?_append] at h
    split at h
    · exact .inl h
    · next hlt =>
      rw [List.getElem?_singleton] at h
      split at h
      · cases h
        refine .inr ⟨rfl, rfl, congrArg FileId.mk ?_⟩
        rw [paths, List.length_map]
        omega
      · cases h

lemma path_eq_ok_iff : r.path file = .ok path ↔ r.paths[file.index]? = some path := by
  rw [SourceRegistry.path, file?, paths, List.getElem?_map]
  cases r.files[file.index]? <;> simp

structure Numbers (paths : List String) (r : SourceRegistry) : Prop where
  lookup?_eq : ∀ path, r.lookup? path = number? paths path
  length_eq : r.paths.length = (keys paths).toFinset.card
  spelled : ∀ file path, r.path file = .ok path → r.lookup? path = some file ∧ spelling? paths path = some path

namespace Numbers

lemma empty : ({} : SourceRegistry).Numbers [] where
  lookup?_eq _ := rfl
  length_eq := rfl
  spelled := by rintro file path ⟨⟩

lemma of_paths {r' : SourceRegistry} (h : r.Numbers paths) (heq : r'.paths = r.paths) : r'.Numbers paths where
  lookup?_eq path := by
    rw [← h.lookup?_eq, lookup?_eq_findIdx?, lookup?_eq_findIdx?, heq]
  length_eq := heq ▸ h.length_eq
  spelled file path := by
    rw [path_eq_ok_iff, lookup?_eq_findIdx?, heq, ← lookup?_eq_findIdx?, ← path_eq_ok_iff]
    exact h.spelled file path

lemma fst_register (h : r.Numbers paths) (path : String) :
    number? (paths ++ [path]) path = some (r.register path).1 := by
  rw [SourceRegistry.fst_register, h.lookup?_eq, h.length_eq]
  by_cases hknown : Path.ofText path ∈ keys paths
  · obtain ⟨file, hfile⟩ := Option.ne_none_iff_exists'.mp (mt number?_eq_none_iff.mp (not_not_intro hknown))
    rw [number?_append_of_mem hknown, hfile, Option.getD_some]
  · rw [number?_concat_self hknown, number?_eq_none_iff.mpr hknown, Option.getD_none]

lemma lookup?_register (h : r.Numbers paths) (path other : String) :
    (r.register path).2.lookup? other = number? (paths ++ [path]) other := by
  by_cases heq : Path.ofText other = Path.ofText path
  · rw [lookup?_congr heq, SourceRegistry.lookup?_register, number?_congr heq, h.fst_register]
  · rw [lookup?_register_of_ne heq, number?_concat_of_ne heq, h.lookup?_eq]

lemma length_register (h : r.Numbers paths) (path : String) :
    (r.register path).2.paths.length = (keys (paths ++ [path])).toFinset.card := by
  rw [paths_register, h.lookup?_eq, keys_concat, List.toFinset_append]
  by_cases hknown : Path.ofText path ∈ keys paths
  · have hnumber : (number? paths path).isSome :=
      Option.isSome_iff_ne_none.mpr (mt number?_eq_none_iff.mp (not_not_intro hknown))
    rw [if_pos hnumber, h.length_eq]
    simp [hknown]
  · rw [number?_eq_none_iff.mpr hknown, if_neg (by simp), List.length_append, h.length_eq,
      Finset.card_union_of_disjoint (by simpa using hknown)]
    rfl

lemma spelled_register (h : r.Numbers paths) {spelled : String} (hfile : (r.register path).2.path file = .ok spelled) :
    (r.register path).2.lookup? spelled = some file ∧ spelling? (paths ++ [path]) spelled = some spelled := by
  obtain ⟨f, hf, rfl⟩ := exists_file? hfile
  obtain hold | ⟨hfresh, rfl, rfl⟩ := file?_register hf
  · obtain ⟨hlookup, hfirst⟩ := h.spelled file f.path (path_of_file? hold)
    refine ⟨r.register_extends path f.path file hlookup, ?_⟩
    rw [spelling?, List.find?_append, ← spelling?, hfirst, Option.some_or]
  · refine ⟨?_, spelling?_concat_self ?_⟩
    · rw [SourceRegistry.lookup?_register, SourceRegistry.fst_register, hfresh, Option.getD_none]
    · rwa [h.lookup?_eq, number?_eq_none_iff] at hfresh

lemma register (h : r.Numbers paths) (path : String) : (r.register path).2.Numbers (paths ++ [path]) where
  lookup?_eq := h.lookup?_register path
  length_eq := h.length_register path
  spelled _ _ := h.spelled_register

end Numbers

end SourceRegistry

end RecordSchema
