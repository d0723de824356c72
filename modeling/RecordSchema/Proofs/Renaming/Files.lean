import RecordSchema.Proofs.Renaming.Basic

namespace RecordSchema.Diagnostic

def positions : Diagnostic → List Position
  | circularImport path p => path.filterMap Import.position ++ p.toList
  | d => d.position?.toList

def files (d : Diagnostic) : List FileId :=
  d.positions.map Position.file

variable {r : Renaming}

lemma positions_rename (d : Diagnostic) : (d.rename r).positions = d.positions.map (.rename r) := by
  cases d with
  | circularImport path p =>
    change (path.map (.rename r)).filterMap Import.position ++ (p.map (.rename r)).toList = List.map _ (_ ++ _)
    have hposition (i : Import) : (i.rename r).position = i.position.map (.rename r) := rfl
    have hpath := filterMap_map_of_eq hposition path
    rw [hpath, List.map_append]
    cases p <;> rfl
  | resolution e => cases h : e.position <;> simp [positions, position?, h]
  | lexical | parse | check | unreadable => rfl

lemma files_rename (d : Diagnostic) : (d.rename r).files = d.files.map r.file := by
  rw [files, files, positions_rename, List.map_map, List.map_map]
  rfl

lemma rename_eq_self {d : Diagnostic} (h : ∀ k ∈ d.files, r.file k = k) : d.rename r = d := by
  have hposition : ∀ p ∈ d.positions, p.rename r = p := fun p hp => by
    rw [Position.rename, h _ (List.mem_map_of_mem hp)]
  cases d with
  | lexical e => exact congrArg (fun p => lexical ⟨e.problem, p⟩) (hposition _ List.mem_cons_self)
  | parse e => exact congrArg (fun p => parse ⟨e.problem, p⟩) (hposition _ List.mem_cons_self)
  | check e => exact congrArg (fun p => check ⟨e.problem, p⟩) (hposition _ List.mem_cons_self)
  | resolution e =>
    obtain ⟨problem, _ | p⟩ := e
    · rfl
    · exact congrArg (fun p => resolution ⟨problem, some p⟩) (hposition p List.mem_cons_self)
  | circularImport path p =>
    have himport : ∀ i ∈ path, i.rename r = id i := by
      rintro ⟨source, target, _ | q⟩ hi
      · rfl
      · have hq : q ∈ path.filterMap Import.position := List.mem_filterMap.mpr ⟨_, hi, rfl⟩
        exact congrArg (fun q => Import.mk source target (some q)) (hposition q (List.mem_append_left _ hq))
    have hpath : path.map (.rename r) = path := (List.map_congr_left himport).trans (List.map_id path)
    have hp : p.map (.rename r) = p := by
      cases p with
      | none => rfl
      | some p => exact congrArg some (hposition p (List.mem_append_right _ (List.mem_singleton_self p)))
    rw [rename, hpath, hp]
  | unreadable package reason => rfl

lemma file_eq_of_rename {d : Diagnostic} (h : d.rename r = d) : ∀ k ∈ d.files, r.file k = k := by
  have hfiles := d.files_rename (r := r)
  rw [h, ← List.map_id d.files, List.map_map] at hfiles
  exact fun k hk => (List.map_inj_left.mp hfiles k hk).symm

end RecordSchema.Diagnostic
