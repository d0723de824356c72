import RecordSchema.Proofs.Load.Trail
import RecordSchema.Proofs.Load.Statement

namespace RecordSchema

namespace Run

lemma run_conclude_kept {name : PackageName} {queued : Nat} {package : Package} {s : Store}
    (h : s.diagnostics.length = queued) :
    (conclude name queued (.ok package)).run s = .ok (.ok package) { s with packages := s.packages ++ [package] } := by
  rw [conclude]
  simp only [EStateM.run_bind, EStateM.run_get, if_pos h]
  rfl

lemma run_conclude_dropped {name : PackageName} {queued : Nat} {package : Package} {s : Store}
    (h : s.diagnostics.length ≠ queued) :
    (conclude name queued (.ok package)).run s = .ok (.error (.failed name)) s := by
  rw [conclude]
  simp only [EStateM.run_bind, EStateM.run_get, if_neg h]
  rfl

lemma eq_of_conclude {chain : List PackageName} {name : PackageName} {queued : Nat} {r r' : Except LoadError Package}
    {s s' : Store} (h : (stopLoading chain >>= fun _ => conclude name queued r).run s = .ok r' s') :
    ∃ packages, s' = { s.leaving chain with packages } := by
  have hleave : (stopLoading chain).run s = .ok () (s.leaving chain) := rfl
  rw [EStateM.run_bind, hleave] at h
  cases r with
  | error e =>
    cases h
    exact ⟨_, rfl⟩
  | ok package =>
    by_cases hlength : (s.leaving chain).diagnostics.length = queued
    · cases (run_conclude_kept hlength).symm.trans h
      exact ⟨_, rfl⟩
    · cases (run_conclude_dropped hlength).symm.trans h
      exact ⟨_, rfl⟩

lemma diagnostics_of_conclude {chain : List PackageName} {name : PackageName} {queued : Nat}
    {r r' : Except LoadError Package} {s s' : Store}
    (h : (stopLoading chain >>= fun _ => conclude name queued r).run s = .ok r' s') :
    s'.diagnostics = s.diagnostics := by
  obtain ⟨packages, rfl⟩ := eq_of_conclude h
  rfl

end Run

namespace Catalog

variable {k : Catalog} {chain : List PackageName} {name : PackageName} {importer : Option Position} {s : Store}

lemma loadOn_of_kept {package : Package} (h : s.package? name = some package) :
    (k.loadOn chain name importer).run s = .ok (.ok package) s := by
  rw [loadOn]
  simp only [EStateM.run_bind, EStateM.run_get, h]
  rfl

lemma loadOn_of_cycle {current : PackageName} (h : s.package? name = none) (hchain : name ∈ chain)
    (hlast : chain.getLast? = some current) :
    (k.loadOn chain name importer).run s = .ok (.error (.circular name))
      (Store.reporting { s with imports := s.imports.add ⟨current, name, importer⟩ } (.circularImport
        (((s.imports.add ⟨current, name, importer⟩).shortestPath name current).getD [] ++ [⟨current, name, importer⟩])
        importer)) := by
  rw [loadOn]
  simp only [EStateM.run_bind, EStateM.run_get, h, hlast, dif_pos hchain]
  rfl

lemma loadOn_of_supplied {supply : Supplier} (h : s.package? name = none) (hchain : name ∉ chain)
    (hk : k.supplier? name = some supply) :
    (k.loadOn chain name importer).run s =
      (supply (fun other p => k.loadOn (chain ++ [name]) other p) importer >>= fun result =>
        Run.stopLoading chain >>= fun _ => Run.conclude name s.diagnostics.length result).run
          (s.entering chain name importer) := by
  rw [loadOn]
  simp only [EStateM.run_bind, EStateM.run_get, h, dif_neg hchain, Store.entering]
  cases chain.getLast? with
  | none =>
    dsimp only
    split
    · next supply' hk' => cases hk.symm.trans hk'; rfl
    · next hk' => cases hk.symm.trans hk'
  | some current =>
    dsimp only
    split
    · next supply' hk' => cases hk.symm.trans hk'; rfl
    · next hk' => cases hk.symm.trans hk'

lemma loadOn_of_missing (h : s.package? name = none) (hchain : name ∉ chain) (hk : k.supplier? name = none) :
    (k.loadOn chain name importer).run s = .ok (.error (.failed name))
      (((s.entering chain name importer).reporting (.resolution ⟨.packageNonexistent name, importer⟩)).leaving chain) := by
  rw [loadOn]
  simp only [EStateM.run_bind, EStateM.run_get, h, dif_neg hchain, Store.entering]
  cases chain.getLast? with
  | none =>
    dsimp only
    split
    · next supply' hk' => cases hk.symm.trans hk'
    · rfl
  | some current =>
    dsimp only
    split
    · next supply' hk' => cases hk.symm.trans hk'
    · rfl

end Catalog

end RecordSchema
