import RecordSchema.Proofs.Afresh.Load
import RecordSchema.Proofs.Afresh.Numbered
import RecordSchema.Proofs.Load.Session
import RecordSchema.Proofs.Renaming.Files

/-! What was asked for before makes no difference to a load. -/

namespace RecordSchema

variable {l : Library} {c : Capabilities} {name : PackageName} {s s' t t' : Store} {r r' : Except LoadError Package}
  {found found' : List Diagnostic} {lost lost' : List Package}

inductive Answers (name : PackageName) :
    Attempt (List Diagnostic) Yield → Except LoadError Package → List Diagnostic → Prop
  | ok (y : Yield) : Answers name (.ok y) (.ok y.package) []
  | error (found : List Diagnostic) : Answers name (.error (.error found)) (.error (.failed name)) found

lemma Answers.rename {ρ : Renaming} {x x' : Attempt (List Diagnostic) Yield} (h : Answers name x r found)
    (h' : Answers name x' r' found') (hx : Attempt.Mirrors (List.map (Diagnostic.relocate ρ)) (Yield.relocate ρ) x x') :
    r' = r.map (.rename ρ) ∧ found' = found.map (.rename ρ) := by
  rw [Renaming.package_eq, Renaming.diagnostic_eq]
  cases h <;> cases hx <;> cases h' <;> exact ⟨rfl, rfl⟩

structure Store.Settled (l : Library) (c : Capabilities) (s : Store) : Prop where
  idle : s.Idle c
  kept : s.Kept l c []

lemma Store.Settled.initial (l : Library) (c : Capabilities) : ({} : Store).Settled l c :=
  ⟨⟨.initial, .initial⟩, .initial l c⟩

lemma Store.Settled.drained (h : s.Settled l c) : Store.Settled l c { s with diagnostics := [] } :=
  ⟨h.idle.drained, h.kept.of_eq (.of_eq rfl rfl (Nat.le_refl _)) rfl rfl⟩

structure Library.Gives (l : Library) (c : Capabilities) (name : PackageName) (s : Store) (r : Except LoadError Package)
    (s' : Store) (lost : List Package) (found : List Diagnostic) : Prop where
  settled : s'.Settled l c
  kept : s'.Kept l c lost
  sources : s.sources.Extends s'.sources
  reported : s'.diagnostics = s.diagnostics ++ found
  again : ∀ n : Numbering, n.Suits l s' lost → Answers name (l.afresh c n [] name none) r found

namespace Library

lemma load_settles (hs : s.Settled l c) (name : PackageName) (importer : Option Position) :
    ((l.catalog c).load name importer).Ends s fun _ s' => s'.Settled l c := by
  have hretells := l.loadOn_retells c [] [] (by rintro q ⟨⟩) name importer s hs.idle.sound hs.idle.trail hs.kept
  refine ((load_ends hs.idle name importer).and (.of_run_eq (run_load hs.idle.trail name importer) hretells)).mono ?_
  rintro r s' ⟨⟨_, hidle⟩, hretold⟩
  cases hretold with
  | found kept _ => exact ⟨hidle, kept⟩
  | failed lost found _ kept _ _ _ =>
    exact ⟨hidle, kept.mono (.refl s') rfl (.refl _) kept.filed (List.nil_subset _)⟩

lemma load_gives (hs : s.Settled l c) (name : PackageName) :
    ((l.catalog c).load name none).Ends s fun r s' => ∃ lost found, l.Gives c name s r s' lost found := by
  have hretells := l.loadOn_retells c [] [] (by rintro q ⟨⟩) name none s hs.idle.sound hs.idle.trail hs.kept
  refine ((load_settles hs name none).and ((load_ends hs.idle name none).and
    (.of_run_eq (run_load hs.idle.trail name none) hretells))).mono ?_
  rintro r s' ⟨hsettled, ⟨hloaded, _⟩, hretold⟩
  cases hretold with
  | @found p _ kept sources =>
    obtain ⟨hmem, rfl, hdiagnostics, _⟩ := hloaded.found p rfl
    obtain ⟨y, hy, rfl⟩ := kept.certified p hmem
    refine ⟨[], [], hsettled, kept, sources, by rw [hdiagnostics, List.append_nil], fun n hn => ?_⟩
    rw [hy.again n hn [] none fun m _ => List.not_mem_nil]
    exact .ok y
  | failed lost found named kept sources reported again =>
    obtain rfl := named List.not_mem_nil
    refine ⟨lost, found, hsettled, kept, sources, reported, fun n hn => ?_⟩
    rw [again n hn]
    exact .error found

lemma serve_settles : ∀ (requests : List Request) {s : Store}, s.Settled l c →
    ((l.catalog c).serve requests).Ends s fun _ s' => s'.Settled l c
  | [], s, h => .pure h
  | .load name importer :: rest, s, h => by
    rw [Catalog.serve]
    exact (load_settles h name importer).bind fun _ _ hs => serve_settles rest hs
  | .takeDiagnostics :: rest, s, h => by
    rw [Catalog.serve]
    have htake : Run.takeDiagnostics.Ends s fun _ s' => s'.Settled l c := .of_run rfl h.drained
    exact htake.bind fun _ _ h => serve_settles rest h

lemma settled_of_serve {requests : List Request} (h : ((l.catalog c).serve requests).run {} = .ok () s) :
    s.Settled l c :=
  (serve_settles requests (.initial l c)).elim h

end Library

namespace Library.Gives

lemma registered (h : l.Gives c name s r s' lost found) :
    ∀ d ∈ found, ∀ k ∈ d.files, ∃ p, s'.sources.lookup? (l.path p) = some k := by
  classical
  intro d hd k hk
  by_contra hfree
  let moves : Renaming := ⟨fun file => if file = k then ⟨k.index + 1⟩ else file, id, Function.injective_id⟩
  obtain ⟨n, hn, _, _⟩ := h.kept.exists_numbering
  have hmoved : (n.rename moves).Suits l s' lost := by
    refine ⟨fun p file hfile => ?_, fun e he => hn.identifier e he⟩
    have hne : file ≠ k := by
      rintro rfl
      exact hfree ⟨p, hfile⟩
    change (if n.file p = k then _ else n.file p) = file
    rw [hn.file p file hfile, if_neg hne]
  obtain ⟨_, hsame⟩ := (h.again n hn).rename (h.again _ hmoved) (l.afresh_mirrors c n [] name none)
  have hrename : d.rename moves = d :=
    List.map_inj_left.mp (hsame.symm.trans (List.map_id found).symm) d hd
  have hfixed : (if k = k then (⟨k.index + 1⟩ : FileId) else k) = k := Diagnostic.file_eq_of_rename hrename k hk
  rw [if_pos rfl] at hfixed
  exact Nat.succ_ne_self k.index (congrArg FileId.index hfixed)

lemma exists_renaming (h : l.Gives c name s r s' lost found) (h' : l.Gives c name t r' t' lost' found') :
    ∃ ρ : Renaming, ρ.file.Injective ∧ r' = r.map (.rename ρ) ∧ found' = found.map (.rename ρ) ∧
      ∀ d ∈ found, ∀ k ∈ d.files, ∃ p, s'.sources.lookup? (l.path p) = some k ∧
        t'.sources.lookup? (l.path p) = some (ρ.file k) := by
  obtain ⟨n, hn, hfile, hidentifier⟩ := h.kept.exists_numbering
  obtain ⟨ρ, hinjective, hn'⟩ := h'.kept.exists_renaming hfile hidentifier
  obtain ⟨hr, hfound⟩ := (h.again n hn).rename (h'.again _ hn') (l.afresh_mirrors c n [] name none)
  refine ⟨ρ, hinjective, hr, hfound, fun d hd k hk => ?_⟩
  obtain ⟨p, hp⟩ := h.registered d hd k hk
  have hd' : d.rename ρ ∈ found' := hfound ▸ List.mem_map_of_mem hd
  have hk' : ρ.file k ∈ (d.rename ρ).files := by
    rw [Diagnostic.files_rename]
    exact List.mem_map_of_mem hk
  obtain ⟨q, hq⟩ := h'.registered _ hd' _ hk'
  have heq : n.file p = n.file q := by
    rw [hn.file p k hp]
    exact hinjective (hn'.file q _ hq).symm
  exact ⟨p, hp, hfile heq ▸ hq⟩

lemma again_same (h : l.Gives c name s r s' lost found) (h' : l.Gives c name s' r' t' lost' found') :
    found' = found := by
  obtain ⟨ρ, _, _, hfound, hfiles⟩ := h.exists_renaming h'
  have hsame : ∀ d ∈ found, d.rename ρ = d := fun d hd => Diagnostic.rename_eq_self fun k hk => by
    obtain ⟨p, hp, hp'⟩ := hfiles d hd k hk
    exact Option.some.inj (hp'.symm.trans (h'.sources _ _ hp))
  exact hfound.trans ((List.map_congr_left hsame).trans (List.map_id found))

lemma path_eq (h : l.Gives c name s r s' lost found) {p : PackageName} {k : FileId}
    (hk : s'.sources.lookup? (l.path p) = some k) : s'.sources.path k = .ok (l.path p) := by
  obtain ⟨contents, hfile, _⟩ := h.kept.filed.exists_file? hk
  rw [SourceRegistry.path, hfile]

end Library.Gives

/-- What was asked for before makes no difference to the load of a package: after any two sequences of requests it
succeeds or fails alike, with equal packages or diagnostics up to new numbers for declarations and files. A new number
of a file that is reported on has the same path. What fails and is tried again reports the same again. -/
theorem Library.load_forgets_history (l : Library) (c : Capabilities) (requests requests' : List Request)
    (name : PackageName) : ∃ s t r s' t' found, ∃ ρ : Renaming,
      ((l.catalog c).serve requests).run {} = .ok () s ∧ ((l.catalog c).serve requests').run {} = .ok () t ∧
      ((l.catalog c).load name none).run s = .ok r s' ∧
      ((l.catalog c).load name none).run t = .ok (r.map (.rename ρ)) t' ∧ ρ.file.Injective ∧
      s'.diagnostics = s.diagnostics ++ found ∧ t'.diagnostics = t.diagnostics ++ found.map (.rename ρ) ∧
      (∀ d ∈ found, ∀ k ∈ d.files, ∃ path, s'.sources.path k = .ok path ∧ t'.sources.path (ρ.file k) = .ok path) ∧
      ∀ e, r = .error e → ∃ s'', ((l.catalog c).load name none).run s' = .ok (.error e) s'' ∧
        s''.diagnostics = s'.diagnostics ++ found := by
  have hinitial : ({} : Store).Settled l c := ⟨⟨.initial, .initial⟩, .initial l c⟩
  obtain ⟨_, s, hserve, hs⟩ := serve_settles requests hinitial
  obtain ⟨_, t, hserve', ht⟩ := serve_settles requests' hinitial
  obtain ⟨r, s', hrun, lost, found, h⟩ := load_gives hs name
  obtain ⟨r', t', hrun', lost', found', h'⟩ := load_gives ht name
  obtain ⟨ρ, hinjective, rfl, rfl, hfiles⟩ := h.exists_renaming h'
  refine ⟨s, t, r, s', t', found, ρ, hserve, hserve', hrun, hrun', hinjective, h.reported, h'.reported,
    fun d hd k hk => ?_, ?_⟩
  · obtain ⟨p, hp, hp'⟩ := hfiles d hd k hk
    exact ⟨l.path p, h.path_eq hp, h'.path_eq hp'⟩
  · rintro e rfl
    obtain ⟨r'', s'', hrun'', lost'', found'', h''⟩ := load_gives h.settled name
    obtain ⟨ρ', _, rfl, _⟩ := h.exists_renaming h''
    exact ⟨s'', hrun'', by rw [h''.reported, h.again_same h'']⟩

end RecordSchema
