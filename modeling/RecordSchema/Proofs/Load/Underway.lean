import RecordSchema.Proofs.Load.Statement
import RecordSchema.Proofs.Load.Trail

namespace RecordSchema

def Store.Reports (s s' : Store) : Prop :=
  ∃ found, s'.diagnostics = s.diagnostics ++ found ∧ (found.filter Diagnostic.isCircular).length ≤ 1

def Store.ReportsPlain (s s' : Store) : Prop :=
  ∃ found, s'.diagnostics = s.diagnostics ++ found ∧ found.filter Diagnostic.isCircular = []

namespace Store.ReportsPlain

variable {s s' s'' : Store}

lemma of_eq (h : s'.diagnostics = s.diagnostics) : s.ReportsPlain s' :=
  ⟨[], by simpa using h, rfl⟩

lemma report (s : Store) {d : Diagnostic} (h : d.isCircular = false) : s.ReportsPlain (s.reporting d) :=
  ⟨[d], rfl, by simp [h]⟩

lemma trans (h : s.ReportsPlain s') (h' : s'.ReportsPlain s'') : s.ReportsPlain s'' := by
  obtain ⟨found, hs, hfound⟩ := h
  obtain ⟨found', hs', hfound'⟩ := h'
  exact ⟨found ++ found', by rw [hs', hs, List.append_assoc], by rw [List.filter_append, hfound, hfound']; rfl⟩

lemma reports (h : s.ReportsPlain s') : s.Reports s' := by
  obtain ⟨found, hs, hfound⟩ := h
  exact ⟨found, hs, by simp [hfound]⟩

lemma trans_reports (h : s.ReportsPlain s') (h' : s'.Reports s'') : s.Reports s'' := by
  obtain ⟨found, hs, hfound⟩ := h
  obtain ⟨found', hs', hfound'⟩ := h'
  refine ⟨found ++ found', by rw [hs', hs, List.append_assoc], ?_⟩
  rwa [List.filter_append, hfound]

end Store.ReportsPlain

lemma Store.Reports.trans_plain {s s' s'' : Store} (h : s.Reports s') (h' : s'.ReportsPlain s'') :
    s.Reports s'' := by
  obtain ⟨found, hs, hfound⟩ := h
  obtain ⟨found', hs', hfound'⟩ := h'
  refine ⟨found ++ found', by rw [hs', hs, List.append_assoc], ?_⟩
  rwa [List.filter_append, hfound', List.append_nil]

lemma Store.Grows.declaring (s : Store) (d : Declaration) : s.Grows (s.declaring d) :=
  ⟨List.subset_append_left _ _, List.Subset.refl _, Nat.le_succ _⟩

structure Loaded (c : Capabilities) (chain : Chain) (name : PackageName) (s : Store)
    (r : Except LoadError Package) (s' : Store) : Prop where
  sound : s'.Sound c
  grows : s.Grows s'
  reports : s.Reports s'
  found : ∀ p, r = .ok p → p ∈ s'.packages ∧ p.name = name ∧ s'.diagnostics = s.diagnostics ∧ s'.OnTrail chain
  back : chain = [] → s'.OnTrail []

def Importer.Loads (c : Capabilities) (chain : Chain) (load : Importer) : Prop :=
  ∀ name p s, s.Sound c → s.OnTrail chain → (load name p).Ends s (Loaded c chain name s)

structure FileState.Underway (c : Capabilities) (chain : Chain) (s : Store) (f : FileState) (product : Product) :
    Prop where
  store : s.Sound c
  trail : s.OnTrail chain
  file : f.Sound s
  delivered : f.Delivered s product

namespace FileState

variable {c : Capabilities} {chain : Chain} {load : Importer} {f f' : FileState} {e : Expr} {s s' : Store}
  {product : Product}

lemma Sound.importing {scope : Scope} {qualifier : Segment} {p : Package} (h : f.Sound s) (hp : p.Registered s.types)
    (hscope : f.scope.bindImport qualifier p = .ok scope) : ({ f with scope } : FileState).Sound s := by
  have hregistered := h.scope.importing hp hscope
  obtain ⟨qualifiers, _, rfl⟩ := Scope.exists_of_bindImport hscope
  exact ⟨hregistered, h.opened, h.collected⟩

lemma Sound.defining {scope : Scope} {d : Declaration} (h : f.Sound s) (hd : d ∈ s.types.declarations)
    (hstate : f.scope.state = .opened d.package) (hscope : f.scope.defineType d = .ok scope) :
    (⟨scope, f.collector.add d, f.results⟩ : FileState).Sound s := by
  have hregistered := h.scope.defining hd hstate hscope
  obtain ⟨types, _, rfl⟩ := Scope.exists_of_defineType hscope
  refine ⟨hregistered, h.opened, fun e he => ?_⟩
  rcases mem_upsert he with rfl | he
  · exact ⟨hd, hstate⟩
  · exact h.collected e he

lemma Underway.report {d : Diagnostic} (h : f.Underway c chain s product) :
    f.Underway c chain (s.reporting d) product where
  store := h.store.of_eq rfl rfl (Nat.le_refl _)
  trail := h.trail.of_eq rfl rfl rfl
  file := ⟨h.file.scope, h.file.opened, h.file.collected⟩
  delivered := h.delivered

def After (c : Capabilities) (chain : Chain) (s : Store) (product : Product) (p : Position) :
    FileState × Outcome → Store → Prop
  | (f', .nothing), s' => f'.Underway c chain s' product ∧ s.Grows s' ∧ s.ReportsPlain s'
  | (f', .finished package), s' =>
    product = none ∧ f'.Underway c chain s' (some (package, p)) ∧ s.Grows s' ∧ s.ReportsPlain s'
  | (_, .abort), s' => product = none ∧ s'.Sound c ∧ s.Grows s' ∧ s.Reports s'

lemma Fed.after (h : f.Underway c chain s product) (hl : load.Loads c chain) {r : FileState × Outcome}
    (hfed : Fed c load f e s r s') : After c chain s product e.position r s' := by
  obtain ⟨hs, ht, hf, hd⟩ := h
  cases hfed with
  | rejected plain => exact ⟨.report ⟨hs, ht, hf, hd⟩, .of_eq rfl rfl (Nat.le_refl _), .report s plain⟩
  | @begun name unopened =>
    have hscope : ({ f.scope with state := .opened name } : Scope).Registered s.types :=
      hf.scope.of_state rfl rfl (.inl (congrArg PackageState.package? unopened))
    refine ⟨⟨hs, ht, ⟨hscope, rfl, by rintro d ⟨⟩⟩, fun entry he => ?_⟩, .of_eq rfl rfl (Nat.le_refl _), .of_eq rfl⟩
    have hclosed := (hd entry he).2
    rw [unopened] at hclosed
    cases hclosed
  | @ended name opened =>
    have hscope : ({ f.scope with state := .closed name } : Scope).Registered s.types :=
      hf.scope.of_state rfl rfl (.inr (congrArg PackageState.package? opened).symm)
    refine ⟨hd.eq_none opened, ⟨hs, ht, ⟨hscope, rfl, by rintro d ⟨⟩⟩, ?_⟩, .of_eq rfl rfl (Nat.le_refl _), .of_eq rfl⟩
    rintro _ ⟨⟩
    refine ⟨fun d hd => ⟨(hf.collected d hd).1, ?_⟩, rfl⟩
    have hstate := (hf.collected d hd).2
    rw [opened] at hstate
    cases hstate
    rfl
  | imported asks ran bound =>
    have hloaded := (hl _ _ s hs ht).elim ran
    obtain ⟨hmem, _, hdiagnostics, htrail⟩ := hloaded.found _ rfl
    have hregistered := hloaded.sound.registered _ hmem
    refine ⟨⟨hloaded.sound, htrail, (hf.mono hloaded.grows).importing hregistered bound, ?_⟩, hloaded.grows,
      .of_eq hdiagnostics⟩
    obtain ⟨current, hopened⟩ := asks.opened
    rw [hd.eq_none hopened]
    rintro entry ⟨⟩
  | clashed asks ran plain =>
    have hloaded := (hl _ _ s hs ht).elim ran
    obtain ⟨_, _, hdiagnostics, htrail⟩ := hloaded.found _ rfl
    refine ⟨.report ⟨hloaded.sound, htrail, hf.mono hloaded.grows, hd.mono hloaded.grows⟩, ?_, ?_⟩
    · exact hloaded.grows.trans (.of_eq rfl rfl (Nat.le_refl _))
    · exact (Store.ReportsPlain.of_eq hdiagnostics).trans (.report _ plain)
  | failed asks ran =>
    have hloaded := (hl _ _ s hs ht).elim ran
    obtain ⟨current, hopened⟩ := asks.opened
    refine ⟨hd.eq_none hopened, hloaded.sound.of_eq rfl rfl (Nat.le_refl _), ?_, ?_⟩
    · exact hloaded.grows.trans (.of_eq rfl rfl (Nat.le_refl _))
    · exact hloaded.reports.trans_plain (.report _ rfl)
  | refused plain =>
    have hgrows : s.Grows (s.numbering) := .of_eq rfl rfl (Nat.le_succ _)
    refine ⟨.report ⟨hs.of_eq rfl rfl (Nat.le_succ _), ht.of_eq rfl rfl rfl, hf.mono hgrows, hd.mono hgrows⟩, ?_, ?_⟩
    · exact hgrows.trans (.of_eq rfl rfl (Nat.le_refl _))
    · exact .report s.numbering plain
  | @defined d scope opened identifier_eq laid admitted bound =>
    have hgrows : s.Grows (s.declaring d) := .declaring s d
    have hmem : d ∈ s.types.declarations ++ [d] := List.mem_append_right _ (List.mem_singleton_self d)
    refine ⟨⟨hs.register identifier_eq laid admitted, ht.of_eq rfl rfl rfl,
      (hf.mono hgrows).defining hmem opened bound, ?_⟩, hgrows, .of_eq rfl⟩
    rw [hd.eq_none opened]
    rintro entry ⟨⟩
  | shown => exact ⟨⟨hs, ht, ⟨hf.scope, hf.opened, hf.collected⟩, hd⟩, .of_eq rfl rfl (Nat.le_refl _), .of_eq rfl⟩

end FileState

end RecordSchema
