import RecordSchema.Proofs.Load.Desk

/-! A load fails if and only if there is a diagnostic that tells why. -/

namespace RecordSchema

variable {c : Capabilities} {l : Library} {chain : Chain} {load : Importer} {s s' s'' : Store} {name : PackageName}
  {importer : Option Position}

def Store.Tells (s s' : Store) : Prop :=
  s.diagnostics.length < s'.diagnostics.length

lemma Store.Reports.length_le (h : s.Reports s') : s.diagnostics.length ≤ s'.diagnostics.length := by
  obtain ⟨found, hfound, _⟩ := h
  rw [hfound, List.length_append]
  omega

lemma Store.Tells.report (s : Store) (d : Diagnostic) : s.Tells (s.reporting d) := by
  simp [Tells, reporting]

lemma Store.Reports.trans_tells (h : s.Reports s') (h' : s'.Tells s'') : s.Tells s'' :=
  Nat.lt_of_le_of_lt h.length_le h'

namespace FileState

variable {f : FileState} {product : Product}

def Owing (f : FileState) (product : Product) : Prop :=
  product = none → ∀ package, f.scope.state ≠ .closed package

lemma Owing.initial : ({} : FileState).Owing none := by
  rintro _ package ⟨⟩

lemma Fed.owing {e : Expr} {f' : FileState} (hfed : Fed c load f e s (f', .nothing) s') (h : f.Owing product) :
    f'.Owing product := by
  cases hfed with
  | begun _ =>
    rintro _ package ⟨⟩
  | imported _ _ bound =>
    obtain ⟨qualifiers, _, rfl⟩ := Scope.exists_of_bindImport bound
    exact h
  | defined _ _ _ _ bound =>
    obtain ⟨types, _, rfl⟩ := Scope.exists_of_defineType bound
    exact h
  | rejected | clashed | refused | shown => exact h

lemma Fed.tells_of_abort {e : Expr} {f' : FileState} (hfed : Fed c load f e s (f', .abort) s')
    (h : f.Underway c chain s product) (hl : load.Loads c chain) : s.Tells s' := by
  cases hfed with
  | failed asks ran => exact ((hl _ _ s h.store h.trail).elim ran).reports.trans_tells (.report _ _)

def Answered (s : Store) : FileState × Product × Bool → Store → Prop
  | (f, product, true), _ => f.Owing product
  | (_, _, false), s' => s.Tells s'

lemma feedAll_answers (hl : load.Loads c chain) : ∀ (rest : List Expr) {f : FileState} {product : Product} {s : Store},
    f.Underway c chain s product → f.Owing product → (f.feedAll c load product rest).Ends s (Answered s)
  | [], f, product, s, _, ho => .pure ho
  | e :: rest, f, product, s, h, ho => by
    rw [feedAll]
    refine (h.feed_ends hl e).bind ?_
    rintro ⟨f', out⟩ s' ⟨hfed, hafter⟩
    have htrans : s.Reports s' → ∀ r s'', Answered s' r s'' → Answered s r s'' := by
      rintro hr ⟨f, product, complete⟩ s'' hanswer
      cases complete with
      | true => exact hanswer
      | false => exact hr.trans_tells hanswer
    cases out with
    | nothing =>
      obtain ⟨hu, _, hr⟩ := hafter
      exact (feedAll_answers hl rest hu (hfed.owing ho)).mono (htrans hr.reports)
    | abort => exact .pure (hfed.tells_of_abort h hl)
    | finished package =>
      obtain ⟨rfl, hu, _, hr⟩ := hafter
      refine (feedAll_answers hl rest hu ?_).mono (htrans hr.reports)
      rintro ⟨⟩

lemma Owing.close_tells (h : f.Owing none) (reading : Reading) : (f.close reading).Ends s fun _ s' => s.Tells s' := by
  rw [close]
  split
  · exact .of_run rfl (.report _ _)
  · rw [finish]
    split
    · exact .of_run rfl (.report _ _)
    · next hfinish =>
      rw [Scope.finish] at hfinish
      split at hfinish
      · cases hfinish
      · cases hfinish
      · next package hstate => exact absurd hstate (h rfl package)

lemma deliver_tells {entry : Package × Position} (name : PackageName) (s : Store) :
    (Product.deliver name (some entry)).Ends s fun r s' => ∀ e, r = .error e → s.Tells s' := by
  refine (Product.delivers (some entry) name s).mono fun r s' hdelivers => ?_
  cases hdelivers with
  | named _ => exact nofun
  | misnamed _ => exact fun _ _ => .report _ _

lemma compile_tells (hl : load.Loads c chain) (name : PackageName) (reading : Reading) (rest : List Expr)
    (h : f.Underway c chain s product) (ho : f.Owing product) :
    (f.compile c load name reading product rest).Ends s fun r s' => ∀ e, r = .error e → s.Tells s' := by
  rw [compile]
  refine ((feedAll_ends hl rest h).and (feedAll_answers hl rest h ho)).bind ?_
  rintro ⟨f', product', complete⟩ s' ⟨hthrough, hanswer⟩
  cases complete with
  | false =>
    obtain ⟨rfl, _⟩ := hthrough
    exact .of_run rfl fun _ _ => hanswer
  | true =>
    obtain ⟨hu, _, hr⟩ := hthrough
    cases product' with
    | none =>
      refine ((hu.close_ends reading).and (Owing.close_tells hanswer reading)).bind ?_
      rintro _ s'' ⟨_, htells⟩
      exact .of_run rfl fun _ _ => hr.reports.trans_tells htells
    | some entry =>
      refine (hu.close_ends reading).bind ?_
      rintro _ s'' ⟨_, _, hr'⟩
      exact (deliver_tells name s'').mono fun _ _ htells e he => (hr.trans hr').reports.trans_tells (htells e he)

end FileState

lemma Catalog.compiling_tells {fetch : Fetch} (hfetch : l.fetch? name = some fetch) (hl : load.Loads c chain)
    (hs : s.Sound c) (ht : s.OnTrail chain) :
    (Catalog.compiling c name fetch load importer).Ends s fun r s' => ∀ e, r = .error e → s.Tells s' := by
  rw [Catalog.compiling]
  refine (Library.fetch_ends hfetch s).bind fun r s' hr => ?_
  cases hr with
  | read found sources =>
    have hu : ({} : FileState).Underway c chain { s with sources } none :=
      .initial (hs.of_eq rfl rfl (Nat.le_refl _)) (ht.of_eq rfl rfl rfl)
    exact FileState.compile_tells hl name _ _ hu .initial
  | unread e sources plain => exact .pure fun _ _ => Store.Tells.report _ _

structure Accounted (name : PackageName) (s : Store) (r : Except LoadError Package) (s' : Store) : Prop where
  told : ∀ e, r = .error e → s.Tells s'
  kept : ∀ p, r = .ok p → s'.package? name = some p

lemma Accounted.conclude_ends {r : Except LoadError Package}
    (h : FileState.Compiled c (chain ++ [(name, importer)]) name s r s') (ht : ∀ e, r = .error e → s.Tells s') :
    (Run.stopLoading chain.names >>= fun _ => Run.conclude name s.diagnostics.length r).Ends s' (Accounted name s) := by
  have hleave : (Run.stopLoading chain.names).Ends s' fun _ t => t = s'.leaving chain.names := .of_run rfl rfl
  refine hleave.bind ?_
  rintro _ _ rfl
  cases r with
  | error e => exact .of_run rfl ⟨fun _ _ => ht e rfl, by rintro p ⟨⟩⟩
  | ok package =>
    obtain ⟨hname, _, htrail⟩ := h.found package rfl
    by_cases hlength : (s'.leaving chain.names).diagnostics.length = s.diagnostics.length
    · refine .of_run (Run.run_conclude_kept hlength) ⟨by rintro e ⟨⟩, ?_⟩
      rintro _ ⟨⟩
      -- Nothing of this name was kept before: the package is still on the chain.
      have hnone : (s'.packages.find? fun p => p.name = name) = none := by
        rw [List.find?_eq_none]
        intro p hp heq
        refine htrail.uncached p hp ?_
        rw [of_decide_eq_true heq, Chain.names_concat]
        exact List.mem_append_right _ (List.mem_singleton_self _)
      rw [Store.package?, List.find?_append, Store.leaving, hnone]
      simp [hname]
    · refine .of_run (Run.run_conclude_dropped hlength) ⟨fun _ _ => ?_, by rintro p ⟨⟩⟩
      exact Nat.lt_of_le_of_ne h.reports.length_le (Ne.symm hlength)

namespace Library

lemma loadOn_accounts (hs : s.Sound c) (ht : s.OnTrail chain) :
    ((l.catalog c).loadOn chain.names name importer).Ends s (Accounted name s) := by
  cases hkept : s.package? name with
  | some package =>
    refine .of_run (Catalog.loadOn_of_kept hkept) ⟨by rintro e ⟨⟩, ?_⟩
    rintro _ ⟨⟩
    exact hkept
  | none =>
    by_cases hchain : name ∈ chain.names
    · obtain ⟨current, hlast⟩ : ∃ current, chain.names.getLast? = some current :=
        Option.isSome_iff_exists.mp (by simpa using List.ne_nil_of_mem hchain)
      exact .of_run (Catalog.loadOn_of_cycle hkept hchain hlast) ⟨fun _ _ => .report _ _, by rintro p ⟨⟩⟩
    · cases hfetch : l.fetch? name with
      | none =>
        have hsupplier := supplier?_of_no_fetch (c := c) hfetch
        exact .of_run (Catalog.loadOn_of_missing hkept hchain hsupplier)
          ⟨fun _ _ => Store.Tells.report (s.entering chain.names name importer) _, by rintro p ⟨⟩⟩
      | some fetch =>
        have hsupplier := supplier?_of_fetch (c := c) hfetch
        have hentered := hs.entering chain.names name importer
        have htrail : (s.entering chain.names name importer).OnTrail (chain ++ [(name, importer)]) :=
          ht.enter hkept hchain
        have hinner := loadOn_loads l c (chain ++ [(name, importer)])
        rw [Chain.names_concat] at hinner
        refine .of_run_eq (Catalog.loadOn_of_supplied hkept hchain hsupplier) ?_
        refine ((Catalog.compiling_ends hfetch hinner hentered htrail).and
          (Catalog.compiling_tells hfetch hinner hentered htrail)).bind fun r s' hr => ?_
        exact (Accounted.conclude_ends hr.1 hr.2).mono fun _ _ h => ⟨h.told, h.kept⟩

/-- However deep in a chain of imports, a load only adds to the diagnostics: it adds none if it gives a package,
which is kept under the name asked for, and at least one if it fails. -/
theorem load_fails_iff_reports (h : l.Visited c chain s) (name : PackageName) (importer : Option Position) :
    ∃ r s' found, ((l.catalog c).load name importer).run s = .ok r s' ∧
      s'.diagnostics = s.diagnostics ++ found ∧ ((∃ e, r = .error e) ↔ found ≠ []) ∧
        ∀ p, r = .ok p → p.name = name ∧ s'.package? name = some p := by
  obtain ⟨hs, ht⟩ := h.sound
  obtain ⟨r, s', hrun, hloaded, haccounted⟩ :=
    (load_loads l c chain name importer s hs ht).and (.of_run_eq (run_load_on ht name importer) (loadOn_accounts hs ht))
  obtain ⟨found, hfound, _⟩ := hloaded.reports
  refine ⟨r, s', found, hrun, hfound, ?_, fun p hp => ⟨(hloaded.found p hp).2.1, haccounted.kept p hp⟩⟩
  cases r with
  | error e =>
    have htells := haccounted.told e rfl
    rw [Store.Tells, hfound, List.length_append] at htells
    refine ⟨fun _ => ?_, fun _ => ⟨e, rfl⟩⟩
    rintro rfl
    exact absurd htells (by simp)
  | ok p =>
    have hsame := (hloaded.found p rfl).2.2.1
    have hnone : found = [] := List.append_right_eq_self.mp (hfound.symm.trans hsame)
    simp [hnone]

lemma nested_records_fail_on_themselves : ∃ chain s r s' found, nestedRecords.Visited {} chain s ∧
    chain.names = [nestedName] ∧ ((nestedRecords.catalog {}).load nestedName none).run s = .ok r s' ∧
      s'.diagnostics = s.diagnostics ++ found ∧ (∃ e, r = .error e) ∧ found ≠ [] := by
  have hmoment : (nestedRecords.open? [] nestedName none {}).map (fun m => m.chain.names) = some [nestedName] := by
    decide +kernel
  obtain ⟨m, hopen, hnames⟩ := Option.map_eq_some_iff.mp hmoment
  have hvisited : nestedRecords.Visited {} m.chain m.store := .during .empty (.first hopen)
  obtain ⟨r, s', found, hrun, hfound, hiff, _⟩ := load_fails_iff_reports hvisited nestedName none
  have ht := hvisited.sound.2
  have huncached : m.store.package? nestedName = none :=
    Store.package?_eq_none_iff.mpr fun p hp heq =>
      ht.uncached p hp (by rw [heq, hnames]; exact List.mem_singleton_self _)
  have hmem : nestedName ∈ m.chain.names := by
    rw [hnames]
    exact List.mem_singleton_self _
  have hlast : m.chain.names.getLast? = some nestedName := by
    rw [hnames]
    rfl
  have hcycle : ((nestedRecords.catalog {}).loadOn m.chain.names nestedName none).run m.store = _ :=
    Catalog.loadOn_of_cycle huncached hmem hlast
  rw [run_load_on ht, hcycle] at hrun
  cases hrun
  exact ⟨m.chain, m.store, _, _, found, hvisited, hnames, (run_load_on ht _ _).trans hcycle, hfound, ⟨_, rfl⟩,
    hiff.mp ⟨_, rfl⟩⟩

end Library

end RecordSchema
