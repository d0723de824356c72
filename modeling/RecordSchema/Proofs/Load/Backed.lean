import RecordSchema.Proofs.Load.Circular
import RecordSchema.Proofs.Load.Lockstep

namespace RecordSchema

variable {c : Capabilities} {l : Library} {E : List Package → Package → Prop} {chain : Chain} {name : PackageName}
  {importer : Option Position} {load : Importer} {f : FileState} {s s' : Store} {m : Moment} {log : List Accepted}
  {product : Product} {package : Package}

lemma Package.Holds.append {a : Accepted} (h : package.Holds log) (ha : a.declared = none) :
    package.Holds (log ++ [a]) where
  begun := by
    obtain ⟨p, hp⟩ := h.begun
    exact ⟨p, by rw [List.head?_append, hp, Option.some_or]⟩
  declarations := by
    rw [List.filterMap_append, ← h.declarations, List.filterMap_cons_none ha, List.filterMap_nil, List.append_nil]
  nodup := h.nodup
  package_eq := h.package_eq

namespace FileState

lemma error_of_close {reading : Reading} (h : (f.close reading).run s = .ok () s')
    (hlength : s'.diagnostics.length = s.diagnostics.length) : reading.error = none ∧ s' = s := by
  rw [close] at h
  split at h
  · cases h
    simp at hlength
  · next herror =>
    rcases finish_run h with rfl | ⟨d, rfl⟩
    · exact ⟨herror, rfl⟩
    · simp [Store.reporting] at hlength

lemma Enacted.ne_closed {statement : Statement} {r : FileState × Outcome} (h : f.Enacted load s statement r s')
    (name : PackageName) : f.scope.state ≠ .closed name := by
  intro hclosed
  cases h with
  | begun state => cases hclosed.symm.trans state
  | ended state => cases hclosed.symm.trans state
  | imported state => cases hclosed.symm.trans state
  | defined state => cases hclosed.symm.trans state
  | shown state => cases hclosed.symm.trans state

end FileState

namespace Library

lemma Course.accepted_of_silent {reading : Reading} {e : Expr} {rest : List Expr} (h : l.Course c chain log f s)
    (hu : f.Underway c chain s product)
    (hrun : (f.compile c ((l.catalog c).loadOn chain.names) name reading product (e :: rest)).run s = .ok (.ok package) s')
    (hlength : s'.diagnostics.length = s.diagnostics.length) : ∃ a f' product' s₁, e.toStatement = .ok a.statement ∧
      l.Course c chain (log ++ [a]) f' s₁ ∧ f'.Underway c chain s₁ product' ∧
      (∀ entry ∈ product', entry.1.Holds (log ++ [a])) ∧
      (∀ other qualifier p, a.statement = .importPackage other qualifier p → ∃ found ∈ s₁.packages, found.name = other) ∧
      (f'.compile c ((l.catalog c).loadOn chain.names) name reading product' rest).run s₁ = .ok (.ok package) s' ∧
      s'.diagnostics.length = s₁.diagnostics.length := by
  obtain ⟨f', out, product', s₁, hfeed, hfirst, hout, hu', hrest, hothers⟩ :=
    hu.compile_cons_silent (l.loadOn_loads c chain) hrun hlength
  have hready := h.ready
  rw [← FileState.feed_congr (run_load_on hready.trail)] at hfeed
  have haccepts := (FileState.accepts_iff hready (load_loads l c chain) hfeed).mpr hfirst
  obtain ⟨statement, _, _, _, hstatement, _⟩ := id haccepts
  have henacted := hready.enacted (load_loads l c chain) hstatement haccepts hfeed
  refine ⟨⟨statement, statement.entered s s₁⟩, f', product', s₁, hstatement, h.accepted hstatement haccepts hfeed, hu',
    fun entry hentry => ?_, fun other qualifier p heq => ?_, hrest, hothers⟩
  · rcases hout with ⟨rfl, rfl⟩ | ⟨delivered, rfl, rfl, rfl⟩
    · -- Nothing is accepted once the package has been handed out.
      exact absurd (hu.delivered entry hentry).2 (henacted.ne_closed _)
    · cases hentry
      cases henacted with
      | ended opened => exact (h.logged.1.holds hready.file opened).append rfl
  · cases heq
    cases henacted with
    | imported _ ran =>
      have hloaded := (load_loads l c chain _ _ _ hready.store hready.trail).elim ran
      obtain ⟨hmem, hname, _⟩ := hloaded.found _ rfl
      exact ⟨_, hmem, hname⟩
    | shown _ command => cases command

lemma Course.of_silent {reading : Reading} {rest : List Expr} (h : l.Course c chain log f s)
    (hu : f.Underway c chain s product) (hproduct : ∀ entry ∈ product, entry.1.Holds log)
    (hrun : (f.compile c ((l.catalog c).loadOn chain.names) name reading product rest).run s = .ok (.ok package) s')
    (hlength : s'.diagnostics.length = s.diagnostics.length) : reading.error = none ∧ ∃ later f',
      l.Course c chain (log ++ later) f' s' ∧ rest.map Expr.toStatement = later.map (fun a => .ok a.statement) ∧
      package.Holds (log ++ later) ∧ ∀ a ∈ later, ∀ other qualifier p,
        a.statement = .importPackage other qualifier p → ∃ found ∈ s'.packages, found.name = other := by
  induction rest generalizing f product s log with
  | nil =>
    obtain ⟨_, s₁, hclose, hdeliver⟩ := Run.run_bind_eq_ok (x := f.close reading) hrun
    cases (product.delivers name s₁).elim hdeliver
    obtain ⟨herror, rfl⟩ := FileState.error_of_close hclose hlength
    refine ⟨herror, [], f, ?_, rfl, ?_, by simp⟩
    · rwa [List.append_nil]
    · rw [List.append_nil]
      exact hproduct _ rfl
  | cons e rest ih =>
    obtain ⟨a, f', product', s₁, hstatement, hcourse, hu', hproduct', hloaded, hrest, hothers⟩ :=
      h.accepted_of_silent hu hrun hlength
    have hgrows := ((FileState.compile_ends (l.loadOn_loads c chain) name reading rest hu').elim hrest).grows
    obtain ⟨herror, later, f'', hcourse', hlater, hholds, hknown⟩ := ih hcourse hu' hproduct' hrest hothers
    rw [List.append_assoc, List.singleton_append] at hcourse' hholds
    refine ⟨herror, a :: later, f'', hcourse', ?_, hholds, fun b hb other qualifier p heq => ?_⟩
    · rw [List.map_cons, List.map_cons, hstatement, hlater]
    · rcases List.mem_cons.mp hb with rfl | hb
      · obtain ⟨found, hfound, hname⟩ := hloaded other qualifier p heq
        exact ⟨found, hgrows.packages hfound, hname⟩
      · exact hknown b hb other qualifier p heq

inductive Backed (l : Library) (c : Capabilities) (earlier : List Package) (package : Package) : Prop
  | intro {chain : Chain} {file : FileId} {text : String} {log : List Accepted} {f : FileState} {s s' : Store}
      (source : l.source? package.name = some (.ok text)) (visited : l.Visited c chain s)
      (ran : (compileSource c ((l.catalog c).loadOn chain.names) package.name file text).run s = .ok (.ok package) s')
      (silent : s'.diagnostics = s.diagnostics) (whole : (Expr.read file text).error = none)
      (course : l.Course c chain log f s')
      (accepted : (Expr.read file text).exprs.map Expr.toStatement = log.map fun a => .ok a.statement)
      (holds : package.Holds log)
      (known : ∀ a ∈ log, ∀ other qualifier p, a.statement = .importPackage other qualifier p →
        ∃ found ∈ earlier, found.name = other)

lemma reads_of_open? (h : l.open? chain name importer s = some m) (hs : s.sources.Filed l) :
    m.store.sources.Filed l ∧ ∃ text file, l.source? name = some (.ok text) ∧ m.reading = Expr.read file text := by
  refine ⟨(aside_of_open? h).filed hs, ?_⟩
  obtain ⟨_, _, fetch, file, text, s', hfetch, hrun, rfl⟩ := open?_eq_some h
  cases (fetch_gets hfetch ((Store.Aside.entering s chain.names name importer).filed hs)).elim hrun with
  | text source => exact ⟨text, file, source, rfl⟩

lemma steps_of_feed {e : Expr} {r : FileState × Outcome} (h : f.Underway c chain s product)
    (hrun : (f.feed c ((l.catalog c).loadOn chain.names) e).run s = .ok r s') : s.Steps l (fun _ _ => True) s' := by
  have hfed := ((h.feed_ends (l.loadOn_loads c chain) e).elim hrun).1
  apply hfed.steps
  intro package qualifier p r s' _ hload
  exact steps_of_loadOn h.store h.trail hload

lemma Passes.reads (h : l.Passes c name importer s m) (hs : s.Idle c) (hf : s.sources.Filed l) :
    m.store.sources.Filed l ∧ ∃ last text file, m.chain.names.getLast? = some last ∧
      l.source? last = some (.ok text) ∧ m.reading = Expr.read file text := by
  have hopen : ∀ {chain : Chain} {name : PackageName} {importer : Option Position} {s : Store} {m : Moment},
      l.open? chain name importer s = some m → s.sources.Filed l →
        m.store.sources.Filed l ∧ ∃ last text file, m.chain.names.getLast? = some last ∧
          l.source? last = some (.ok text) ∧ m.reading = Expr.read file text := by
    intro chain name importer s m hopen hs
    obtain ⟨hfiled, text, file, hsource, hreading⟩ := reads_of_open? hopen hs
    refine ⟨hfiled, name, text, file, ?_, hsource, hreading⟩
    rw [chain_of_open? hopen, Chain.names_concat, List.getLast?_concat]
  induction h with
  | first opened => exact hopen opened hf
  | @next m m' passed advanced ih =>
    obtain ⟨hfiled, hreads⟩ := ih
    obtain ⟨e, rest, f, out, s', _, hrun, heq⟩ := advance?_eq_some advanced
    have hfiled' := (steps_of_feed (passed.underway hs) hrun).filed hfiled
    rcases heq with ⟨_, rfl⟩ | ⟨_, _, rfl⟩
    · exact ⟨hfiled', hreads⟩
    · exact ⟨hfiled', hreads⟩
  | inner passed asks opened ih => exact hopen opened ih.1

variable {files : List FileState}

lemma Desk.steps (h : l.Desk c files s) (hload : ∀ {files s name importer r s'}, l.Desk c files s →
    ((l.catalog c).load name importer).run s = .ok r s' → s.Steps l E s') : ({} : Store).Steps l E s := by
  induction h with
  | empty => exact .refl {}
  | loaded desk ran ih => exact ih.trans (hload desk ran)
  | drained _ ih => exact ih.trans (.aside (.of_eq rfl rfl (Nat.le_refl _) rfl))
  | opened _ ih => exact ih
  | fed desk ran ih =>
    have hready := desk.ready.2 _ (List.mem_append_right _ List.mem_cons_self)
    have hfed := (hready.feed_ends (load_loads l c []) _).elim ran
    exact ih.trans (hfed.steps fun _ hrun => hload desk hrun)
  | ended _ _ ran ih => exact ih.trans (.aside (FileState.aside_of_finish ran))
  | emptied _ ih => exact ih

lemma Desk.filed (h : l.Desk c files s) : s.sources.Filed l := by
  have hsteps : ({} : Store).Steps l (fun _ _ => True) s := by
    apply h.steps
    intro files s name importer r s' hdesk hrun
    obtain ⟨hsound, htrail⟩ := hdesk.ready.1
    rw [run_load_on htrail] at hrun
    exact steps_of_loadOn hsound htrail hrun
  exact hsteps.filed (.empty l)

lemma Desk.invariant_passes (h : l.Desk c files s) (name : PackageName) (importer : Option Position) :
    l.Invariant c (l.Backed c) (l.Passes c name importer s) where
  underway hm := hm.underway h.ready.1
  next hm hadvance := hm.next hadvance
  inner hm hasks hopen := hm.inner hasks hopen
  speaks {chain' name' importer' s₀ m package s'} hm hopen hcomes hlength := by
    have hu := hm.underway h.ready.1
    have hcompiled := (FileState.compile_ends (l.loadOn_loads c m.chain) name' m.reading m.rest hu).elim hcomes
    obtain ⟨hname, _⟩ := hcompiled.found package rfl
    obtain ⟨_, last, text, file, hlast, hsource, hreading⟩ := hm.reads h.ready.1 h.filed
    have hlast' : last = name' := by
      rw [chain_of_open? hopen, Chain.names_concat, List.getLast?_concat] at hlast
      exact (Option.some.inj hlast).symm
    subst hlast' hname
    have hvisited : l.Visited c m.chain m.store := .during h hm
    have hlength' : s'.diagnostics.length = m.store.diagnostics.length := by
      rw [hlength, diagnostics_of_open? hopen]
    have hsilent : s'.diagnostics = m.store.diagnostics := by
      obtain ⟨found, hfound, _⟩ := hcompiled.reports
      have hkept : m.store.diagnostics <+: s'.diagnostics := ⟨found, hfound.symm⟩
      exact (hkept.eq_of_length hlength'.symm).symm
    obtain ⟨hfile, hproduct, hrest⟩ := begins_of_open? hopen
    rw [ComesTo, hfile, hproduct, hrest, hreading] at hcomes
    rw [hfile, hproduct] at hu
    obtain ⟨herror, log, f, hcourse, hlog, hholds, hknown⟩ :=
      (Course.opened hvisited).of_silent hu (by rintro entry ⟨⟩) hcomes hlength'
    exact .intro hsource hvisited hcomes hsilent herror hcourse hlog hholds hknown

end Library

end RecordSchema
