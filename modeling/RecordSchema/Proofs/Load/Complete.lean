import RecordSchema.Compile.Load
import RecordSchema.Proofs.Load.Answer
import RecordSchema.Proofs.Load.Fetch
import RecordSchema.Proofs.Load.Underway

namespace RecordSchema

variable {c : Capabilities} {chain : Chain} {load : Importer} {s s' : Store} {product : Product}

inductive Product.Delivers (name : PackageName) (s : Store) : Product → Except LoadError Package → Store → Prop
  | nothing : Delivers name s none (.error (.failed name)) s
  | named {package : Package} {p : Position} (name_eq : package.name = name) :
      Delivers name s (some (package, p)) (.ok package) s
  | misnamed {package : Package} {p : Position} (name_ne : package.name ≠ name) :
      Delivers name s (some (package, p)) (.error (.failed name))
        (s.reporting (.resolution ⟨.packageUnexpected name package.name, some p⟩))

lemma Product.delivers (product : Product) (name : PackageName) (s : Store) :
    (product.deliver name).Ends s (product.Delivers name s) := by
  cases product with
  | none => exact .pure .nothing
  | some entry =>
    rw [deliver]
    split
    · next hname => exact .pure (.named hname)
    · next hname => exact .of_run rfl (.misnamed hname)

namespace FileState

variable {f : FileState}

lemma Underway.feed_ends (h : f.Underway c chain s product) (hl : load.Loads c chain) (e : Expr) :
    (f.feed c load e).Ends s fun r s' => Fed c load f e s r s' ∧ After c chain s product e.position r s' :=
  (FileState.feed_ends h.store h.file fun _ => (hl _ _ s h.store h.trail).mono fun _ _ _ => trivial).mono
    fun _ _ hfed => ⟨hfed, hfed.after h hl⟩

def Through (c : Capabilities) (chain : Chain) (s : Store) : FileState × Product × Bool → Store → Prop
  | (f, product, true), s' => f.Underway c chain s' product ∧ s.Grows s' ∧ s.ReportsPlain s'
  | (_, product, false), s' => product = none ∧ s'.Sound c ∧ s.Grows s' ∧ s.Reports s'

lemma Through.trans {r : FileState × Product × Bool} {s'' : Store} (hg : s.Grows s') (hr : s.ReportsPlain s')
    (h : Through c chain s' r s'') : Through c chain s r s'' := by
  obtain ⟨f, product, complete⟩ := r
  cases complete with
  | true =>
    obtain ⟨hu, hg', hr'⟩ := h
    exact ⟨hu, hg.trans hg', hr.trans hr'⟩
  | false =>
    obtain ⟨hp, hs, hg', hr'⟩ := h
    exact ⟨hp, hs, hg.trans hg', hr.trans_reports hr'⟩

lemma feedAll_ends (hl : load.Loads c chain) : ∀ (rest : List Expr) {f : FileState} {product : Product} {s : Store},
    f.Underway c chain s product → (f.feedAll c load product rest).Ends s (Through c chain s)
  | [], f, product, s, h => .pure ⟨h, .of_eq rfl rfl (Nat.le_refl _), .of_eq rfl⟩
  | e :: rest, f, product, s, h => by
    rw [feedAll]
    refine (h.feed_ends hl e).bind ?_
    rintro ⟨f', out⟩ s' ⟨_, hafter⟩
    cases out with
    | nothing =>
      obtain ⟨hu, hg, hr⟩ := hafter
      exact (feedAll_ends hl rest hu).mono fun _ _ h => h.trans hg hr
    | abort =>
      obtain ⟨rfl, hs, hg, hr⟩ := hafter
      exact .pure ⟨rfl, hs, hg, hr⟩
    | finished package =>
      obtain ⟨rfl, hu, hg, hr⟩ := hafter
      exact (feedAll_ends hl rest hu).mono fun _ _ h => h.trans hg hr

lemma Underway.close_ends (h : f.Underway c chain s product) (reading : Reading) :
    (f.close reading).Ends s fun _ s' => f.Underway c chain s' product ∧ s.Grows s' ∧ s.ReportsPlain s' := by
  have hreport : ∀ d : Diagnostic, d.isCircular = false →
      (Run.report d).Ends s fun _ s' => f.Underway c chain s' product ∧ s.Grows s' ∧ s.ReportsPlain s' :=
    fun d hd => .of_run rfl ⟨h.report, .of_eq rfl rfl (Nat.le_refl _), .report s hd⟩
  rw [close]
  split
  · exact hreport _ rfl
  · rw [finish]
    split
    · exact hreport _ rfl
    · exact .pure ⟨h, .of_eq rfl rfl (Nat.le_refl _), .of_eq rfl⟩

structure Compiled (c : Capabilities) (chain : Chain) (name : PackageName) (s : Store)
    (r : Except LoadError Package) (s' : Store) : Prop where
  sound : s'.Sound c
  grows : s.Grows s'
  reports : s.Reports s'
  found : ∀ p, r = .ok p → p.name = name ∧ p.Registered s'.types ∧ s'.OnTrail chain

lemma Compiled.error {name : PackageName} {e : LoadError} (hs : s'.Sound c) (hg : s.Grows s') (hr : s.Reports s') :
    Compiled c chain name s (.error e) s' :=
  ⟨hs, hg, hr, by rintro p ⟨⟩⟩

lemma Underway.deliver_ends (h : f.Underway c chain s product) (name : PackageName) :
    (product.deliver name).Ends s fun r s' => Compiled c chain name s r s' ∧ s.ReportsPlain s' := by
  refine (product.delivers name s).mono fun r s' hdelivers => ?_
  cases hdelivers with
  | nothing =>
    have hplain : s.ReportsPlain s := .of_eq rfl
    exact ⟨.error h.store (.refl s) hplain.reports, hplain⟩
  | named name_eq =>
    have hplain : s.ReportsPlain s := .of_eq rfl
    refine ⟨⟨h.store, .refl s, hplain.reports, ?_⟩, hplain⟩
    rintro _ ⟨⟩
    exact ⟨name_eq, (h.delivered _ rfl).1, h.trail⟩
  | @misnamed package p _ =>
    let d : Diagnostic := .resolution ⟨.packageUnexpected name package.name, some p⟩
    have hplain : s.ReportsPlain (s.reporting d) := .report s rfl
    exact ⟨.error h.report.store (.of_eq rfl rfl (Nat.le_refl _)) hplain.reports, hplain⟩

lemma compile_ends (hl : load.Loads c chain) (name : PackageName) (reading : Reading) (rest : List Expr)
    (h : f.Underway c chain s product) :
    (f.compile c load name reading product rest).Ends s (Compiled c chain name s) := by
  rw [compile]
  refine (feedAll_ends hl rest h).bind ?_
  rintro ⟨f', product', complete⟩ s' hthrough
  cases complete with
  | false =>
    obtain ⟨rfl, hs, hg, hr⟩ := hthrough
    exact .of_run rfl (.error hs hg hr)
  | true =>
    obtain ⟨hu, hg, hr⟩ := hthrough
    refine (hu.close_ends reading).bind fun _ s'' ⟨hu, hg', hr'⟩ => ?_
    exact (hu.deliver_ends name).mono fun _ _ ⟨h, _⟩ =>
      ⟨h.sound, (hg.trans hg').trans h.grows, (hr.trans hr').trans_reports h.reports, h.found⟩

end FileState

variable {name : PackageName} {importer : Option Position}

lemma Store.Sound.entering (h : s.Sound c) (chain : List PackageName) (name : PackageName)
    (importer : Option Position) : (s.entering chain name importer).Sound c :=
  h.of_eq rfl rfl (Nat.le_refl _)

lemma Store.Grows.entering (s : Store) (chain : List PackageName) (name : PackageName) (importer : Option Position) :
    s.Grows (s.entering chain name importer) :=
  .of_eq rfl rfl (Nat.le_refl _)

lemma FileState.Underway.initial (hs : s.Sound c) (ht : s.OnTrail chain) :
    ({} : FileState).Underway c chain s none :=
  ⟨hs, ht, .initial, by rintro entry ⟨⟩⟩

lemma Catalog.compiling_ends {l : Library} {fetch : Fetch} (hfetch : l.fetch? name = some fetch)
    (hl : load.Loads c chain) (hs : s.Sound c) (ht : s.OnTrail chain) :
    (Catalog.compiling c name fetch load importer).Ends s (FileState.Compiled c chain name s) := by
  rw [Catalog.compiling]
  refine (Library.fetch_ends hfetch s).bind fun r s' hr => ?_
  cases hr with
  | read found sources =>
    have hu : ({} : FileState).Underway c chain { s with sources } none :=
      .initial (hs.of_eq rfl rfl (Nat.le_refl _)) (ht.of_eq rfl rfl rfl)
    refine (FileState.compile_ends hl name _ _ hu).mono fun _ _ h => ?_
    have hg : s.Grows { s with sources } := .of_eq rfl rfl (Nat.le_refl _)
    exact ⟨h.sound, hg.trans h.grows, h.reports, h.found⟩
  | @unread e sources d plain =>
    have hg : s.Grows (Store.reporting { s with sources } d) := .of_eq rfl rfl (Nat.le_refl _)
    exact .pure (.error (hs.of_eq rfl rfl (Nat.le_refl _)) hg (Store.ReportsPlain.report _ plain).reports)

lemma Loaded.conclude_ends {r : Except LoadError Package}
    (h : FileState.Compiled c (chain ++ [(name, importer)]) name s r s') :
    (Run.stopLoading chain.names >>= fun _ => Run.conclude name s.diagnostics.length r).Ends s'
      (Loaded c chain name s) := by
  let left := s'.leaving chain.names
  have hsound : left.Sound c := h.sound.of_eq rfl rfl (Nat.le_refl _)
  have hgrows : s.Grows left := h.grows.trans (.of_eq rfl rfl (Nat.le_refl _))
  have hback : chain = [] → left.OnTrail [] := by
    rintro rfl
    exact Store.OnTrail.leave_outermost s'
  have hfailed : Loaded c chain name s (.error (.failed name)) left :=
    ⟨hsound, hgrows, h.reports, by rintro p ⟨⟩, hback⟩
  have hleave : (Run.stopLoading chain.names).Ends s' fun _ t => t = left := .of_run rfl rfl
  refine hleave.bind ?_
  rintro _ _ rfl
  cases r with
  | error e => exact .of_run rfl hfailed
  | ok package =>
    obtain ⟨hname, hregistered, htrail⟩ := h.found package rfl
    by_cases hlength : left.diagnostics.length = s.diagnostics.length
    · have hkept : Store.OnTrail { left with packages := left.packages ++ [package] } chain := htrail.leave hname
      have hmore : left.Grows { left with packages := left.packages ++ [package] } :=
        ⟨List.Subset.refl _, List.subset_append_left _ _, Nat.le_refl _⟩
      have hsame : left.diagnostics = s.diagnostics := by
        obtain ⟨found, hfound, _⟩ := h.reports
        have hsub : s.diagnostics <+: left.diagnostics := ⟨found, hfound.symm⟩
        exact (hsub.eq_of_length hlength.symm).symm
      refine .of_run (Run.run_conclude_kept hlength) ⟨hsound.keep hregistered, hgrows.trans hmore, h.reports, ?_, ?_⟩
      · rintro _ ⟨⟩
        exact ⟨List.mem_append_right _ (List.mem_singleton_self _), hname, hsame, hkept⟩
      · rintro rfl
        exact hkept
    · exact .of_run (Run.run_conclude_dropped hlength) hfailed

theorem Library.loadOn_loads (l : Library) (c : Capabilities) (chain : Chain) :
    Importer.Loads c chain ((l.catalog c).loadOn chain.names) := by
  intro name importer s hs ht
  cases hkept : s.package? name with
  | some package =>
    refine .of_run (Catalog.loadOn_of_kept hkept) ⟨hs, .refl s, (Store.ReportsPlain.of_eq rfl).reports, ?_, ?_⟩
    · rintro _ ⟨⟩
      exact ⟨List.mem_of_find?_eq_some hkept, by simpa using List.find?_some hkept, rfl, ht⟩
    · rintro rfl
      exact ht
  | none =>
    by_cases hchain : name ∈ chain.names
    · obtain ⟨current, hlast⟩ : ∃ current, chain.names.getLast? = some current :=
        Option.isSome_iff_exists.mp (by simpa using List.ne_nil_of_mem hchain)
      refine .of_run (Catalog.loadOn_of_cycle hkept hchain hlast) ⟨hs.of_eq rfl rfl (Nat.le_refl _),
        .of_eq rfl rfl (Nat.le_refl _), ⟨[_], rfl, List.length_filter_le _ _⟩, by rintro p ⟨⟩, ?_⟩
      rintro rfl
      cases hchain
    · have hentered := hs.entering chain.names name importer
      have htrail : (s.entering chain.names name importer).OnTrail (chain ++ [(name, importer)]) :=
        ht.enter hkept hchain
      cases hfetch : l.fetch? name with
      | none =>
        have hsupplier := supplier?_of_no_fetch (c := c) hfetch
        refine .of_run (Catalog.loadOn_of_missing hkept hchain hsupplier) ⟨hs.of_eq rfl rfl (Nat.le_refl _),
          .of_eq rfl rfl (Nat.le_refl _), ⟨[_], rfl, List.length_filter_le _ _⟩, by rintro p ⟨⟩, ?_⟩
        rintro rfl
        exact Store.OnTrail.leave_outermost _
      | some fetch =>
        have hsupplier := supplier?_of_fetch (c := c) hfetch
        -- The imports of its file are loaded on a longer chain: fewer packages remain.
        have hmem := Catalog.mem_names_of_supplier? hsupplier
        have hinner := loadOn_loads l c (chain ++ [(name, importer)])
        rw [Chain.names_concat] at hinner
        refine .of_run_eq (Catalog.loadOn_of_supplied hkept hchain hsupplier) ?_
        refine (Catalog.compiling_ends hfetch hinner hentered htrail).bind fun r s' hr => ?_
        refine (Loaded.conclude_ends hr).mono fun _ _ h => ?_
        exact ⟨h.sound, (Store.Grows.entering s _ _ _).trans h.grows, h.reports, h.found, h.back⟩
termination_by ((l.catalog c).remaining chain.names).length
decreasing_by
  rw [Chain.names_concat]
  exact Catalog.length_remaining_lt hmem hchain

end RecordSchema
