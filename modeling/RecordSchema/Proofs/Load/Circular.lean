import RecordSchema.Proofs.Load.Unwind

/-! Imports in a circle are reported exactly, and once. -/

namespace RecordSchema.Library

variable {l : Library} {c : Capabilities} {name : PackageName} {importer : Option Position} {s s' : Store}
  {m : Moment}

lemma diagnostics_of_open? {chain : Chain} (h : l.open? chain name importer s = some m) :
    m.store.diagnostics = s.diagnostics := by
  obtain ⟨_, _, fetch, _, _, _, hfetch, hrun, rfl⟩ := open?_eq_some h
  cases (fetch_ends hfetch _).elim hrun with
  | read found sources => rfl

lemma Passes.reportsPlain (h : l.Passes c name importer s m) (hs : s.Idle c) : s.ReportsPlain m.store := by
  induction h with
  | first opened => exact .of_eq (diagnostics_of_open? opened)
  | @next m m' passed advanced ih =>
    have hu := passed.underway hs
    obtain ⟨e, rest, f, out, s', _, hrun, ⟨rfl, rfl⟩ | ⟨package, rfl, rfl⟩⟩ := advance?_eq_some advanced
    · exact ih.trans (feed_after hu hrun).2.2
    · exact ih.trans (feed_after hu hrun).2.2.2
  | inner _ _ opened ih => exact ih.trans (.of_eq (diagnostics_of_open? opened))

lemma Passes.fails_of_cycle (h : l.Passes c name importer s m) (hs : s.Idle c) {package : PackageName} {p : Position}
    (hasks : m.asks? = some (package, p)) (hchain : package ∈ m.chain.names) : ∃ s', l.Fails c m s' ∧
      s'.packages = m.store.packages ∧ s'.diagnostics = m.store.diagnostics ++
        [.circularImport (m.chain.cycle package (some p)) (some p), loadFailure (package, some p)] := by
  obtain ⟨e, rest, qualifier, hrest, hasks⟩ := Moment.asks?_eq_some hasks
  have hu := h.underway hs
  obtain ⟨current, hlast⟩ : ∃ current, m.chain.names.getLast? = some current :=
    Option.isSome_iff_exists.mp (by simpa using List.ne_nil_of_mem hchain)
  have huncached : m.store.package? package = none :=
    Store.package?_eq_none_iff.mpr fun q hq heq => hu.trail.uncached q hq (heq ▸ hchain)
  obtain ⟨t, hfeed, hpackages, hdiagnostics⟩ : ∃ t,
      (m.file.feed c ((l.catalog c).loadOn m.chain.names) e).run m.store = .ok (m.file, .abort) t ∧
        t.packages = m.store.packages ∧ t.diagnostics = m.store.diagnostics ++
          [.circularImport (m.chain.cycle package (some p)) (some p), loadFailure (package, some p)] := by
    refine ⟨_, hasks.feed_of_failed (Catalog.loadOn_of_cycle huncached hchain hlast), rfl, ?_⟩
    rw [hu.trail.shortestPath_eq hchain hlast]
    simp [Store.reporting, loadFailure]
  obtain ⟨hproduct, _⟩ := feed_after hu hfeed
  refine ⟨t, ⟨current, .failed current, hlast, ?_⟩, hpackages, hdiagnostics⟩
  rw [hrest, hproduct, FileState.compile_cons_abort hfeed]

def MeetsCycle (l : Library) (c : Capabilities) (name : PackageName) (importer : Option Position) (s : Store) :
    Prop :=
  ∃ m package p, l.Passes c name importer s m ∧ m.asks? = some (package, p) ∧ package ∈ m.chain.names

lemma plain_or_opened {chain : Chain} {r : Except LoadError Package} (hfresh : name ∉ chain.names)
    (hrun : ((l.catalog c).loadOn chain.names name importer).run s = .ok r s') : s.ReportsPlain s' ∨
      ∃ m r' s'', l.open? chain name importer s = some m ∧ name ∈ (l.catalog c).names ∧
        s''.diagnostics = s'.diagnostics ∧
        (m.file.compile c ((l.catalog c).loadOn m.chain.names) name m.reading m.product m.rest).run m.store =
          .ok r' s'' := by
  cases hkept : s.package? name with
  | some found =>
    cases (Catalog.loadOn_of_kept hkept).symm.trans hrun
    exact .inl (.of_eq rfl)
  | none =>
    cases hfetch : l.fetch? name with
    | none =>
      have hsupplier := supplier?_of_no_fetch (c := c) hfetch
      cases (Catalog.loadOn_of_missing hkept hfresh hsupplier).symm.trans hrun
      exact .inl (.report s rfl)
    | some fetch =>
      have hsupplier := supplier?_of_fetch (c := c) hfetch
      rw [Catalog.loadOn_of_supplied hkept hfresh hsupplier] at hrun
      obtain ⟨r', s'', hcompile, hconclude⟩ := Run.run_bind_eq_ok hrun
      have hsame := Run.diagnostics_of_conclude hconclude
      rw [Catalog.compiling] at hcompile
      obtain ⟨fetched, s₁, hfetched, hcompile⟩ := Run.run_bind_eq_ok hcompile
      cases (fetch_ends hfetch _).elim hfetched with
      | read found sources =>
        obtain ⟨file, text⟩ := found
        refine .inr ⟨_, r', s'', open?_of_fetched hkept hfresh hfetch hfetched,
          Catalog.mem_names_of_supplier? hsupplier, hsame.symm, ?_⟩
        simp only [Moment.first, Chain.names_concat]
        exact hcompile
      | @unread e sources d plain =>
        cases hcompile
        exact .inl ⟨[d], hsame, by simp [plain]⟩

lemma Passes.meets_or_plain {m : Moment} (h : l.Passes c name importer s m) (hs : s.Idle c) {last : PackageName}
    {r : Except LoadError Package} {s' : Store}
    (hrun : (m.file.compile c ((l.catalog c).loadOn m.chain.names) last m.reading m.product m.rest).run m.store =
      .ok r s') : l.MeetsCycle c name importer s ∨ m.store.ReportsPlain s' := by
  have hu := h.underway hs
  cases hrest : m.rest with
  | nil =>
    have hends : (m.file.compile c ((l.catalog c).loadOn m.chain.names) last m.reading m.product []).Ends m.store
        fun _ s' => m.store.ReportsPlain s' :=
      (hu.close_ends m.reading).bind fun _ _ ⟨hu', _, hplain⟩ =>
        (hu'.deliver_ends last).mono fun _ _ h => hplain.trans h.2
    rw [hrest] at hrun
    exact .inr (hends.elim hrun)
  | cons e rest =>
    rw [hrest] at hrun
    obtain ⟨⟨f, out⟩, s₁, hfeed, hfed, hafter⟩ := hu.feed_ends (l.loadOn_loads c m.chain) e
    cases out with
    | nothing =>
      rw [FileState.compile_cons_nothing hfeed] at hrun
      have hnext := h.next (advance?_of_nothing hrest hfeed)
      exact (hnext.meets_or_plain hs hrun).imp_right hafter.2.2.trans
    | finished package =>
      obtain ⟨hproduct, _, _, hplain⟩ := hafter
      rw [hproduct, FileState.compile_cons_finished hfeed] at hrun
      have hnext := h.next (advance?_of_finished hrest hfeed)
      exact (hnext.meets_or_plain hs hrun).imp_right hplain.trans
    | abort =>
      rw [hafter.1, FileState.compile_cons_abort hfeed] at hrun
      cases hrun
      cases hfed with
      | @failed package qualifier p error s₂ asks ran =>
        have hasks := Moment.asks?_of_asks hrest asks
        have hreport := Store.ReportsPlain.report s₂ (d := loadFailure (package, some p)) rfl
        by_cases hchain : package ∈ m.chain.names
        · exact .inl ⟨m, package, p, h, hasks, hchain⟩
        rcases plain_or_opened hchain ran with hplain | ⟨m', r', s₃, hopen, hname, hsame, hinner⟩
        · exact .inr (hplain.trans hreport)
        · have hpassed := h.inner hasks hopen
          have hchain' := chain_of_open? hopen
          refine (hpassed.meets_or_plain hs hinner).imp_right fun hplain => ?_
          have hfirst : m.store.ReportsPlain m'.store := .of_eq (diagnostics_of_open? hopen)
          exact ((hfirst.trans hplain).trans (.of_eq hsame.symm)).trans hreport
termination_by (((l.catalog c).remaining m.chain.names).length, m.rest.length)
decreasing_by
  · exact Prod.Lex.right _ (by simp [hrest])
  · rw [hchain', Chain.names_concat]
    exact Prod.Lex.left _ _ (Catalog.length_remaining_lt hname hchain)
  · exact Prod.Lex.right _ (by simp [hrest])

lemma load_meets_or_plain (hs : s.Idle c) {r : Except LoadError Package}
    (hrun : ((l.catalog c).loadOn [] name importer).run s = .ok r s') :
    l.MeetsCycle c name importer s ∨ s.ReportsPlain s' := by
  have hfresh : name ∉ Chain.names [] := by simp [Chain.names]
  rcases plain_or_opened hfresh hrun with hplain | ⟨m, r', s'', hopen, _, hsame, hinner⟩
  · exact .inr hplain
  · refine ((Passes.first hopen).meets_or_plain hs hinner).imp_right fun hplain => ?_
    exact ((Store.ReportsPlain.of_eq (diagnostics_of_open? hopen)).trans hplain).trans (.of_eq hsame.symm)

/-- When an import in the last of the packages being loaded asks for one of them, the load fails and what it
reports ends with the cycle and with all the packages that could not be loaded, the innermost first. Otherwise
no cycle is reported, and never are there two. -/
theorem load_reports_cycle {requests : List Request} (hs : ((l.catalog c).serve requests).run {} = .ok () s)
    (name : PackageName) (importer : Option Position) : ∃ r s' found,
      ((l.catalog c).load name importer).run s = .ok r s' ∧ s'.diagnostics = s.diagnostics ++ found ∧
      (found.filter Diagnostic.isCircular).length ≤ 1 ∧
      (¬ l.MeetsCycle c name importer s → found.filter Diagnostic.isCircular = []) ∧
      ∀ m package p, l.Passes c name importer s m → m.asks? = some (package, p) → package ∈ m.chain.names →
        r = .error (.failed name) ∧ (∀ q ∈ m.chain.names, s'.package? q = none) ∧
        ∃ earlier, earlier.filter Diagnostic.isCircular = [] ∧ found = earlier ++
          .circularImport (m.chain.cycle package (some p)) (some p) ::
            ((package, some p) :: m.chain.tail.reverse).map loadFailure := by
  have hidle := idle_of_serve hs
  obtain ⟨r, s', hrun, hloaded, _⟩ := load_ends (l := l) hidle name importer
  have hrunOn := (run_load hidle.trail name importer).symm.trans hrun
  obtain ⟨found, hfound, hcount⟩ := hloaded.reports
  refine ⟨r, s', found, hrun, hfound, hcount, fun hnever => ?_, fun m package p hpasses hasks hchain => ?_⟩
  · obtain ⟨other, hother, hplain⟩ := (load_meets_or_plain hidle hrunOn).resolve_left hnever
    rw [← hplain, List.append_cancel_left (hfound.symm.trans hother)]
  · obtain ⟨t, hfails, hpackages, hdiagnostics⟩ := hpasses.fails_of_cycle hidle hasks hchain
    obtain ⟨s'', hload, hpackages', hdiagnostics'⟩ := hpasses.unwind hidle hfails
    cases hload.symm.trans hrunOn
    refine ⟨rfl, fun q hq => ?_, ?_⟩
    · have htrail := (hpasses.underway hidle).trail
      rw [Store.package?_eq_none_iff, hpackages', hpackages]
      exact fun k hk heq => htrail.uncached k hk (heq ▸ hq)
    · obtain ⟨earlier, hearlier, hplain⟩ := hpasses.reportsPlain hidle
      refine ⟨earlier, hplain, ?_⟩
      rw [hdiagnostics', hdiagnostics, hearlier, List.append_assoc, List.append_assoc] at hfound
      rw [← List.append_cancel_left hfound]
      simp

def firstOfTwo : PackageName := ⟨[⟨"a", by decide +kernel⟩], List.cons_ne_nil _ _⟩

def secondOfTwo : PackageName := ⟨[⟨"b", by decide +kernel⟩], List.cons_ne_nil _ _⟩

def twoOfCycle : Library :=
  .texts [(firstOfTwo, "(package-begin a) (import b as b)"), (secondOfTwo, "(package-begin b) (import a as a)")]

def placeOfTwo (file : Nat) : Position :=
  ⟨⟨file⟩, 1, 19, ⟨18, 33⟩⟩

lemma two_packages_report_cycle : ∃ s', ((twoOfCycle.catalog {}).load firstOfTwo none).run {} =
    .ok (.error (.failed firstOfTwo)) s' ∧ s'.package? firstOfTwo = none ∧ s'.package? secondOfTwo = none ∧
      ∃ earlier, s'.diagnostics = earlier ++ [
        .circularImport [⟨firstOfTwo, secondOfTwo, some (placeOfTwo 0)⟩, ⟨secondOfTwo, firstOfTwo, some (placeOfTwo 1)⟩]
          (some (placeOfTwo 1)),
        loadFailure (firstOfTwo, some (placeOfTwo 1)), loadFailure (secondOfTwo, some (placeOfTwo 0))] := by
  have hserve : ((twoOfCycle.catalog {}).serve []).run {} = .ok () {} := rfl
  have hmoments : ((((twoOfCycle.open? [] firstOfTwo none {}).bind (twoOfCycle.advance? {})).filter
      (·.asks? = some (secondOfTwo, placeOfTwo 0))).bind fun m =>
        (twoOfCycle.open? m.chain secondOfTwo (some (placeOfTwo 0)) m.store).bind (twoOfCycle.advance? {})).map
          (fun m => (m.asks?, m.chain)) = some (some (firstOfTwo, placeOfTwo 1),
            [(firstOfTwo, none), (secondOfTwo, some (placeOfTwo 0))]) := by
    decide +kernel
  obtain ⟨m, hm, hview⟩ := Option.map_eq_some_iff.mp hmoments
  obtain ⟨outer, houter, hm⟩ := Option.bind_eq_some_iff.mp hm
  obtain ⟨houter, hfirst⟩ := Option.filter_eq_some_iff.mp houter
  obtain ⟨m₀, hopen, hadvance⟩ := Option.bind_eq_some_iff.mp houter
  obtain ⟨m₁, hinner, hlast⟩ := Option.bind_eq_some_iff.mp hm
  obtain ⟨hasks, hchain⟩ := Prod.mk.inj hview
  have hpasses := (((Passes.first hopen).next hadvance).inner (of_decide_eq_true hfirst) hinner).next hlast
  obtain ⟨r, s', found, hrun, hfound, _, _, hcycle⟩ := load_reports_cycle hserve firstOfTwo none
  obtain ⟨rfl, hnone, earlier, _, hend⟩ := hcycle m _ _ hpasses hasks (by rw [hchain]; decide +kernel)
  rw [hchain] at hnone hend
  have hlinks : Chain.cycle [(firstOfTwo, none), (secondOfTwo, some (placeOfTwo 0))] firstOfTwo (some (placeOfTwo 1)) =
      [⟨firstOfTwo, secondOfTwo, some (placeOfTwo 0)⟩, ⟨secondOfTwo, firstOfTwo, some (placeOfTwo 1)⟩] := by
    decide +kernel
  refine ⟨s', hrun, hnone _ (by decide +kernel), hnone _ (by decide +kernel), earlier, ?_⟩
  rw [hfound, hend, hlinks]
  rfl

end RecordSchema.Library
