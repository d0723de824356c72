import RecordSchema.Proofs.Load.Reason
import RecordSchema.Proofs.Load.Unwind
import RecordSchema.Proofs.Source.Filed

namespace RecordSchema

variable {c : Capabilities} {l : Library} {chain : Chain} {name : PackageName} {importer : Option Position}
  {s s' s'' : Store} {m : Moment}

structure Store.Aside (l : Library) (s s' : Store) : Prop where
  types : s'.types = s.types
  packages : s'.packages = s.packages
  nextIdentifier : s.nextIdentifier ≤ s'.nextIdentifier
  filed : s.sources.Filed l → s'.sources.Filed l

namespace Store.Aside

lemma of_eq (htypes : s'.types = s.types) (hpackages : s'.packages = s.packages)
    (hnext : s.nextIdentifier ≤ s'.nextIdentifier) (hsources : s'.sources = s.sources) : s.Aside l s' :=
  ⟨htypes, hpackages, hnext, fun h => hsources ▸ h⟩

lemma refl (s : Store) : s.Aside l s :=
  of_eq rfl rfl (Nat.le_refl _) rfl

lemma trans (h : s.Aside l s') (h' : s'.Aside l s'') : s.Aside l s'' where
  types := h'.types.trans h.types
  packages := h'.packages.trans h.packages
  nextIdentifier := Nat.le_trans h.nextIdentifier h'.nextIdentifier
  filed hs := h'.filed (h.filed hs)

lemma reporting (s : Store) (d : Diagnostic) : s.Aside l (s.reporting d) :=
  of_eq rfl rfl (Nat.le_refl _) rfl

lemma numbering (s : Store) : s.Aside l s.numbering :=
  of_eq rfl rfl (Nat.le_succ _) rfl

lemma entering (s : Store) (chain : List PackageName) (name : PackageName) (importer : Option Position) :
    s.Aside l (s.entering chain name importer) :=
  of_eq rfl rfl (Nat.le_refl _) rfl

lemma leaving (s : Store) (chain : List PackageName) : s.Aside l (s.leaving chain) :=
  of_eq rfl rfl (Nat.le_refl _) rfl

lemma grows (h : s.Aside l s') : s.Grows s' :=
  .of_eq h.types h.packages h.nextIdentifier

end Store.Aside

lemma FileState.Underway.compile_cons_silent {load : Importer} {f : FileState} {product : Product} {reading : Reading}
    {e : Expr} {rest : List Expr} {package : Package} (h : f.Underway c chain s product) (hl : load.Loads c chain)
    (hrun : (f.compile c load name reading product (e :: rest)).run s = .ok (.ok package) s')
    (hlength : s'.diagnostics.length = s.diagnostics.length) : ∃ f' out product' s₁,
      (f.feed c load e).run s = .ok (f', out) s₁ ∧ s₁.diagnostics.length = s.diagnostics.length ∧
      (out = .nothing ∧ product' = product ∨
        ∃ package, out = .finished package ∧ product = none ∧ product' = some (package, e.position)) ∧
      f'.Underway c chain s₁ product' ∧
      (f'.compile c load name reading product' rest).run s₁ = .ok (.ok package) s' ∧
      s'.diagnostics.length = s₁.diagnostics.length := by
  obtain ⟨⟨f', out⟩, s₁, hfeed, _, hafter⟩ := h.feed_ends hl e
  have hle : ∀ {product'}, f'.Underway c chain s₁ product' →
      (f'.compile c load name reading product' rest).run s₁ = .ok (.ok package) s' →
        s₁.diagnostics.length ≤ s'.diagnostics.length := by
    intro product' hu hrest
    exact ((compile_ends hl name reading rest hu).elim hrest).reports.length_le
  cases out with
  | nothing =>
    obtain ⟨hu, _, hplain⟩ := hafter
    rw [compile_cons_nothing hfeed] at hrun
    have hfirst := hplain.reports.length_le
    have hothers := hle hu hrun
    exact ⟨f', _, product, s₁, hfeed, by omega, .inl ⟨rfl, rfl⟩, hu, hrun, by omega⟩
  | finished delivered =>
    obtain ⟨rfl, hu, _, hplain⟩ := hafter
    rw [compile_cons_finished hfeed] at hrun
    have hfirst := hplain.reports.length_le
    have hothers := hle hu hrun
    exact ⟨f', _, _, s₁, hfeed, by omega, .inr ⟨delivered, rfl, rfl, rfl⟩, hu, hrun, by omega⟩
  | abort =>
    rw [hafter.1, compile_cons_abort hfeed] at hrun
    cases hrun

namespace Library

lemma aside_of_fetch {fetch : Fetch} {r : Except LoadError (FileId × String)} (h : l.fetch? name = some fetch)
    (hrun : fetch.run s = .ok r s') : s.Aside l s' := by
  have hfiled : s.sources.Filed l → s'.sources.Filed l := by
    intro hs
    cases (fetch_gets h hs).elim hrun with
    | text _ _ _ filed => exact filed
    | unread _ _ filed => exact filed
  cases (fetch_ends h s).elim hrun with
  | read => exact ⟨rfl, rfl, Nat.le_refl _, hfiled⟩
  | unread => exact ⟨rfl, rfl, Nat.le_refl _, hfiled⟩

lemma aside_of_open? (h : l.open? chain name importer s = some m) : s.Aside l m.store := by
  obtain ⟨_, _, fetch, _, _, _, hfetch, hrun, rfl⟩ := open?_eq_some h
  exact (Store.Aside.entering s _ _ _).trans (aside_of_fetch hfetch hrun)

lemma begins_of_open? (h : l.open? chain name importer s = some m) :
    m.file = {} ∧ m.product = none ∧ m.rest = m.reading.exprs := by
  obtain ⟨_, _, _, _, _, _, _, _, rfl⟩ := open?_eq_some h
  exact ⟨rfl, rfl, rfl⟩

lemma remaining_lt_of_open? (c : Capabilities) (h : l.open? chain name importer s = some m) :
    ((l.catalog c).remaining m.chain.names).length < ((l.catalog c).remaining chain.names).length := by
  have hchain := chain_of_open? h
  obtain ⟨_, hfresh, fetch, _, _, _, hfetch, _⟩ := open?_eq_some h
  rw [hchain, Chain.names_concat]
  exact Catalog.length_remaining_lt (Catalog.mem_names_of_supplier? (supplier?_of_fetch hfetch)) hfresh

def ComesTo (l : Library) (c : Capabilities) (name : PackageName) (m : Moment) (r : Except LoadError Package)
    (s' : Store) : Prop :=
  (m.file.compile c ((l.catalog c).loadOn m.chain.names) name m.reading m.product m.rest).run m.store = .ok r s'

inductive Answers (l : Library) (c : Capabilities) (chain : Chain) (name : PackageName) (importer : Option Position)
    (s : Store) : Except LoadError Package → Store → Prop
  | kept {package : Package} (found : s.package? name = some package) :
      Answers l c chain name importer s (.ok package) s
  | circular {s' : Store} (uncached : s.package? name = none) (mem : name ∈ chain.names) (aside : s.Aside l s') :
      Answers l c chain name importer s (.error (.circular name)) s'
  | unavailable {s' : Store} (uncached : s.package? name = none) (aside : s.Aside l s') :
      Answers l c chain name importer s (.error (.failed name)) (s'.leaving chain.names)
  | failed {m : Moment} {r : Except LoadError Package} {s' : Store} (uncached : s.package? name = none)
      (opened : l.open? chain name importer s = some m) (comes : l.ComesTo c name m r s') :
      Answers l c chain name importer s (.error (.failed name)) (s'.leaving chain.names)
  | entered {m : Moment} {package : Package} {s' : Store} (uncached : s.package? name = none)
      (opened : l.open? chain name importer s = some m) (comes : l.ComesTo c name m (.ok package) s')
      (silent : s'.diagnostics.length = s.diagnostics.length) :
      Answers l c chain name importer s (.ok package)
        { s'.leaving chain.names with packages := s'.packages ++ [package] }

lemma answers_of_comes {r r' : Except LoadError Package} (hu : s.package? name = none)
    (h : l.open? chain name importer s = some m) (hm : l.ComesTo c name m r s')
    (hrun : (Run.stopLoading chain.names >>= fun _ => Run.conclude name s.diagnostics.length r).run s' = .ok r' s'') :
    l.Answers c chain name importer s r' s'' := by
  have hleave : (Run.stopLoading chain.names).run s' = .ok () (s'.leaving chain.names) := rfl
  rw [EStateM.run_bind, hleave] at hrun
  cases r with
  | error e =>
    cases hrun
    exact .failed hu h hm
  | ok package =>
    by_cases hlength : s'.diagnostics.length = s.diagnostics.length
    · cases (Run.run_conclude_kept (s := s'.leaving chain.names) hlength).symm.trans hrun
      exact .entered hu h hm hlength
    · cases (Run.run_conclude_dropped (s := s'.leaving chain.names) hlength).symm.trans hrun
      exact .failed hu h hm

lemma answers_of_loadOn {r : Except LoadError Package}
    (hrun : ((l.catalog c).loadOn chain.names name importer).run s = .ok r s') : l.Answers c chain name importer s r s' := by
  cases hkept : s.package? name with
  | some package =>
    cases (Catalog.loadOn_of_kept hkept).symm.trans hrun
    exact .kept hkept
  | none =>
    by_cases hchain : name ∈ chain.names
    · obtain ⟨current, hlast⟩ : ∃ current, chain.names.getLast? = some current :=
        Option.isSome_iff_exists.mp (by simpa using List.ne_nil_of_mem hchain)
      cases (Catalog.loadOn_of_cycle hkept hchain hlast).symm.trans hrun
      exact .circular hkept hchain (.of_eq rfl rfl (Nat.le_refl _) rfl)
    · cases hfetch : l.fetch? name with
      | none =>
        have hsupplier := supplier?_of_no_fetch (c := c) hfetch
        cases (Catalog.loadOn_of_missing hkept hchain hsupplier).symm.trans hrun
        exact .unavailable hkept ((Store.Aside.entering s chain.names name importer).trans (.reporting _ _))
      | some fetch =>
        rw [Catalog.loadOn_of_supplied hkept hchain (supplier?_of_fetch hfetch)] at hrun
        obtain ⟨r', s₁, hcompile, hconclude⟩ := Run.run_bind_eq_ok hrun
        rw [Catalog.compiling] at hcompile
        obtain ⟨fetched, s₂, hfetched, hcompile⟩ := Run.run_bind_eq_ok hcompile
        cases fetched with
        | ok found =>
          obtain ⟨file, text⟩ := found
          refine answers_of_comes hkept (open?_of_fetched hkept hchain hfetch hfetched) ?_ hconclude
          simp only [ComesTo, Moment.first, Chain.names_concat]
          exact hcompile
        | error e =>
          cases hcompile
          cases hconclude
          exact .unavailable hkept ((Store.Aside.entering s _ _ _).trans (aside_of_fetch hfetch hfetched))

lemma loadOn_of_entered {package : Package} (h : l.open? chain name importer s = some m)
    (hm : l.ComesTo c name m (.ok package) s') (hlength : s'.diagnostics.length = s.diagnostics.length) :
    ((l.catalog c).loadOn chain.names name importer).run s =
      .ok (.ok package) { s'.leaving chain.names with packages := s'.packages ++ [package] } := by
  obtain ⟨huncached, hfresh, fetch, file, text, s₁, hfetch, hrun, rfl⟩ := open?_eq_some h
  have hsupply : (Catalog.compiling c name fetch (fun other p => (l.catalog c).loadOn (chain.names ++ [name]) other p)
      importer).run (s.entering chain.names name importer) = .ok (.ok package) s' := by
    rw [Catalog.compiling, EStateM.run_bind, hrun]
    simp only [ComesTo, Moment.first, Chain.names_concat] at hm
    exact hm
  have hleave : (Run.stopLoading chain.names).run s' = .ok () (s'.leaving chain.names) := rfl
  rw [Catalog.loadOn_of_supplied huncached hfresh (supplier?_of_fetch hfetch), EStateM.run_bind, hsupply]
  dsimp only
  rw [EStateM.run_bind, hleave]
  exact Run.run_conclude_kept hlength

end Library

end RecordSchema
