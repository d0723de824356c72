import RecordSchema.Proofs.Afresh.History

namespace RecordSchema

variable {l : Library} {c : Capabilities} {name : PackageName} {importer : Option Position} {s : Store} {m m' : Moment}

structure Moment.Retrace (l : Library) (c : Capabilities) (m : Moment) where
  site : Site
  draft : Draft
  text : String
  file : FileId
  done : List Expr
  start : Store
  chain_eq : m.chain = site.chain
  file_eq : m.file = draft.file
  product_eq : m.product = draft.product
  reading_eq : m.reading = Expr.read file text
  exprs_eq : m.reading.exprs = done ++ m.rest
  source : l.source? site.name = some (.ok text)
  registered : m.store.sources.lookup? (l.path site.name) = some file
  reaches : Draft.Reaches l c site { needs := [site.name] } start done draft m.store

namespace Library

lemma retrace_of_open? {k : Site} (h : l.open? k.outer k.name k.importer s = some m) (hs : s.Sound c)
    (ht : s.OnTrail k.outer) (hkept : s.Kept l c k.opens) (hearlier : s.diagnostics = k.earlier) :
    Nonempty (m.Retrace l c) := by
  obtain ⟨huncached, hfresh, fetch, file, text, s', hfetch, hrun, rfl⟩ := open?_eq_some h
  have hfiled : (s.entering k.outer.names k.name k.importer).sources.Filed l := hkept.filed
  cases (fetch_gets hfetch hfiled).elim hrun with
  | @text _ _ sources source registered extends_ filed =>
    let s₁ : Store := { s.entering k.outer.names k.name k.importer with sources }
    have htrail : s₁.OnTrail k.chain := (ht.enter huncached hfresh).of_eq rfl rfl rfl
    have hopen : s₁.Kept l c k.opens :=
      hkept.mono (.of_eq rfl rfl (Nat.le_refl _)) rfl extends_ filed (List.Subset.refl _)
    have htracks : Draft.Tracks l c k s₁ { needs := [k.name] } :=
      .initial (hs.of_eq rfl rfl (Nat.le_refl _)) htrail hopen hearlier
    exact ⟨⟨k, _, text, file, [], s₁, rfl, rfl, rfl, rfl, rfl, source, registered, .refl htracks⟩⟩

end Library

namespace Moment.Retrace

lemma feed_reaches (t : m.Retrace l c) {e : Expr} {f : FileState} {out : Outcome} {s' : Store}
    (hrun : (m.file.feed c ((l.catalog c).loadOn m.chain.names) e).run m.store = .ok (f, out) s') (hout : out ≠ .abort) :
    ∃ w' : Draft, w'.file = f ∧ w'.product = out.product e.position t.draft.product ∧
      Draft.Reaches l c t.site t.draft m.store [e] w' s' := by
  rw [t.file_eq, t.chain_eq] at hrun
  have hsteps := t.reaches.tracks.feed_steps (l.loadOn_loads c t.site.chain)
    (fun ds => l.loadOn_retells c t.site.chain _ (t.site.opens_mem_chain ds)) e
  cases hsteps.elim hrun with
  | reaches w' goes product reaches => exact ⟨w', rfl, product, reaches⟩
  | breaks => exact absurd rfl hout

lemma advance (t : m.Retrace l c) (h : l.advance? c m = some m') : Nonempty (m'.Retrace l c) := by
  obtain ⟨e, rest, f, out, s', hrest, hrun, hcases⟩ := Library.advance?_eq_some h
  have hexprs : m.reading.exprs = (t.done ++ [e]) ++ rest := by
    rw [t.exprs_eq, hrest, List.append_assoc, List.singleton_append]
  rcases hcases with ⟨rfl, rfl⟩ | ⟨package, rfl, rfl⟩
  · obtain ⟨w', rfl, hproduct, hreaches⟩ := t.feed_reaches hrun nofun
    exact ⟨⟨t.site, w', t.text, t.file, t.done ++ [e], t.start, t.chain_eq, rfl, t.product_eq.trans hproduct.symm,
      t.reading_eq, hexprs, t.source, hreaches.sources _ _ t.registered, t.reaches.append hreaches⟩⟩
  · obtain ⟨w', rfl, hproduct, hreaches⟩ := t.feed_reaches hrun nofun
    exact ⟨⟨t.site, w', t.text, t.file, t.done ++ [e], t.start, t.chain_eq, rfl, hproduct.symm,
      t.reading_eq, hexprs, t.source, hreaches.sources _ _ t.registered, t.reaches.append hreaches⟩⟩

end Moment.Retrace

theorem Library.Passes.retrace (h : l.Passes c name importer s m) (hs : s.Settled l c) : Nonempty (m.Retrace l c) := by
  induction h with
  | first opened =>
    let k : Site := ⟨[], name, importer, [], nofun, s.diagnostics⟩
    exact retrace_of_open? (k := k) opened hs.idle.sound hs.idle.trail hs.kept rfl
  | next _ advanced ih =>
    obtain ⟨t⟩ := ih
    exact t.advance advanced
  | @inner m m' package p _ _ opened ih =>
    obtain ⟨t⟩ := ih
    have htracks := t.reaches.tracks
    let k : Site := ⟨t.site.chain, package, some p, t.site.opens ++ [⟨t.site.name, t.draft.gathered⟩],
      t.site.opens_mem_chain t.draft.gathered, m.store.diagnostics⟩
    rw [t.chain_eq] at opened
    exact retrace_of_open? (k := k) opened htracks.underway.store htracks.underway.trail htracks.kept rfl

end RecordSchema
