import RecordSchema.Proofs.Afresh.Moment
import RecordSchema.Proofs.Insertion.Step
import RecordSchema.Proofs.Load.Verdict

namespace RecordSchema

variable {l : Library} {c : Capabilities} {p : PackageName} {k : Nat} {n : Numbering} {e : Expr} {w : Draft}

lemma Draft.feed_define_eq {d : Definition Mention} (h : e.toStatement = .ok (.define d)) (load load' : Provider)
    (name : PackageName) : w.feed c n load name e = w.feed c n load' name e := by
  rw [feed, feed, FileState.effect_eq h]
  generalize hx : w.file.statementEffect c w.types (.define d) = x
  rcases x with (error | fault) | effect
  · rfl
  · rfl
  · cases FileState.comesTo_of_statementEffect hx
    rfl

namespace Moment.Retrace

variable {m : Moment} {ρ : Renaming}

lemma reading_relocate (t : m.Retrace l c) (hsuits : (n.rename ρ).Suits l m.store [⟨t.site.name, t.draft.gathered⟩]) :
    m.reading = (Expr.read (n.file t.site.name) t.text).relocate ρ := by
  have hnumber : ρ.file (n.file t.site.name) = t.file := hsuits.file _ _ t.registered
  rw [t.reading_eq, ← hnumber, Expr.read_rename]

lemma draft_relocate (t : m.Retrace l c) (hsuits : (n.rename ρ).Suits l m.store [⟨t.site.name, t.draft.gathered⟩])
    {exprs : List Expr} (hexprs : exprs.map (.relocate ρ) = t.done) {chain : Chain}
    (hw : exprs.foldlM (Draft.feed c n (l.afresh c n chain) t.site.name) { needs := [t.site.name] } = .ok w) :
    w.relocate ρ = t.draft := by
  have hmirrors (other : PackageName) (q : Option Position) := l.afresh_mirrors (r := ρ) c n chain other q
  have hmoved := (Attempt.Mirrors.foldlM (fun w e => Draft.feed_mirrors w t.site.name hmirrors e) _ _).eq_ok hw
  have hagain := t.reaches.again _ hsuits t.site.outer t.site.importer t.reaches.tracks.needs_not_mem_outer
  rw [hexprs] at hmoved
  exact Draft.foldlM_agree (l.afresh_agrees c (n.rename ρ) _ _) hmoved hagain

end Moment.Retrace

namespace Library

/-- In some session the expression at the place `k` of the file of `p` is accepted. -/
inductive AcceptsAt (l : Library) (c : Capabilities) (p : PackageName) (k : Nat) : Prop
  | intro {requests : List Request} {s : Store} {name : PackageName} {importer : Option Position} {m : Moment} {e : Expr}
      {rest : List Expr} (ran : ((l.catalog c).serve requests).run {} = .ok () s)
      (passes : l.Passes c name importer s m) (last : m.chain.names.getLast? = some p) (rest_eq : m.rest = e :: rest)
      (place : m.reading.exprs.drop k = m.rest)
      (accepts : m.file.Accepts c ((l.catalog c).loadOn m.chain.names) e m.store)

lemma drop_of_advance? {m m' : Moment} (place : m.reading.exprs.drop k = m.rest) (h : l.advance? c m = some m') :
    m'.reading.exprs.drop (k + 1) = m'.rest := by
  obtain ⟨e, rest, f, out, s', hrest, _, hcases⟩ := advance?_eq_some h
  have htail : m.reading.exprs.drop (k + 1) = rest := by rw [← List.tail_drop, place, hrest, List.tail_cons]
  rcases hcases with ⟨_, rfl⟩ | ⟨_, _, rfl⟩ <;> exact htail

lemma AcceptsAt.of_advance? {requests : List Request} {s : Store} {name : PackageName} {importer : Option Position}
    {m m' : Moment} (ran : ((l.catalog c).serve requests).run {} = .ok () s) (passes : l.Passes c name importer s m)
    (last : m.chain.names.getLast? = some p) (place : m.reading.exprs.drop k = m.rest)
    (advanced : l.advance? c m = some m') (silent : m'.store.diagnostics.length = m.store.diagnostics.length) :
    l.AcceptsAt c p k := by
  have hready := passes.ready (idle_of_serve ran)
  obtain ⟨e, rest, f, out, s', hrest, hrun, hcases⟩ := advance?_eq_some advanced
  refine ⟨ran, passes, last, hrest, place, (FileState.accepts_iff hready (l.loadOn_loads c m.chain) hrun).mpr ?_⟩
  rcases hcases with ⟨_, rfl⟩ | ⟨_, _, rfl⟩ <;> exact silent

lemma AcceptsAt.exists_reaches (h : l.AcceptsAt c p k) :
    ∃ (m : Moment) (t : m.Retrace l c) (e : Expr) (v : Draft) (s : Store), t.site.name = p ∧
      m.reading.exprs[k]? = some e ∧ m.reading.exprs.take k = t.done ∧
        Draft.Reaches l c t.site t.draft m.store [e] v s ∧ v.told.length = t.draft.told.length := by
  obtain @⟨requests, s, _, _, m, e, rest, ran, passes, last, rest_eq, place, accepts⟩ := h
  have hsettled := settled_of_serve ran
  obtain ⟨t⟩ := passes.retrace hsettled
  have hready := passes.ready hsettled.idle
  have hloads := l.loadOn_loads c m.chain
  obtain ⟨⟨f, out⟩, s', hrun, hfed⟩ := hready.feed_ends hloads e
  have hlength := (FileState.accepts_iff hready hloads hrun).mp accepts
  have hout : out ≠ .abort := by
    rintro rfl
    have htells := hfed.tells_of_abort hready.underway hloads
    rw [Store.Tells, hlength] at htells
    exact Nat.lt_irrefl _ htells
  obtain ⟨v, _, _, hreaches⟩ := t.feed_reaches hrun hout
  refine ⟨m, t, e, v, s', ?_, ?_, ?_, hreaches, ?_⟩
  · rw [t.chain_eq, t.site.names_chain, List.getLast?_concat] at last
    exact Option.some.inj last
  · have hhead := congrArg List.head? (place.trans rest_eq)
    rwa [List.head?_drop] at hhead
  · have hsplit := t.exprs_eq
    rw [← place] at hsplit
    exact List.append_cancel_right ((List.take_append_drop k _).trans hsplit)
  · rw [t.reaches.tracks.told, hreaches.tracks.told, List.length_append, List.length_append] at hlength
    omega

theorem AcceptsAt.feed (h : l.AcceptsAt c p k) (hfile : n.file.Injective)
    (hidentifier : (fun key : PackageName × TypeName => n.identifier key.1 key.2).Injective) {text : String}
    (hsource : l.source? p = some (.ok text)) (he : (Expr.read (n.file p) text).exprs[k]? = some e)
    {d : Definition Mention} (hd : e.toStatement = .ok (.define d)) {chain : Chain}
    (hw : ((Expr.read (n.file p) text).exprs.take k).foldlM (Draft.feed c n (l.afresh c n chain) p) { needs := [p] } = .ok w)
    (hquiet : w.told = []) : (w.feed c n (l.afresh c n chain) p e).Blameless fun w₁ => w₁.told = [] := by
  obtain ⟨m, t, e', v, s, rfl, he', htake, hreaches, htold⟩ := h.exists_reaches
  cases hsource.symm.trans t.source
  -- The numbers go over into those that the session has given out.
  obtain ⟨ρ, _, hlarge⟩ := hreaches.tracks.kept.exists_renaming hfile hidentifier
  have hsuits : (n.rename ρ).Suits l s [⟨t.site.name, v.gathered⟩] :=
    hlarge.mono (.refl _) (entries_subset (by simp))
  have hbefore := hreaches.suits hsuits
  rw [t.reading_relocate hbefore, Reading.relocate_exprs] at he' htake
  rw [← List.map_take] at htake
  have hdraft := t.draft_relocate hbefore htake hw
  obtain rfl : e.relocate ρ = e' := by
    rw [List.getElem?_map, he] at he'
    exact Option.some.inj he'
  obtain ⟨d', hd', _⟩ := (Expr.relocate_alike ρ e).symm.define hd
  have hlast := hreaches.again _ hsuits t.site.outer t.site.importer hreaches.tracks.needs_not_mem_outer
  rw [Draft.foldlM_singleton] at hlast
  have hmirrors (other : PackageName) (q : Option Position) := l.afresh_mirrors (r := ρ) c n chain other q
  have hfeed := w.feed_mirrors (c := c) (n := n) t.site.name hmirrors e
  rw [hdraft, Draft.feed_define_eq hd' _ (l.afresh c (n.rename ρ) _)] at hfeed
  refine (hfeed.blameless hlast).mono fun w₁ hw₁ => ?_
  rw [← hw₁, ← hdraft, Draft.relocate_told, Draft.relocate_told, List.length_map, List.length_map, hquiet] at htold
  exact List.eq_nil_of_length_eq_zero htold

end Library

end RecordSchema
