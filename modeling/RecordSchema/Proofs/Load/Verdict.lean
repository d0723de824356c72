import RecordSchema.Proofs.Load.Reason

/-! An expression is either accepted without a diagnostic, or it is rejected and leaves no trace but one. -/

namespace RecordSchema

variable {c : Capabilities} {l : Library} {chain : Chain} {load : Importer} {f f' : FileState} {e : Expr}
  {s s' : Store}

def BoundStatement.Passes (c : Capabilities) (t : TypeTable) (scope : Scope) : BoundStatement → Prop
  | .define i package d => ∃ r scope', Check.declaration c t i package d = .ok r ∧ scope.commit r = .ok scope'
  | .showType type _ => ∃ r, type.check c t .record = .ok r
  | .showSize size _ => ∃ n, size.evaluate c t = .ok n
  | _ => True

lemma Run.exists_of_putType {d : Declaration} (h : (putType d).run s = .ok () s') : ∃ types, s' = { s with types } := by
  rw [putType] at h
  obtain ⟨_, _, hget, h⟩ := run_bind_eq_ok h
  cases hget
  obtain ⟨types, _, hentered, hmodify⟩ := run_bind_eq_ok h
  obtain ⟨_, rfl⟩ := ofExcept_eq_ok hentered
  cases hmodify
  exact ⟨types, rfl⟩

lemma Collector.define_cases {k : Collector} {i : Identifier} {package : PackageName} {d : Definition Target}
    {r : Except CheckError (Collector × Declaration)} (h : (k.define c i package d).run s = .ok r s') :
    (∃ declared types, Check.declaration c s.types i package d = .ok declared ∧ r = .ok (k.add declared, declared) ∧
      s' = { s with types }) ∨
    ∃ error, Check.declaration c s.types i package d = .error (.error error) ∧ r = .error error ∧ s' = s := by
  obtain ⟨_, _, hget, h⟩ := Run.run_bind_eq_ok h
  cases hget
  rcases Run.attempt_bind_eq_ok h with ⟨declared, hchecked, h⟩ | ⟨error, hchecked, h⟩
  · obtain ⟨_, _, hput, h⟩ := Run.run_bind_eq_ok h
    obtain ⟨types, rfl⟩ := Run.exists_of_putType hput
    cases h
    exact .inl ⟨declared, types, hchecked, rfl, rfl⟩
  · cases h
    exact .inr ⟨error, hchecked, rfl, rfl⟩

lemma Scope.resolve_keeps {scope : Scope} {statement : Statement} {r : Except ResolveError (Scope × BoundStatement)}
    (hstatement : ∀ package qualifier p, statement ≠ .importPackage package qualifier p)
    (h : (scope.resolve load statement).run s = .ok r s') :
    (s' = s ∨ s' = s.numbering) ∧ ∀ found, r = .ok found → ∃ state, found.1 = { scope with state } := by
  cases statement with
  | packageBegin | packageEnd =>
    rw [resolve] at h
    split at h <;> cases h <;> refine ⟨.inl rfl, ?_⟩ <;> rintro _ ⟨⟩
    exact ⟨_, rfl⟩
  | importPackage package qualifier p => exact absurd rfl (hstatement package qualifier p)
  | define d =>
    obtain ⟨_, _, hget, h⟩ := Run.run_bind_eq_ok h
    cases hget
    rcases Run.attempt_bind_eq_ok h with ⟨_, _, h⟩ | ⟨_, _, h⟩ <;> cases h
    · refine ⟨.inr rfl, ?_⟩
      rintro _ ⟨⟩
      exact ⟨scope.state, rfl⟩
    · refine ⟨.inl rfl, ?_⟩
      rintro _ ⟨⟩
  | showType | showSize =>
    rw [resolve] at h
    split at h
    · cases h
      refine ⟨.inl rfl, ?_⟩
      rintro _ ⟨⟩
    · obtain ⟨_, _, hget, h⟩ := Run.run_bind_eq_ok h
      cases hget
      rcases Run.attempt_bind_eq_ok h with ⟨_, _, h⟩ | ⟨_, _, h⟩ <;> cases h <;> refine ⟨.inl rfl, ?_⟩ <;> rintro _ ⟨⟩
      exact ⟨scope.state, rfl⟩

namespace FileState

def Accepts (c : Capabilities) (load : Importer) (f : FileState) (e : Expr) (s : Store) : Prop :=
  ∃ statement scope bound s', e.toStatement = .ok statement ∧
    (f.scope.resolve load statement).run s = .ok (.ok (scope, bound)) s' ∧ bound.Passes c s'.types scope

def Misses (load : Importer) (f : FileState) (e : Expr) (s : Store) : Prop :=
  ∃ package qualifier p error s', f.Asks e package qualifier p ∧
    (load package (some p)).run s = .ok (.error error) s'

lemma diagnostics_of_perform_define {i : Identifier} {package : PackageName} {d : Definition Target}
    {r : FileState × Outcome} (h : (f.perform c (.define i package d)).run s = .ok r s') :
    (BoundStatement.Passes c s.types f.scope (.define i package d) ∧ s'.diagnostics = s.diagnostics) ∨
      (¬ BoundStatement.Passes c s.types f.scope (.define i package d) ∧ s.Tells s') := by
  obtain ⟨checked, s₁, hchecked, hrest⟩ := Run.run_bind_eq_ok h
  rcases Collector.define_cases hchecked with ⟨declared, types, hdeclared, rfl, rfl⟩ | ⟨error, herror, rfl, rfl⟩
  · dsimp only at hrest
    cases hscope : f.scope.commit declared with
    | ok scope =>
      rw [hscope] at hrest
      cases hrest
      exact .inl ⟨⟨declared, scope, hdeclared, hscope⟩, rfl⟩
    | error error =>
      rw [hscope] at hrest
      cases hrest
      refine .inr ⟨?_, Store.Tells.report _ _⟩
      rintro ⟨declared', scope, hdeclared', hscope'⟩
      cases hdeclared.symm.trans hdeclared'
      cases hscope.symm.trans hscope'
  · cases hrest
    refine .inr ⟨?_, Store.Tells.report _ _⟩
    rintro ⟨declared, scope, hdeclared, _⟩
    cases herror.symm.trans hdeclared

lemma diagnostics_of_perform {bound : BoundStatement} {r : FileState × Outcome}
    (h : (f.perform c bound).run s = .ok r s') :
    (bound.Passes c s.types f.scope ∧ s'.diagnostics = s.diagnostics) ∨
      (¬ bound.Passes c s.types f.scope ∧ s.Tells s') := by
  cases bound with
  | packageBegin name p =>
    cases h
    exact .inl ⟨trivial, rfl⟩
  | packageEnd name p =>
    rw [perform] at h
    obtain ⟨package, s₁, hpackage, hrest⟩ := Run.run_bind_eq_ok h
    obtain ⟨_, rfl⟩ := Run.ofExcept_eq_ok hpackage
    cases hrest
    exact .inl ⟨trivial, rfl⟩
  | imported package p =>
    cases h
    exact .inl ⟨trivial, rfl⟩
  | define i package d => exact diagnostics_of_perform_define h
  | showType | showSize =>
    obtain ⟨_, _, hget, h⟩ := Run.run_bind_eq_ok h
    cases hget
    rcases Run.attempt_bind_eq_ok h with ⟨result, hresult, h⟩ | ⟨error, herror, h⟩
    · cases h
      exact .inl ⟨⟨result, hresult⟩, rfl⟩
    · cases h
      refine .inr ⟨?_, Store.Tells.report _ _⟩
      rintro ⟨result, hresult⟩
      cases herror.symm.trans hresult

lemma diagnostics_of_resolve {statement : Statement} {r : Except ResolveError (Scope × BoundStatement)}
    (h : f.Ready c chain s) (hl : load.Loads c chain) (hr : (f.scope.resolve load statement).run s = .ok r s') :
    s.diagnostics.length ≤ s'.diagnostics.length ∧ ∀ found, r = .ok found → s'.diagnostics = s.diagnostics := by
  suffices s'.diagnostics = s.diagnostics ∨ s.diagnostics.length ≤ s'.diagnostics.length ∧ ∃ error, r = .error error by
    rcases this with hsame | ⟨hle, error, rfl⟩
    · exact ⟨by rw [hsame], fun _ _ => hsame⟩
    · exact ⟨hle, by rintro found ⟨⟩⟩
  cases statement with
  | importPackage package qualifier p =>
    cases hp : f.scope.requirePackage p with
    | error error =>
      rw [Scope.resolve, Scope.importPackage, hp] at hr
      cases hr
      exact .inl rfl
    | ok current =>
      rw [resolve_import hp] at hr
      split at hr
      · cases hr
        exact .inl rfl
      · obtain ⟨loaded, s₁, hload, hr⟩ := Run.run_bind_eq_ok hr
        have hloaded := (hl _ _ s h.store h.trail).elim hload
        cases loaded with
        | error error =>
          cases hr
          exact .inr ⟨hloaded.reports.length_le, _, rfl⟩
        | ok found =>
          dsimp only at hr
          split at hr <;> cases hr <;> exact .inl (hloaded.found found rfl).2.2.1
  | packageBegin | packageEnd | define | showType | showSize =>
    rcases (Scope.resolve_keeps (by rintro _ _ _ ⟨⟩) hr).1 with rfl | rfl <;> exact .inl rfl

lemma accepts_iff {r : FileState × Outcome} (h : f.Ready c chain s) (hl : load.Loads c chain)
    (hr : (f.feed c load e).run s = .ok r s') : f.Accepts c load e s ↔ s'.diagnostics.length = s.diagnostics.length := by
  constructor
  · rintro ⟨statement, scope, bound, s₁, hstatement, hresolve, hpasses⟩
    have hsame := (diagnostics_of_resolve h hl hresolve).2 _ rfl
    rw [feed_of_resolve hstatement hresolve] at hr
    rcases diagnostics_of_perform hr with ⟨_, hsilent⟩ | ⟨hfails, _⟩
    · rw [hsilent, hsame]
    · exact absurd hpasses hfails
  · intro hlength
    cases hstatement : e.toStatement with
    | error error =>
      rw [feed, hstatement] at hr
      cases hr
      simp at hlength
    | ok statement =>
      rw [feed, hstatement] at hr
      obtain ⟨resolved, s₁, hresolve, hr⟩ := Run.run_bind_eq_ok hr
      obtain ⟨hle, hsame⟩ := diagnostics_of_resolve h hl hresolve
      cases resolved with
      | error error =>
        obtain ⟨_, _, hreport, hr⟩ := Run.run_bind_eq_ok hr
        cases hreport
        have hsilent : s' = s₁.reporting (.resolution error) := by
          split at hr <;> cases hr <;> rfl
        rw [hsilent] at hlength
        simp only [Store.reporting, List.length_append, List.length_singleton] at hlength
        omega
      | ok found =>
        obtain ⟨scope, bound⟩ := found
        refine ⟨statement, scope, bound, s₁, hstatement, hresolve, ?_⟩
        rcases diagnostics_of_perform hr with ⟨hpasses, _⟩ | ⟨_, hlt⟩
        · exact hpasses
        · rw [Store.Tells, hsame _ rfl] at hlt
          omega

lemma Linked.bindImport_eq_ok {package : PackageName} {qualifier : Segment} {p : Position} {found : Package}
    (h : f.Linked) (hasks : f.Asks e package qualifier p) (hname : found.name = package) :
    ∃ scope, f.scope.bindImport qualifier found = .ok scope := by
  have hkey : qualifier ∉ f.scope.qualifiers.keys := by
    intro hmem
    obtain ⟨entry, he, hqualifier⟩ := List.mem_map.mp hmem
    obtain ⟨q, hq, hqname⟩ := h entry he
    cases hvalue : f.scope.qualifiers.value? qualifier with
    | none => exact OneToOne.value?_eq_none_iff.mp hvalue hmem
    | some name =>
      have hfree := hasks.qualifier_free
      rw [Scope.imported?, hvalue, Option.bind_some, List.find?_eq_none] at hfree
      obtain ⟨entry', hfound, rfl⟩ := Option.map_eq_some_iff.mp hvalue
      obtain ⟨q', hq', hqname'⟩ := h entry' (List.mem_of_find?_eq_some hfound)
      exact hfree q' hq' (decide_eq_true hqname')
  have hvalue : found.name ∉ f.scope.qualifiers.values := by
    rw [hname]
    exact OneToOne.key?_eq_none_iff.mp hasks.package_free
  exact Scope.exists_bindImport_of_fresh hkey hvalue

end FileState

def Statement.isCommand : Statement → Bool
  | showType .. => true
  | showSize .. => true
  | _ => false

namespace FileState

lemma ComesTo.shown {t : TypeTable} {statement : Statement} {x : Effect} (hx : ComesTo c t f statement x)
    (h : statement.isCommand = true) : ∃ current result, f.scope.state = .opened current ∧
      x = .taken { f with results := f.results ++ [result] } .nothing := by
  cases hx with
  | showsType opened | showsSize opened => exact ⟨_, _, opened, rfl⟩
  | begins | ends | imports | defines => cases h

/-- What becomes of the file and of the store. An expression that is rejected leaves the file as it was, and a
single diagnostic; a declaration whose names were found has used an identifier up. An import whose package does
not load is reported last, after all that its load has reported. -/
inductive Verdict (c : Capabilities) (load : Importer) (f : FileState) (e : Expr) (s : Store) :
    FileState × Outcome → Store → Prop
  | accepted {f' : FileState} {out : Outcome} {s' : Store} (accepts : f.Accepts c load e s)
      (silent : s'.diagnostics = s.diagnostics)
      (command : ∀ statement, e.toStatement = .ok statement → statement.isCommand = true →
        out = .nothing ∧ s' = s ∧ ∃ result, f' = { f with results := f.results ++ [result] }) :
      Verdict c load f e s (f', out) s'
  | rejected {s' : Store} {d : Diagnostic} (rejects : ¬ f.Accepts c load e s) (loads : ¬ f.Misses load e s)
      (plain : ¬ f.Resolves s e → s' = { s with diagnostics := s.diagnostics ++ [d] })
      (numbered : f.Resolves s e → s' = { s with
        diagnostics := s.diagnostics ++ [d], nextIdentifier := s.nextIdentifier + 1 }) :
      Verdict c load f e s (f, .nothing) s'
  | missed {package : PackageName} {qualifier : Segment} {p : Position} {found : List Diagnostic} {s' : Store}
      (rejects : ¬ f.Accepts c load e s) (misses : f.Misses load e s)
      (statement : e.toStatement = .ok (.importPackage package qualifier p))
      (reported : s'.diagnostics = s.diagnostics ++ found ++ [.resolution ⟨.packageLoadFailed package, some p⟩]) :
      Verdict c load f e s (f, .abort) s'

lemma Verdict.of_silent {out : Outcome} (h : f.Ready c chain s) (hl : load.Loads c chain)
    (hrun : (f.feed c load e).run s = .ok (f', out) s') (silent : s'.diagnostics = s.diagnostics)
    (command : ∀ statement, e.toStatement = .ok statement → statement.isCommand = true →
      out = .nothing ∧ s' = s ∧ ∃ result, f' = { f with results := f.results ++ [result] }) :
    Verdict c load f e s (f', out) s' :=
  .accepted ((accepts_iff h hl hrun).mpr (by rw [silent])) silent command

lemma Verdict.of_asks {package : PackageName} {qualifier : Segment} {p : Position} (h : f.Ready c chain s)
    (hl : load.Loads c chain) (hasks : f.Asks e package qualifier p) :
    (f.feed c load e).Ends s (Verdict c load f e s) := by
  have hcommand : ∀ statement, e.toStatement = .ok statement → statement.isCommand = false := by
    intro statement hstatement
    cases hasks.statement.symm.trans hstatement
    rfl
  obtain ⟨r, s', hload, hloaded⟩ := hl package (some p) s h.store h.trail
  cases r with
  | error error =>
    have hrun := hasks.feed_of_failed (c := c) hload
    obtain ⟨found, hfound, _⟩ := hloaded.reports
    have hreported : (s'.reporting (.resolution ⟨.packageLoadFailed package, some p⟩)).diagnostics =
        s.diagnostics ++ found ++ [.resolution ⟨.packageLoadFailed package, some p⟩] := by
      rw [Store.reporting, hfound]
    refine .of_run hrun (.missed ?_ ⟨package, qualifier, p, error, s', hasks, hload⟩ hasks.statement hreported)
    rw [accepts_iff h hl hrun, hreported]
    simp
  | ok found =>
    obtain ⟨scope, hscope⟩ := h.linked.bindImport_eq_ok hasks (hloaded.found found rfl).2.1
    have hrun : (f.feed c load e).run s = .ok ({ f with scope }, .nothing) s' := by
      rw [hasks.feed_eq, bring, EStateM.run_bind, hload]
      simp only [hscope]
      rfl
    refine .of_run hrun (.of_silent h hl hrun (hloaded.found found rfl).2.2.1 fun statement hstatement hc => ?_)
    rw [hcommand statement hstatement] at hc
    cases hc

lemma not_misses (hrun : (f.feed c load e).run s = .ok (f', .nothing) s') : ¬ f.Misses load e s := by
  rintro ⟨package, qualifier, p, error, s', hasks, hload⟩
  cases hrun.symm.trans (hasks.feed_of_failed hload)

lemma Ready.feed_verdict (h : f.Ready c chain s) (hl : load.Loads c chain) (e : Expr) :
    (f.feed c load e).Ends s (Verdict c load f e s) := by
  have hrun : (f.feed c load e).run s = _ := feed_run h.store h.file
  have htakes : Takes c f e s _ := effect_takes h.store h.file
  have hcommand : ∀ statement, e.toStatement = .ok statement → statement.isCommand = true →
      ∀ x, f.effect c s.types e = .ok x →
        ∃ result, x = .taken { f with results := f.results ++ [result] } .nothing := by
    intro statement hstatement hc x hx
    rw [effect_eq hstatement] at hx
    obtain ⟨_, result, _, rfl⟩ := (comesTo_of_statementEffect hx).shown hc
    exact ⟨result, rfl⟩
  generalize f.effect c s.types e = x at hrun htakes hcommand
  have htaken : ∀ {g out}, x = .ok (.taken g out) → (f.feed c load e).Ends s (Verdict c load f e s) := by
    rintro g out rfl
    refine .of_run hrun (.of_silent h hl hrun rfl fun statement hstatement hc => ?_)
    obtain ⟨result, heq⟩ := hcommand statement hstatement hc _ rfl
    cases heq
    exact ⟨rfl, rfl, result, rfl⟩
  cases htakes with
  | refused _ unresolved =>
    have hrejects : ¬ f.Accepts c load e s := by
      rw [accepts_iff h hl hrun]
      simp [Store.reporting]
    exact .of_run hrun (.rejected hrejects (not_misses hrun) (fun _ => rfl) fun hresolves =>
      absurd hresolves unresolved)
  | begun | ended | shown => exact htaken rfl
  | asks asks => exact Verdict.of_asks h hl asks
  | @declares package d _ resolved settles =>
    rw [carry] at hrun
    generalize f.settle c s.types ⟨s.nextIdentifier⟩ package d = y at hrun settles
    cases settles with
    | unchecked =>
      have hrejects : ¬ f.Accepts c load e s := by
        rw [accepts_iff h hl hrun]
        simp [Store.reporting, Store.numbering]
      exact .of_run hrun (.rejected hrejects (not_misses hrun) (fun hn => absurd resolved hn) fun _ => rfl)
    | settled _ _ _ _ _ =>
      refine .of_run hrun (.of_silent h hl hrun rfl fun statement hstatement hc => ?_)
      obtain ⟨result, heq⟩ := hcommand statement hstatement hc _ rfl
      cases heq

end FileState

namespace Library

/-- Wherever a file may be fed, the next expression is either accepted in silence, or rejected for a reason that is
reported, and then nothing else has changed. -/
theorem feed_accepts_or_rejects (h : l.Met c chain f s) (e : Expr) :
    ∃ r s', (f.feed c (l.catalog c).load e).run s = .ok r s' ∧ f.Verdict c (l.catalog c).load e s r s' :=
  h.ready.feed_verdict (load_loads l c chain) e

def unsupportedField : List Expr :=
  (Expr.read ⟨0⟩ "(package-begin n) (record A [(field x (integer unsigned 7))])").exprs

lemma unsupported_field_rejected : ∃ f s e r s', (Library.texts []).Met {} [] f s ∧
    (f.feed {} ((Library.texts []).catalog {}).load e).run s = .ok r s' ∧
    f.Verdict {} ((Library.texts []).catalog {}).load e s r s' ∧ s.nextIdentifier = 0 ∧ s'.nextIdentifier = 1 ∧
    s'.diagnostics.length = 1 := by
  let load := ((Library.texts []).catalog {}).load
  have hfeeds : (unsupportedField[0]?.bind fun e₁ => ((({} : FileState).feed {} load e₁).result? {}).bind fun begun =>
      unsupportedField[1]?.bind fun e₂ => ((begun.1.1.feed {} load e₂).result? begun.2).map fun fed =>
        (begun.2.nextIdentifier, fed.2.nextIdentifier, fed.2.diagnostics.length)) = some (0, 1, 1) := by
    decide +kernel
  obtain ⟨e₁, _, hfeeds⟩ := Option.bind_eq_some_iff.mp hfeeds
  obtain ⟨⟨⟨f, out⟩, s⟩, hbegin, hfeeds⟩ := Option.bind_eq_some_iff.mp hfeeds
  obtain ⟨e₂, _, hfeeds⟩ := Option.bind_eq_some_iff.mp hfeeds
  obtain ⟨fed, hfed, hcounts⟩ := Option.map_eq_some_iff.mp hfeeds
  have hdesk : (Library.texts []).Desk {} ([] ++ f :: []) s := .fed (.opened .empty) (Run.run_of_result? hbegin)
  have hmet : (Library.texts []).Met {} [] f s := .byHand hdesk List.mem_cons_self
  obtain ⟨r, s', hrun, hverdict⟩ := feed_accepts_or_rejects hmet e₂
  cases (Run.run_of_result? hfed).symm.trans hrun
  simp only [Prod.mk.injEq] at hcounts
  obtain ⟨hs, hs', hlength⟩ := hcounts
  exact ⟨f, s, e₂, fed.1, fed.2, hmet, hrun, hverdict, hs, hs', hlength⟩

end Library

end RecordSchema
