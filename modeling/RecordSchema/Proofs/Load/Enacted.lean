import RecordSchema.Proofs.Load.Verdict

namespace RecordSchema

variable {c : Capabilities} {chain : Chain} {load load' : Importer} {f : FileState} {e : Expr} {s s' : Store}
  {statement : Statement} {r : FileState × Outcome}

namespace FileState

inductive Enacted (load : Importer) (f : FileState) (s : Store) : Statement → FileState × Outcome → Store → Prop
  | begun {name : PackageName} {p : Position} (unopened : f.scope.state = .unopened) :
      Enacted load f s (.packageBegin name p)
        (⟨{ f.scope with state := .opened name }, .begin name, f.results⟩, .nothing) s
  | ended {name : PackageName} {p : Position} (opened : f.scope.state = .opened name) :
      Enacted load f s (.packageEnd p) (⟨{ f.scope with state := .closed name }, {}, f.results⟩,
        .finished ⟨name, f.collector.declarations⟩) s
  | imported {current package : PackageName} {qualifier : Segment} {p : Position} {found : Package} {scope : Scope}
      {s' : Store} (opened : f.scope.state = .opened current)
      (ran : (load package (some p)).run s = .ok (.ok found) s') (bound : f.scope.bindImport qualifier found = .ok scope) :
      Enacted load f s (.importPackage package qualifier p) ({ f with scope }, .nothing) s'
  | defined {d : Definition Mention} {r : Declaration} {scope : Scope} (opened : f.scope.state = .opened r.package)
      (name_eq : r.name = d.name) (identifier_eq : r.identifier = ⟨s.nextIdentifier⟩)
      (bound : f.scope.defineType r = .ok scope) :
      Enacted load f s (.define d) (⟨scope, f.collector.add r, f.results⟩, .nothing) (s.declaring r)
  | shown {current : PackageName} {statement : Statement} {result : CommandResult}
      (opened : f.scope.state = .opened current) (command : statement.isCommand = true) :
      Enacted load f s statement ({ f with results := f.results ++ [result] }, .nothing) s

lemma Ready.exists_carried (h : f.Ready c chain s) (hstatement : e.toStatement = .ok statement)
    (hsilent : s'.diagnostics.length = s.diagnostics.length) (hr : (f.feed c load e).run s = .ok r s') :
    ∃ x, ComesTo c s.types f statement x ∧ f.carry c load s (.ok x) = .ok r s' := by
  rw [feed_run h.store h.file, effect_eq hstatement] at hr
  cases hx : f.statementEffect c s.types statement with
  | ok x =>
    rw [hx] at hr
    exact ⟨x, comesTo_of_statementEffect hx, hr⟩
  | error failure =>
    rw [hx] at hr
    cases failure with
    | error d =>
      cases hr
      simp [Store.reporting] at hsilent
    | fault fault => cases hr

lemma import_of_resolve {package : PackageName} {qualifier : Segment} {p : Position} {scope : Scope}
    {bound : BoundStatement}
    (h : (f.scope.resolve load (.importPackage package qualifier p)).run s = .ok (.ok (scope, bound)) s') :
    ∃ current found, f.scope.state = .opened current ∧ (load package (some p)).run s = .ok (.ok found) s' ∧
      f.scope.bindImport qualifier found = .ok scope ∧ bound = .imported package p := by
  cases hp : f.scope.requirePackage p with
  | error error =>
    rw [Scope.resolve, Scope.importPackage, hp] at h
    cases h
  | ok current =>
    rw [resolve_import hp] at h
    by_cases hconflict : ((f.scope.imported? qualifier).isSome || (f.scope.qualifierOf? package).isSome) = true
    · rw [if_pos hconflict] at h
      cases h
    · rw [if_neg hconflict] at h
      obtain ⟨loaded, s₁, hload, hbind⟩ := Run.run_bind_eq_ok h
      cases loaded with
      | error error => cases hbind
      | ok found =>
        dsimp only at hbind
        split at hbind
        · cases hbind
        · next hscope =>
          cases hbind
          exact ⟨current, found, Scope.package?_of_requirePackage hp, hload, hscope, rfl⟩

lemma Ready.enacted (h : f.Ready c chain s) (hl : load.Loads c chain) (hstatement : e.toStatement = .ok statement)
    (ha : f.Accepts c load e s) (hr : (f.feed c load e).run s = .ok r s') : f.Enacted load s statement r s' := by
  have hsilent := (accepts_iff h hl hr).mp ha
  obtain ⟨x, hcomes, hrun⟩ := h.exists_carried hstatement hsilent hr
  cases hcomes with
  | begins unopened =>
    cases hrun
    exact .begun unopened
  | ends opened _ =>
    cases hrun
    exact .ended opened
  | imports opened _ =>
    obtain ⟨statement', scope, bound, s₁, hstatement', hresolve, _⟩ := ha
    cases hstatement.symm.trans hstatement'
    rw [feed_of_resolve hstatement hresolve] at hr
    obtain ⟨_, found, _, hload, hbind, rfl⟩ := import_of_resolve hresolve
    cases hr
    exact .imported opened hload hbind
  | @defines d package found resolved =>
    rcases define_cases (c := c) h.store h.file d with ⟨d', declared, scope, hd, hchecked, hstate, hi, _, _, hscope⟩ |
      ⟨package', d', error, hd, hchecked⟩ | ⟨error, hd⟩ <;> cases hd.symm.trans resolved
    · rw [carry, settle_eq_ok hchecked hscope] at hrun
      cases hrun
      have hname := (Check.label_of_declaration hchecked).2.trans (Definition.name_of_resolve hd)
      exact .defined hstate hname hi hscope
    · rw [carry, settle_eq_error hchecked] at hrun
      cases hrun
      simp [Store.reporting, Store.numbering] at hsilent
  | showsType opened | showsSize opened =>
    cases hrun
    exact .shown opened rfl

lemma Ready.of_feed (h : f.Ready c chain s) (hl : load.Loads c chain) (hr : (f.feed c load e).run s = .ok r s')
    (hout : r.2 ≠ .abort ∨ chain = []) : r.1.Ready c chain s' ∧ s.Grows s' :=
  h.of_fed hl ((h.feed_ends hl e).elim hr) hout

lemma resolve_congr (h : ∀ package qualifier p, statement = .importPackage package qualifier p →
      (load package (some p)).run s = (load' package (some p)).run s) :
    (f.scope.resolve load statement).run s = (f.scope.resolve load' statement).run s := by
  cases statement with
  | importPackage package qualifier p =>
    cases hp : f.scope.requirePackage p with
    | error error => rw [Scope.resolve, Scope.resolve, Scope.importPackage, Scope.importPackage, hp]
    | ok current =>
      rw [resolve_import hp, resolve_import hp]
      by_cases hconflict : ((f.scope.imported? qualifier).isSome || (f.scope.qualifierOf? package).isSome) = true
      · rw [if_pos hconflict, if_pos hconflict]
      · rw [if_neg hconflict, if_neg hconflict, EStateM.run_bind, EStateM.run_bind, h package qualifier p rfl]
  | packageBegin | packageEnd | define | showType | showSize => rfl

lemma feed_congr (h : ∀ name p, (load name p).run s = (load' name p).run s) :
    (f.feed c load e).run s = (f.feed c load' e).run s := by
  rw [feed, feed]
  cases e.toStatement with
  | error error => rfl
  | ok statement =>
    have hresolve : (f.scope.resolve load statement).run s = (f.scope.resolve load' statement).run s :=
      resolve_congr fun package _ p _ => h package (some p)
    simp only [EStateM.run_bind, hresolve]

end FileState

end RecordSchema
