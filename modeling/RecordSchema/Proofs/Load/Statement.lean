import RecordSchema.Proofs.Load.Effect

namespace RecordSchema

def Diagnostic.isCircular : Diagnostic → Bool
  | circularImport .. => true
  | _ => false

namespace FileState

structure Asks (f : FileState) (e : Expr) (package : PackageName) (qualifier : Segment) (p : Position) : Prop where
  statement : e.toStatement = .ok (.importPackage package qualifier p)
  opened : ∃ current, f.scope.state = .opened current
  qualifier_free : f.scope.imported? qualifier = none
  package_free : f.scope.qualifierOf? package = none

inductive Fed (c : Capabilities) (load : Importer) (f : FileState) (e : Expr) (s : Store) :
    FileState × Outcome → Store → Prop
  | rejected {d : Diagnostic} (plain : d.isCircular = false) : Fed c load f e s (f, .nothing) (s.reporting d)
  | begun {name : PackageName} (unopened : f.scope.state = .unopened) :
      Fed c load f e s (⟨{ f.scope with state := .opened name }, .begin name, f.results⟩, .nothing) s
  | ended {name : PackageName} (opened : f.scope.state = .opened name) :
      Fed c load f e s (⟨{ f.scope with state := .closed name }, {}, f.results⟩,
        .finished ⟨name, f.collector.declarations⟩) s
  | imported {package : PackageName} {qualifier : Segment} {p : Position} {found : Package} {scope : Scope}
      {s' : Store} (asks : f.Asks e package qualifier p) (ran : (load package (some p)).run s = .ok (.ok found) s')
      (bound : f.scope.bindImport qualifier found = .ok scope) :
      Fed c load f e s ({ f with scope }, .nothing) s'
  | clashed {package : PackageName} {qualifier : Segment} {p : Position} {found : Package} {d : Diagnostic}
      {s' : Store} (asks : f.Asks e package qualifier p) (ran : (load package (some p)).run s = .ok (.ok found) s')
      (plain : d.isCircular = false) : Fed c load f e s (f, .nothing) (s'.reporting d)
  | failed {package : PackageName} {qualifier : Segment} {p : Position} {error : LoadError} {s' : Store}
      (asks : f.Asks e package qualifier p) (ran : (load package (some p)).run s = .ok (.error error) s') :
      Fed c load f e s (f, .abort) (s'.reporting (.resolution ⟨.packageLoadFailed package, some p⟩))
  | refused {d : Diagnostic} (plain : d.isCircular = false) :
      Fed c load f e s (f, .nothing) (s.numbering.reporting d)
  | defined {d : Declaration} {scope : Scope} (opened : f.scope.state = .opened d.package)
      (identifier_eq : d.identifier = ⟨s.nextIdentifier⟩) (laid : d.layout.Laid c.packedTotals)
      (admitted : ∀ m ∈ d.memberTypes, Admitted c s.types m.1 m.2) (bound : f.scope.defineType d = .ok scope) :
      Fed c load f e s (⟨scope, f.collector.add d, f.results⟩, .nothing)
        { s.numbering with types := ⟨s.types.declarations ++ [d]⟩ }
  | shown {result : CommandResult} :
      Fed c load f e s ({ f with results := f.results ++ [result] }, .nothing) s

variable {c : Capabilities} {load : Importer} {f : FileState} {e : Expr} {s s' : Store}

lemma Asks.feed_eq {package : PackageName} {qualifier : Segment} {p : Position} (h : f.Asks e package qualifier p) :
    (f.feed c load e).run s = (f.bring load package qualifier p).run s := by
  obtain ⟨current, hstate⟩ := h.opened
  have hp : f.package p = .ok current := by
    rw [FileState.package, Scope.requirePackage, Scope.current?, hstate]
    rfl
  rw [importPackage_run h.statement, statementEffect, hp, h.qualifier_free, h.package_free]
  rfl

lemma Asks.feed_of_failed {package : PackageName} {qualifier : Segment} {p : Position} {error : LoadError}
    (h : f.Asks e package qualifier p) (hran : (load package (some p)).run s = .ok (.error error) s') :
    (f.feed c load e).run s = .ok (f, .abort) (s'.reporting (.resolution ⟨.packageLoadFailed package, some p⟩)) := by
  rw [h.feed_eq, bring, EStateM.run_bind, hran]
  rfl

lemma Asks.feed_of_clashed {package : PackageName} {qualifier : Segment} {p : Position} {found : Package}
    {conflict : OneToOne.Conflict} (h : f.Asks e package qualifier p)
    (hran : (load package (some p)).run s = .ok (.ok found) s')
    (hbound : f.scope.bindImport qualifier found = .error conflict) : (f.feed c load e).run s =
      .ok (f, .nothing) (s'.reporting (.resolution ⟨.importConflict package qualifier, some p⟩)) := by
  rw [h.feed_eq, bring, EStateM.run_bind, hran]
  dsimp only
  rw [hbound]
  rfl

lemma Asks.feed_of_bound {package : PackageName} {qualifier : Segment} {p : Position} {found : Package} {scope : Scope}
    (h : f.Asks e package qualifier p) (hran : (load package (some p)).run s = .ok (.ok found) s')
    (hbound : f.scope.bindImport qualifier found = .ok scope) :
    (f.feed c load e).run s = .ok ({ f with scope }, .nothing) s' := by
  rw [h.feed_eq, bring, EStateM.run_bind, hran]
  dsimp only
  rw [hbound]
  rfl

lemma Asks.ends {package : PackageName} {qualifier : Segment} {p : Position} (h : f.Asks e package qualifier p)
    (hload : (load package (some p)).Ends s fun _ _ => True) : (f.feed c load e).Ends s (Fed c load f e s) := by
  obtain ⟨r, s', hran, _⟩ := hload
  cases r with
  | error error => exact .of_run (h.feed_of_failed hran) (.failed h hran)
  | ok found =>
    cases hbound : f.scope.bindImport qualifier found with
    | error conflict => exact .of_run (h.feed_of_clashed hran hbound) (.clashed h hran rfl)
    | ok scope => exact .of_run (h.feed_of_bound hran hbound) (.imported h hran hbound)

def Resolves (f : FileState) (s : Store) (e : Expr) : Prop :=
  ∃ d found, e.toStatement = .ok (.define d) ∧ d.resolve s.types f.scope = .ok found

inductive Settles (c : Capabilities) (f : FileState) (s : Store) (package : PackageName) :
    Attempt Diagnostic (FileState × Declaration) → Prop
  | unchecked {error : CheckError} : Settles c f s package (.error (.error (.check error)))
  | settled {r : Declaration} {scope : Scope} (package_eq : r.package = package)
      (identifier_eq : r.identifier = ⟨s.nextIdentifier⟩) (laid : r.layout.Laid c.packedTotals)
      (admitted : ∀ m ∈ r.memberTypes, Admitted c s.types m.1 m.2) (bound : f.scope.defineType r = .ok scope) :
      Settles c f s package (.ok (⟨scope, f.collector.add r, f.results⟩, r))

inductive Takes (c : Capabilities) (f : FileState) (e : Expr) (s : Store) : Attempt Diagnostic Effect → Prop
  | refused {d : Diagnostic} (plain : d.isCircular = false) (unresolved : ¬ f.Resolves s e) :
      Takes c f e s (.error (.error d))
  | begun {name : PackageName} (unopened : f.scope.state = .unopened) :
      Takes c f e s (.ok (.taken ⟨{ f.scope with state := .opened name }, .begin name, f.results⟩ .nothing))
  | ended {name : PackageName} (opened : f.scope.state = .opened name) :
      Takes c f e s (.ok (.taken ⟨{ f.scope with state := .closed name }, {}, f.results⟩
        (.finished ⟨name, f.collector.declarations⟩)))
  | asks {package : PackageName} {qualifier : Segment} {p : Position} (asks : f.Asks e package qualifier p) :
      Takes c f e s (.ok (.asks package qualifier p))
  | declares {package : PackageName} {d : Definition Target} (opened : f.scope.state = .opened package)
      (resolved : f.Resolves s e) (settles : f.Settles c s package (f.settle c s.types ⟨s.nextIdentifier⟩ package d)) :
      Takes c f e s (.ok (.declares package d))
  | shown {result : CommandResult} :
      Takes c f e s (.ok (.taken { f with results := f.results ++ [result] } .nothing))

section

variable {t : TypeTable} {statement : Statement} {x : Effect}

lemma package_safe (f : FileState) (p : Position) : (f.package p).Safe fun name => f.scope.state = .opened name := by
  rw [FileState.package]
  cases hp : f.scope.requirePackage p with
  | ok name => exact .ok (Scope.package?_of_requirePackage hp)
  | error error => exact .error _

inductive ComesTo (c : Capabilities) (t : TypeTable) (f : FileState) : Statement → Effect → Prop
  | begins {name : PackageName} {p : Position} (unopened : f.scope.state = .unopened) :
      ComesTo c t f (.packageBegin name p)
        (.taken ⟨{ f.scope with state := .opened name }, .begin name, f.results⟩ .nothing)
  | ends {name : PackageName} {p : Position} (opened : f.scope.state = .opened name)
      (collected : f.collector.opened = some name) : ComesTo c t f (.packageEnd p)
        (.taken ⟨{ f.scope with state := .closed name }, {}, f.results⟩ (.finished ⟨name, f.collector.declarations⟩))
  | imports {current package : PackageName} {qualifier : Segment} {p : Position}
      (opened : f.scope.state = .opened current)
      (free : ((f.scope.imported? qualifier).isSome || (f.scope.qualifierOf? package).isSome) = false) :
      ComesTo c t f (.importPackage package qualifier p) (.asks package qualifier p)
  | defines {d : Definition Mention} {package : PackageName} {found : Definition Target}
      (resolved : d.resolve t f.scope = .ok (package, found)) : ComesTo c t f (.define d) (.declares package found)
  | showsType {current : PackageName} {type : TypeExpr Mention} {p : Position} {found : TypeExpr Target}
      {result : DataType} (opened : f.scope.state = .opened current) (resolved : type.resolve t f.scope = .ok found)
      (checked : found.check c t .record = .ok result) :
      ComesTo c t f (.showType type p) (.taken { f with results := f.results ++ [.type result] } .nothing)
  | showsSize {current : PackageName} {size : SizeExpr Mention} {p : Position} {found : SizeExpr Target} {result : Nat}
      (opened : f.scope.state = .opened current) (resolved : size.resolve t f.scope = .ok found)
      (checked : found.evaluate c t = .ok result) :
      ComesTo c t f (.showSize size p) (.taken { f with results := f.results ++ [.size result] } .nothing)

lemma comesTo_of_statementEffect (h : f.statementEffect c t statement = .ok x) : ComesTo c t f statement x := by
  cases statement with
  | packageBegin name p =>
    rw [statementEffect] at h
    split at h <;> cases h
    exact .begins ‹_›
  | packageEnd p =>
    obtain ⟨name, hp, h⟩ := exists_of_bind_eq_ok h
    obtain ⟨package, hfinish, h⟩ := exists_of_bind_eq_ok h
    cases h
    by_cases hcollected : f.collector.opened = some name
    · rw [Collector.finish, if_pos hcollected] at hfinish ⊢
      cases hfinish
      exact .ends ((f.package_safe p).of_eq_ok hp) hcollected
    · rw [Collector.finish, if_neg hcollected] at hfinish
      cases hfinish
  | importPackage package qualifier p =>
    obtain ⟨current, hp, h⟩ := exists_of_bind_eq_ok h
    split at h
    · cases h
    · next hfree =>
      cases h
      exact .imports ((f.package_safe p).of_eq_ok hp) (Bool.eq_false_of_not_eq_true hfree)
  | define d =>
    obtain ⟨⟨package, found⟩, hfound, h⟩ := exists_of_bind_eq_ok h
    cases h
    exact .defines (Attempt.eq_ok_of_retell hfound)
  | showType type p =>
    obtain ⟨current, hp, h⟩ := exists_of_bind_eq_ok h
    obtain ⟨found, hfound, h⟩ := exists_of_bind_eq_ok h
    obtain ⟨result, hresult, h⟩ := exists_of_bind_eq_ok h
    cases h
    exact .showsType ((f.package_safe p).of_eq_ok hp) (Attempt.eq_ok_of_retell hfound) (Attempt.eq_ok_of_retell hresult)
  | showSize size p =>
    obtain ⟨current, hp, h⟩ := exists_of_bind_eq_ok h
    obtain ⟨found, hfound, h⟩ := exists_of_bind_eq_ok h
    obtain ⟨result, hresult, h⟩ := exists_of_bind_eq_ok h
    cases h
    exact .showsSize ((f.package_safe p).of_eq_ok hp) (Attempt.eq_ok_of_retell hfound) (Attempt.eq_ok_of_retell hresult)

lemma exists_comesTo (h : f.effect c t e = .ok x) :
    ∃ statement, e.toStatement = .ok statement ∧ ComesTo c t f statement x := by
  cases hstatement : e.toStatement with
  | error error =>
    rw [effect, hstatement] at h
    cases h
  | ok statement =>
    rw [effect_eq hstatement] at h
    exact ⟨statement, rfl, comesTo_of_statementEffect h⟩

lemma statementEffect_safe (ht : t.Closed) (hs : f.scope.Registered t) (ho : f.collector.opened = f.scope.current?)
    (statement : Statement) : (f.statementEffect c t statement).Safe fun effect =>
      ∀ package d, effect = .declares package d → d.body.Bound t := by
  cases statement with
  | packageBegin name p =>
    rw [statementEffect]
    cases f.scope.state with
    | unopened => exact .ok (by rintro _ _ ⟨⟩)
    | opened current => exact .error _
    | closed previous => exact .error _
  | packageEnd p =>
    refine (f.package_safe p).bind fun name hname => ?_
    have hopened : f.collector.opened = some name := by rw [ho, Scope.current?, hname]
    refine (Attempt.Safe.ofFault (P := fun _ => True) (a := ⟨name, f.collector.declarations⟩) ?_ trivial).bind
      fun _ _ => .ok (by rintro _ _ ⟨⟩)
    rw [Collector.finish, if_pos hopened]
  | importPackage package qualifier p =>
    refine (f.package_safe p).bind fun _ _ => ?_
    split
    · exact .error _
    · exact .ok (by rintro _ _ ⟨⟩)
  | define d =>
    refine ((d.resolve_safe ht hs).retell _).bind fun found hfound => .ok ?_
    rintro package d ⟨⟩
    exact hfound.2.1
  | showType type p =>
    refine (f.package_safe p).bind fun _ _ => ((type.resolve_safe ht hs).retell _).bind fun type htype => ?_
    exact ((type.check_safe .record htype).retell _).bind fun _ _ => .ok (by rintro _ _ ⟨⟩)
  | showSize size p =>
    refine (f.package_safe p).bind fun _ _ => ((size.resolve_safe ht hs).retell _).bind fun size hsize => ?_
    exact ((size.evaluate_safe hsize).retell _).bind fun _ _ => .ok (by rintro _ _ ⟨⟩)

lemma effect_safe (ht : t.Closed) (hs : f.scope.Registered t) (ho : f.collector.opened = f.scope.current?) (e : Expr) :
    (f.effect c t e).Safe fun effect => ∀ package d, effect = .declares package d → d.body.Bound t :=
  ((Attempt.Safe.ofError (P := fun _ => True) fun _ _ => trivial).retell _).bind fun statement _ =>
    statementEffect_safe ht hs ho statement

lemma resolution_plain {α : Type} (x : Attempt ResolveError α) :
    (x.retell Diagnostic.resolution).Blames fun d => d.isCircular = false :=
  .retell x fun _ => rfl

lemma check_plain {α : Type} (x : Attempt CheckError α) :
    (x.retell Diagnostic.check).Blames fun d => d.isCircular = false :=
  .retell x fun _ => rfl

lemma statementEffect_plain (f : FileState) (statement : Statement) :
    (f.statementEffect c t statement).Blames fun d => d.isCircular = false := by
  cases statement with
  | packageBegin name p =>
    rw [statementEffect]
    cases f.scope.state with
    | unopened => exact .ok _
    | opened current => exact .error rfl
    | closed previous => exact .error rfl
  | packageEnd p => exact (resolution_plain _).bind fun _ => (Attempt.Blames.ofFault _).bind fun _ => .ok _
  | importPackage package qualifier p =>
    refine (resolution_plain _).bind fun _ => ?_
    split
    · exact .error rfl
    · exact .ok _
  | define d => exact (resolution_plain _).bind fun _ => .ok _
  | showType type p | showSize size p =>
    exact (resolution_plain _).bind fun _ => (resolution_plain _).bind fun _ => (check_plain _).bind fun _ => .ok _

lemma effect_plain (f : FileState) (e : Expr) : (f.effect c t e).Blames fun d => d.isCircular = false := by
  have hparse : ((Attempt.ofError e.toStatement).retell Diagnostic.parse).Blames fun d => d.isCircular = false :=
    .retell _ fun _ => rfl
  exact hparse.bind fun statement => f.statementEffect_plain statement

end

lemma Resolves.exists_declares (h : f.Resolves s e) : ∃ package d, f.effect c s.types e = .ok (.declares package d) := by
  obtain ⟨d, found, hd, hfound⟩ := h
  exact ⟨found.1, found.2, (effect_eq hd).trans (effect_define_ok hfound)⟩

lemma settle_settles (hs : s.Sound c) (hf : f.Sound s) {d : Definition Mention} {package : PackageName}
    {found : Definition Target} (h : d.resolve s.types f.scope = .ok (package, found)) :
    f.Settles c s package (f.settle c s.types ⟨s.nextIdentifier⟩ package found) := by
  rcases define_cases hs hf d with ⟨d', r, scope, hd, hchecked, _, hi, hlaid, hadmitted, hscope⟩ |
    ⟨package', d', error, hd, hchecked⟩ | ⟨error, hd⟩ <;> cases hd.symm.trans h
  · rw [settle_eq_ok hchecked hscope]
    exact .settled rfl hi hlaid hadmitted hscope
  · rw [settle_eq_error hchecked]
    exact .unchecked

lemma effect_takes (hs : s.Sound c) (hf : f.Sound s) : Takes c f e s (f.effect c s.types e) := by
  have ht := hs.grown.closed
  rcases (effect_safe (c := c) ht hf.scope hf.opened e).eq_ok_or_error with ⟨x, hx, _⟩ | ⟨d, hd⟩
  · rw [hx]
    obtain ⟨statement, hstatement, hcomes⟩ := exists_comesTo hx
    cases hcomes with
    | begins unopened => exact .begun unopened
    | ends opened _ => exact .ended opened
    | imports opened free =>
      simp only [Bool.or_eq_false_iff, Option.isSome_eq_false_iff, Option.isNone_iff_eq_none] at free
      exact .asks ⟨hstatement, ⟨_, opened⟩, free.1, free.2⟩
    | @defines d package found resolved =>
      have hopened := ((d.resolve_safe ht hf.scope).of_eq_ok resolved).1
      exact .declares hopened ⟨d, _, hstatement, resolved⟩ (settle_settles hs hf resolved)
    | showsType | showsSize => exact .shown
  · rw [hd]
    refine .refused (f.effect_plain e d hd) fun hresolves => ?_
    obtain ⟨package, found, hok⟩ := hresolves.exists_declares (c := c)
    cases hok.symm.trans hd

lemma feed_ends (hs : s.Sound c) (hf : f.Sound s)
    (hload : ∀ {package qualifier p}, f.Asks e package qualifier p → (load package (some p)).Ends s fun _ _ => True) :
    (f.feed c load e).Ends s (Fed c load f e s) := by
  have hrun : (f.feed c load e).run s = _ := feed_run hs hf
  have htakes : Takes c f e s _ := effect_takes hs hf
  generalize f.effect c s.types e = x at hrun htakes
  cases htakes with
  | refused plain _ => exact .of_run hrun (.rejected plain)
  | begun unopened => exact .of_run hrun (.begun unopened)
  | ended opened => exact .of_run hrun (.ended opened)
  | asks asks => exact asks.ends (hload asks)
  | @declares package d opened _ settles =>
    rw [carry] at hrun
    generalize f.settle c s.types ⟨s.nextIdentifier⟩ package d = y at hrun settles
    cases settles with
    | unchecked => exact .of_run hrun (.refused rfl)
    | settled package_eq identifier_eq laid admitted bound =>
      exact .of_run hrun (.defined (package_eq ▸ opened) identifier_eq laid admitted bound)
  | shown => exact .of_run hrun .shown

end FileState

end RecordSchema
