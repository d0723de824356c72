import RecordSchema.Proofs.Load.Sound
import RecordSchema.Proofs.Resolution.Blame

namespace RecordSchema

def Store.reporting (s : Store) (d : Diagnostic) : Store :=
  { s with diagnostics := s.diagnostics ++ [d] }

def Store.numbering (s : Store) : Store :=
  { s with nextIdentifier := s.nextIdentifier + 1 }

def Store.declaring (s : Store) (d : Declaration) : Store :=
  { s.numbering with types := ⟨s.types.declarations ++ [d]⟩ }

namespace Run

@[simp] lemma run_report (d : Diagnostic) (s : Store) : (report d).run s = .ok () (s.reporting d) := rfl

@[simp] lemma run_freshIdentifier (s : Store) :
    freshIdentifier.run s = .ok ⟨s.nextIdentifier⟩ s.numbering := rfl

lemma run_putType {s : Store} {d : Declaration} {t : TypeTable} (h : s.types.put d = .ok t) :
    (putType d).run s = .ok () { s with types := t } := by
  have hget : (putType d).run s = (ofExcept (s.types.put d) >>= fun t => modify fun s => { s with types := t }).run s :=
    rfl
  rw [hget, h]
  rfl

end Run

inductive Effect where
  | taken (file : FileState) (out : Outcome)
  | declares (package : PackageName) (definition : Definition Target)
  | asks (package : PackageName) (qualifier : Segment) (position : Position)

namespace Attempt

variable {ε ε' α : Type}

def retell (g : ε → ε') : Attempt ε α → Attempt ε' α :=
  Except.mapError fun
    | .error e => .error (g e)
    | .fault fault => .fault fault

@[simp] lemma retell_ok (g : ε → ε') (a : α) : retell g (.ok a : Attempt ε α) = .ok a := rfl

@[simp] lemma retell_error (g : ε → ε') (e : ε) :
    retell g (.error (.error e) : Attempt ε α) = .error (.error (g e)) := rfl

@[simp] lemma retell_fault (g : ε → ε') (fault : Fault) :
    retell g (.error (.fault fault) : Attempt ε α) = .error (.fault fault) := rfl

lemma eq_ok_of_retell {x : Attempt ε α} {g : ε → ε'} {a : α} (h : x.retell g = .ok a) : x = .ok a := by
  rcases x with (e | fault) | a' <;> cases h
  rfl

lemma Safe.retell {P : α → Prop} {x : Attempt ε α} (h : Safe P x) (g : ε → ε') : Safe P (x.retell g) := by
  cases h with
  | ok h => exact .ok h
  | error e => exact .error (g e)

lemma Blames.retell {R : ε' → Prop} (x : Attempt ε α) {g : ε → ε'} (h : ∀ e, R (g e)) : Blames R (x.retell g) := by
  rcases x with (e | fault) | a <;> rintro _ ⟨⟩
  exact h e

end Attempt

namespace FileState

variable (c : Capabilities) (t : TypeTable)

def package (f : FileState) (p : Position) : Attempt Diagnostic PackageName :=
  (Attempt.ofError (f.scope.requirePackage p)).retell .resolution

def statementEffect (f : FileState) : Statement → Attempt Diagnostic Effect
  | .packageBegin name p =>
    match f.scope.state with
    | .unopened => .ok (.taken ⟨{ f.scope with state := .opened name }, .begin name, f.results⟩ .nothing)
    | .opened current => .error (.error (.resolution ⟨.packageNested current, some p⟩))
    | .closed previous => .error (.error (.resolution ⟨.packageDuplicate previous, some p⟩))
  | .packageEnd p => do
    let name ← f.package p
    let package ← Attempt.ofFault (f.collector.finish name).2
    .ok (.taken ⟨{ f.scope with state := .closed name }, (f.collector.finish name).1, f.results⟩ (.finished package))
  | .importPackage package qualifier p => do
    let _ ← f.package p
    if (f.scope.imported? qualifier).isSome || (f.scope.qualifierOf? package).isSome then
      .error (.error (.resolution ⟨.importConflict package qualifier, some p⟩))
    else .ok (.asks package qualifier p)
  | .define d => do
    let (package, d) ← (d.resolve t f.scope).retell .resolution
    .ok (.declares package d)
  | .showType type p => do
    let _ ← f.package p
    let type ← (type.resolve t f.scope).retell .resolution
    let type ← (type.check c t .record).retell .check
    .ok (.taken { f with results := f.results ++ [.type type] } .nothing)
  | .showSize size p => do
    let _ ← f.package p
    let size ← (size.resolve t f.scope).retell .resolution
    let size ← (size.evaluate c t).retell .check
    .ok (.taken { f with results := f.results ++ [.size size] } .nothing)

def effect (f : FileState) (e : Expr) : Attempt Diagnostic Effect :=
  (Attempt.ofError e.toStatement).retell .parse >>= f.statementEffect c t

def settle (f : FileState) (i : Identifier) (package : PackageName) (d : Definition Target) :
    Attempt Diagnostic (FileState × Declaration) := do
  let r ← (Check.declaration c t i package d).retell .check
  let scope ← (Attempt.ofError (f.scope.commit r)).retell .resolution
  .ok (⟨scope, f.collector.add r, f.results⟩, r)

def bring (load : Importer) (f : FileState) (package : PackageName) (qualifier : Segment) (p : Position) :
    Run (FileState × Outcome) := do
  match ← load package (some p) with
  | .error _ =>
    Run.report (.resolution ⟨.packageLoadFailed package, some p⟩)
    return (f, .abort)
  | .ok found =>
    match f.scope.bindImport qualifier found with
    | .error _ =>
      Run.report (.resolution ⟨.importConflict package qualifier, some p⟩)
      return (f, .nothing)
    | .ok scope => return ({ f with scope }, .nothing)

def carry (load : Importer) (f : FileState) (s : Store) :
    Attempt Diagnostic Effect → EStateM.Result Fault Store (FileState × Outcome)
  | .ok (.taken f' out) => .ok (f', out) s
  | .ok (.declares package d) =>
    match f.settle c s.types ⟨s.nextIdentifier⟩ package d with
    | .ok (f', r) => .ok (f', .nothing) (s.declaring r)
    | .error (.error d) => .ok (f, .nothing) (s.numbering.reporting d)
    | .error (.fault fault) => .error fault s
  | .ok (.asks package qualifier p) => (f.bring load package qualifier p).run s
  | .error (.error d) => .ok (f, .nothing) (s.reporting d)
  | .error (.fault fault) => .error fault s

variable {c} {load : Importer} {f : FileState} {e : Expr} {s s' : Store}

lemma feed_of_resolve {statement : Statement} {scope : Scope} {bound : BoundStatement}
    (h : e.toStatement = .ok statement) (hr : (f.scope.resolve load statement).run s = .ok (.ok (scope, bound)) s') :
    (f.feed c load e).run s = (perform c { f with scope } bound).run s' := by
  rw [feed, h]
  simp only [EStateM.run_bind, hr]

lemma feed_of_reject {statement : Statement} {error : ResolveError} (h : e.toStatement = .ok statement)
    (hr : (f.scope.resolve load statement).run s = .ok (.error error) s') (hplain : error.Plain) :
    (f.feed c load e).run s = .ok (f, .nothing) (s'.reporting (.resolution error)) := by
  rw [feed, h]
  simp only [EStateM.run_bind, hr, Run.run_report]
  split
  · next package hp => exact absurd hp (hplain package)
  · rfl

lemma effect_eq {statement : Statement} (h : e.toStatement = .ok statement) {t : TypeTable} :
    f.effect c t e = f.statementEffect c t statement := by
  rw [effect, h]
  rfl

lemma feed_of_packageless {statement : Statement} {p : Position} {error : ResolveError}
    (h : e.toStatement = .ok statement) (hp : f.scope.requirePackage p = .error error)
    (hr : f.scope.resolve load statement = pure (.error error)) :
    (f.feed c load e).run s = .ok (f, .nothing) (s.reporting (.resolution error)) := by
  have hrun : (f.scope.resolve load statement).run s = .ok (.error error) s := by
    rw [hr]
    rfl
  exact feed_of_reject h hrun (Scope.requirePackage_plain hp)

lemma packageBegin_run {name : PackageName} {p : Position} (h : e.toStatement = .ok (.packageBegin name p)) :
    (f.feed c load e).run s = f.carry c load s (f.statementEffect c s.types (.packageBegin name p)) := by
  rw [feed, h, statementEffect]
  cases hstate : f.scope.state <;> simp only [Scope.resolve, hstate] <;> rfl

lemma packageEnd_run {p : Position} (h : e.toStatement = .ok (.packageEnd p)) :
    (f.feed c load e).run s = f.carry c load s (f.statementEffect c s.types (.packageEnd p)) := by
  rw [statementEffect, package]
  cases hp : f.scope.requirePackage p with
  | error error => exact feed_of_packageless h hp (by rw [Scope.resolve, hp])
  | ok name =>
    have hr : (f.scope.resolve load (.packageEnd p)).run s =
        .ok (.ok ({ f.scope with state := .closed name }, .packageEnd name p)) s := by
      rw [Scope.resolve, hp]
      rfl
    rw [feed_of_resolve h hr, perform]
    change _ = f.carry c load s (Attempt.ofFault (f.collector.finish name).2 >>= fun package => .ok (.taken
      ⟨{ f.scope with state := .closed name }, (f.collector.finish name).1, f.results⟩ (.finished package)))
    dsimp only
    generalize f.collector.finish name = finished
    obtain ⟨collector, package⟩ := finished
    cases package <;> rfl

lemma resolve_import {package : PackageName} {qualifier : Segment} {p : Position} {current : PackageName}
    (h : f.scope.requirePackage p = .ok current) : f.scope.resolve load (.importPackage package qualifier p) =
      if (f.scope.imported? qualifier).isSome || (f.scope.qualifierOf? package).isSome then
        pure (.error ⟨.importConflict package qualifier, some p⟩)
      else load package (some p) >>= fun
        | .error _ => pure (.error ⟨.packageLoadFailed package, some p⟩)
        | .ok found =>
          match f.scope.bindImport qualifier found with
          | .error _ => pure (.error ⟨.importConflict package qualifier, some p⟩)
          | .ok scope => pure (.ok (scope, .imported package p)) := by
  rewrite [Scope.resolve, Scope.importPackage, h]
  rfl

lemma importPackage_run {package : PackageName} {qualifier : Segment} {p : Position}
    (h : e.toStatement = .ok (.importPackage package qualifier p)) : (f.feed c load e).run s =
      f.carry c load s (f.statementEffect c s.types (.importPackage package qualifier p)) := by
  rw [statementEffect, FileState.package]
  cases hp : f.scope.requirePackage p with
  | error error => exact feed_of_packageless h hp (by rw [Scope.resolve, Scope.importPackage, hp])
  | ok current =>
    rw [feed, h]
    simp only [resolve_import hp]
    by_cases hconflict : ((f.scope.imported? qualifier).isSome || (f.scope.qualifierOf? package).isSome) = true
    · rw [if_pos hconflict, if_pos hconflict]
      rfl
    · rw [if_neg hconflict, if_neg hconflict]
      change _ = (f.bring load package qualifier p).run s
      rw [bring, EStateM.run_bind, EStateM.run_bind, EStateM.run_bind]
      cases (load package (some p)).run s with
      | error fault s' => rfl
      | ok r s' =>
        cases r with
        | error error => rfl
        | ok found =>
          dsimp only
          cases f.scope.bindImport qualifier found <;> rfl

lemma shown_run {α β : Type} {statement : Statement} {p : Position} {x : TypeTable → Attempt ResolveError α}
    {y : TypeTable → α → Attempt CheckError β} (bound : α → BoundStatement) (result : β → CommandResult)
    (h : e.toStatement = .ok statement) (hplain : (x s.types).Blames ResolveError.Plain)
    (hresolve : f.scope.resolve load statement = match f.scope.requirePackage p with
      | .error e => pure (.error e)
      | .ok _ => get >>= fun t => Run.attempt (x t.types) >>= fun
        | .error e => pure (.error e)
        | .ok a => pure (.ok (f.scope, bound a)))
    (hperform : ∀ a, f.perform c (bound a) = get >>= fun t => Run.attempt (y t.types a) >>= fun
      | .error e => Run.report (.check e) >>= fun _ => pure (f, .nothing)
      | .ok b => pure ({ f with results := f.results ++ [result b] }, .nothing)) :
    (f.feed c load e).run s = f.carry c load s (f.package p >>= fun _ =>
      (x s.types).retell .resolution >>= fun a =>
        (y s.types a).retell .check >>= fun b =>
          .ok (.taken { f with results := f.results ++ [result b] } .nothing)) := by
  rw [FileState.package]
  cases hp : f.scope.requirePackage p with
  | error error => exact feed_of_packageless h hp (by rw [hresolve, hp])
  | ok current =>
    rw [hp] at hresolve
    have hr : (f.scope.resolve load statement).run s = (Run.attempt (x s.types) >>= fun
        | .error e => pure (.error e)
        | .ok a => pure (.ok (f.scope, bound a))).run s := by
      rw [hresolve]
      rfl
    cases hx : x s.types with
    | error failure =>
      cases failure with
      | error error =>
        have hrejected : (f.scope.resolve load statement).run s = .ok (.error error) s := by
          rw [hr, hx]
          rfl
        exact feed_of_reject h hrejected (hplain error hx)
      | fault fault =>
        rw [feed, h]
        simp only [EStateM.run_bind, hr, hx]
        rfl
    | ok a =>
      have hfound : (f.scope.resolve load statement).run s = .ok (.ok (f.scope, bound a)) s := by
        rw [hr, hx]
        rfl
      rw [feed_of_resolve h hfound, hperform, EStateM.run_bind, EStateM.run_get]
      change (Run.attempt (y s.types a) >>= _).run s = f.carry c load s (((y s.types a).retell _) >>= _)
      cases hy : y s.types a with
      | error failure => cases failure <;> rfl
      | ok b => rfl

lemma defineType_eq_ok (hs : s.Sound c) (hf : f.scope.Registered s.types) {d : Declaration}
    (hname : f.scope.type? d.name = none) (hi : d.identifier = ⟨s.nextIdentifier⟩) :
    ∃ scope, f.scope.defineType d = .ok scope := by
  have hvalue : d.identifier ∉ f.scope.types.values := by
    intro hmem
    obtain ⟨entry, he, hvalue⟩ := List.mem_map.mp hmem
    obtain ⟨e, hmem, hid, _⟩ := hf.types entry he
    have hlt := hs.below e hmem
    rw [hid, hvalue, hi] at hlt
    exact Nat.lt_irrefl _ hlt
  obtain ⟨types, htypes, _⟩ := OneToOne.exists_insert_of_fresh (OneToOne.value?_eq_none_iff.mp hname) hvalue
  refine ⟨{ f.scope with types }, ?_⟩
  rw [Scope.defineType, htypes]
  rfl

lemma resolve_define_ok {d : Definition Mention} {package : PackageName} {d' : Definition Target}
    (hd : d.resolve s.types f.scope = .ok (package, d')) :
    (f.scope.resolve load (.define d)).run s =
      .ok (.ok (f.scope, .define ⟨s.nextIdentifier⟩ package d')) s.numbering := by
  rw [Scope.resolve]
  simp only [EStateM.run_bind, EStateM.run_get]
  rw [hd]
  rfl

lemma resolve_define_error {d : Definition Mention} {error : ResolveError}
    (hd : d.resolve s.types f.scope = .error (.error error)) :
    (f.scope.resolve load (.define d)).run s = .ok (.error error) s := by
  rw [Scope.resolve]
  simp only [EStateM.run_bind, EStateM.run_get]
  rw [hd]
  rfl

lemma collect_ok {i : Identifier} {package : PackageName} {d : Definition Target} {r : Declaration}
    (hchecked : Check.declaration c s.types i package d = .ok r)
    (habove : ∀ e ∈ s.types.declarations, e.identifier.value < r.identifier.value) :
    (f.collector.define c i package d).run s =
      .ok (.ok (f.collector.add r, r)) { s with types := ⟨s.types.declarations ++ [r]⟩ } := by
  rw [Collector.define]
  simp only [EStateM.run_bind, EStateM.run_get, hchecked, Run.run_attempt_ok,
    Run.run_putType (TypeTable.put_eq_ok habove)]
  rfl

lemma collect_error {i : Identifier} {package : PackageName} {d : Definition Target} {error : CheckError}
    (hchecked : Check.declaration c s.types i package d = .error (.error error)) :
    (f.collector.define c i package d).run s = .ok (.error error) s := by
  rw [Collector.define]
  simp only [EStateM.run_bind, EStateM.run_get, hchecked, Run.run_attempt_error]
  rfl

lemma perform_define_ok {i : Identifier} {package : PackageName} {d : Definition Target} {r : Declaration}
    {k : Collector} {scope : Scope} (hk : (f.collector.define c i package d).run s = .ok (.ok (k, r)) s')
    (hscope : f.scope.defineType r = .ok scope) :
    (f.perform c (.define i package d)).run s = .ok (⟨scope, k, f.results⟩, .nothing) s' := by
  have hcommit : f.scope.commit r = .ok scope := by
    rw [Scope.commit, hscope]
    rfl
  rw [perform]
  simp only [EStateM.run_bind, hk, hcommit]
  rfl

lemma feed_define_ok {d : Definition Mention} {package : PackageName} {d' : Definition Target} {r : Declaration}
    {scope : Scope} (h : e.toStatement = .ok (.define d)) (hd : d.resolve s.types f.scope = .ok (package, d'))
    (hchecked : Check.declaration c s.types ⟨s.nextIdentifier⟩ package d' = .ok r)
    (habove : ∀ e ∈ s.types.declarations, e.identifier.value < r.identifier.value)
    (hscope : f.scope.defineType r = .ok scope) : (f.feed c load e).run s =
      .ok (⟨scope, f.collector.add r, f.results⟩, .nothing) { s.numbering with types := ⟨s.types.declarations ++ [r]⟩ } := by
  have hcollect : (f.collector.define c ⟨s.nextIdentifier⟩ package d').run s.numbering =
      .ok (.ok (f.collector.add r, r)) { s.numbering with types := ⟨s.types.declarations ++ [r]⟩ } :=
    collect_ok hchecked habove
  exact (feed_of_resolve h (resolve_define_ok hd)).trans (perform_define_ok hcollect hscope)

lemma perform_define_error {i : Identifier} {package : PackageName} {d : Definition Target} {error : CheckError}
    (hk : (f.collector.define c i package d).run s = .ok (.error error) s') :
    (f.perform c (.define i package d)).run s = .ok (f, .nothing) (s'.reporting (.check error)) := by
  rw [perform]
  simp only [EStateM.run_bind, hk, Run.run_report]
  rfl

lemma define_cases (hs : s.Sound c) (hf : f.Sound s) (d : Definition Mention) :
    (∃ d' r scope, d.resolve s.types f.scope = .ok (r.package, d') ∧
      Check.declaration c s.types ⟨s.nextIdentifier⟩ r.package d' = .ok r ∧ f.scope.state = .opened r.package ∧
      r.identifier = ⟨s.nextIdentifier⟩ ∧ r.layout.Laid c.packedTotals ∧
      (∀ m ∈ r.memberTypes, Admitted c s.types m.1 m.2) ∧ f.scope.defineType r = .ok scope) ∨
    (∃ package d' error, d.resolve s.types f.scope = .ok (package, d') ∧
      Check.declaration c s.types ⟨s.nextIdentifier⟩ package d' = .error (.error error)) ∨
    ∃ error, d.resolve s.types f.scope = .error (.error error) := by
  rcases (d.resolve_safe hs.grown.closed hf.scope).eq_ok_or_error with
    ⟨⟨package, d'⟩, hd, hstate, hbound, hname⟩ | ⟨error, hd⟩
  · rcases (Check.declaration_safe (c := c) hs.grown.positive ⟨s.nextIdentifier⟩ package d' hbound).eq_ok_or_error with
      ⟨r, hchecked, hi, rfl, hrname, hlaid, hadmitted⟩ | ⟨error, hchecked⟩
    · obtain ⟨scope, hscope⟩ := defineType_eq_ok hs hf.scope (hrname ▸ hname) hi
      exact .inl ⟨d', r, scope, hd, hchecked, hstate, hi, hlaid, hadmitted, hscope⟩
    · exact .inr (.inl ⟨package, d', error, hd, hchecked⟩)
  · exact .inr (.inr ⟨error, hd⟩)

lemma effect_define_ok {t : TypeTable} {d : Definition Mention} {package : PackageName} {d' : Definition Target}
    (hd : d.resolve t f.scope = .ok (package, d')) :
    f.statementEffect c t (.define d) = .ok (.declares package d') := by
  simp only [statementEffect, hd, Attempt.retell_ok, bind, Except.bind]

lemma effect_define_error {t : TypeTable} {d : Definition Mention} {error : ResolveError}
    (hd : d.resolve t f.scope = .error (.error error)) :
    f.statementEffect c t (.define d) = .error (.error (.resolution error)) := by
  simp only [statementEffect, hd, bind, Except.bind, Attempt.retell_error]

lemma settle_eq_ok {t : TypeTable} {i : Identifier} {package : PackageName} {d : Definition Target} {r : Declaration}
    {scope : Scope} (hchecked : Check.declaration c t i package d = .ok r) (hscope : f.scope.defineType r = .ok scope) :
    f.settle c t i package d = .ok (⟨scope, f.collector.add r, f.results⟩, r) := by
  simp only [settle, hchecked, Attempt.retell_ok, bind, Except.bind, Scope.commit, hscope]
  rfl

lemma settle_eq_error {t : TypeTable} {i : Identifier} {package : PackageName} {d : Definition Target}
    {error : CheckError} (hchecked : Check.declaration c t i package d = .error (.error error)) :
    f.settle c t i package d = .error (.error (.check error)) := by
  simp only [settle, hchecked, bind, Except.bind, Attempt.retell_error]

lemma define_run (hs : s.Sound c) (hf : f.Sound s) {d : Definition Mention} (h : e.toStatement = .ok (.define d)) :
    (f.feed c load e).run s = f.carry c load s (f.statementEffect c s.types (.define d)) := by
  rcases define_cases hs hf d with ⟨d', r, scope, hd, hchecked, _, hi, _, _, hscope⟩ |
    ⟨package, d', error, hd, hchecked⟩ | ⟨error, hd⟩
  · have habove : ∀ e ∈ s.types.declarations, e.identifier.value < r.identifier.value := by
      rw [hi]
      exact hs.below
    rw [feed_define_ok h hd hchecked habove hscope, effect_define_ok hd, carry, settle_eq_ok hchecked hscope]
    rfl
  · -- The identifier is used up all the same.
    have hcollect : (f.collector.define c ⟨s.nextIdentifier⟩ package d').run s.numbering = .ok (.error error) _ :=
      collect_error hchecked
    rw [feed_of_resolve h (resolve_define_ok hd), perform_define_error hcollect, effect_define_ok hd, carry,
      settle_eq_error hchecked]
  · rw [feed_of_reject h (resolve_define_error hd) (d.resolve_blames s.types f.scope error hd),
      effect_define_error hd]
    rfl

lemma feed_run (hs : s.Sound c) (hf : f.Sound s) :
    (f.feed c load e).run s = f.carry c load s (f.effect c s.types e) := by
  cases h : e.toStatement with
  | error error =>
    rw [feed, effect, h]
    rfl
  | ok statement =>
    rw [effect_eq h]
    cases statement with
    | packageBegin name p => exact packageBegin_run h
    | packageEnd p => exact packageEnd_run h
    | importPackage package qualifier p => exact importPackage_run h
    | define d => exact define_run hs hf h
    | showType type p =>
      refine shown_run (p := p) (x := fun t => type.resolve t f.scope) (y := fun t type => type.check c t .record)
        (.showType · p) .type h (type.resolve_blames _ _) ?_ fun type => ?_
      · rewrite [Scope.resolve]
        cases f.scope.requirePackage p with
        | error _ => rfl
        | ok _ => exact bind_congr fun _ => bind_congr fun x => by cases x <;> rfl
      · rewrite [perform]
        exact bind_congr fun _ => bind_congr fun x => by cases x <;> rfl
    | showSize size p =>
      refine shown_run (p := p) (x := fun t => size.resolve t f.scope) (y := fun t size => size.evaluate c t)
        (.showSize · p) .size h (size.resolve_blames _ _) ?_ fun size => ?_
      · rewrite [Scope.resolve]
        cases f.scope.requirePackage p with
        | error _ => rfl
        | ok _ => exact bind_congr fun _ => bind_congr fun x => by cases x <;> rfl
      · rewrite [perform]
        exact bind_congr fun _ => bind_congr fun x => by cases x <;> rfl

end FileState

end RecordSchema
