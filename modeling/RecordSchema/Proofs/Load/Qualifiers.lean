import RecordSchema.Proofs.Collection.Tables
import RecordSchema.Proofs.Load.Circular
import RecordSchema.Proofs.Load.Lockstep

/-! Under which qualifiers a file has imported which packages. -/

namespace RecordSchema

variable {l : Library} {c : Capabilities} {chain : Chain} {load : Importer} {s s' : Store} {f : FileState}
  {scope scope' : Scope} {taken : List Statement} {statement : Statement} {name package : PackageName}
  {qualifier : Segment} {p : Position}

def Statement.binding? : Statement → Option (Segment × PackageName)
  | importPackage package qualifier _ => some (qualifier, package)
  | _ => none

def Importer.GivesNamed (load : Importer) : Prop :=
  ∀ name importer s found s', (load name importer).run s = .ok (.ok found) s' → found.name = name

lemma Product.name_of_deliver {product : Product} {found : Package}
    (h : (product.deliver name).run s = .ok (.ok found) s') : found.name = name := by
  cases (product.delivers name s).elim h with
  | named name_eq => exact name_eq

namespace Library

lemma name_of_comesTo {m : Moment} {found : Package} (h : l.ComesTo c name m (.ok found) s') : found.name = name := by
  obtain ⟨⟨f, product, complete⟩, s₁, _, hrest⟩ := Run.run_bind_eq_ok h
  cases complete with
  | false => exact Product.name_of_deliver hrest
  | true =>
    obtain ⟨_, s₂, _, hdeliver⟩ := Run.run_bind_eq_ok hrest
    exact Product.name_of_deliver hdeliver

lemma load_givesNamed (l : Library) (c : Capabilities) : (l.catalog c).load.GivesNamed := by
  intro name importer s found s' h
  -- The packages being loaded may be any, so they need not have come by imports.
  let chain : Chain := s.loading.map fun package => (package, none)
  have hchain : chain.names = s.loading := by
    simp [chain, Chain.names, Function.comp_def]
  rw [Catalog.load, EStateM.run_bind, EStateM.run_get] at h
  simp only [← hchain] at h
  cases answers_of_loadOn h with
  | kept known => simpa using List.find?_some known
  | entered _ _ comes _ => exact name_of_comesTo comes

end Library

namespace Scope

/-- The scopes that one comes to by statements that are put to a new scope in turn, each over whatever store there is
at that time, and the statements that were taken. Between two of them any declaration may be committed. -/
inductive Attained (load : Importer) : List Statement → Scope → Prop
  | fresh : Attained load [] {}
  | taken {taken : List Statement} {scope scope' : Scope} {statement : Statement} {bound : BoundStatement} {s s' : Store}
      (attained : Attained load taken scope)
      (ran : (scope.resolve load statement).run s = .ok (.ok (scope', bound)) s') :
      Attained load (taken ++ [statement]) scope'
  | refused {taken : List Statement} {scope : Scope} {statement : Statement} {error : ResolveError} {s s' : Store}
      (attained : Attained load taken scope) (ran : (scope.resolve load statement).run s = .ok (.error error) s') :
      Attained load taken scope
  | committed {taken : List Statement} {scope scope' : Scope} {d : Declaration} (attained : Attained load taken scope)
      (commits : scope.commit d = .ok scope') : Attained load taken scope'

structure Tallies (taken : List Statement) (scope : Scope) : Prop where
  pairs : scope.qualifiers.pairs = taken.filterMap Statement.binding?
  names : scope.packages.map Package.name = scope.qualifiers.values

lemma eq_of_commit {d : Declaration} (h : scope.commit d = .ok scope') : ∃ types, scope' = { scope with types } := by
  rw [commit] at h
  cases hdefined : scope.defineType d with
  | error conflict =>
    rw [hdefined] at h
    cases h
  | ok defined =>
    rw [hdefined] at h
    cases h
    obtain ⟨types, _, rfl⟩ := exists_of_defineType hdefined
    exact ⟨types, rfl⟩

lemma eq_of_resolve {bound : BoundStatement} (hstatement : statement.binding? = none)
    (h : (scope.resolve load statement).run s = .ok (.ok (scope', bound)) s') : ∃ state, scope' = { scope with state } := by
  refine (resolve_keeps ?_ h).2 _ rfl
  rintro package qualifier p rfl
  cases hstatement

namespace Tallies

lemma resolve {bound : BoundStatement} (hload : load.GivesNamed) (h : scope.Tallies taken)
    (hran : (scope.resolve load statement).run s = .ok (.ok (scope', bound)) s') :
    scope'.Tallies (taken ++ [statement]) := by
  cases hbinding : statement.binding? with
  | none =>
    obtain ⟨state, rfl⟩ := eq_of_resolve hbinding hran
    refine ⟨?_, h.names⟩
    rw [List.filterMap_append, h.pairs]
    simp [hbinding]
  | some binding =>
    cases statement with
    | importPackage package qualifier p =>
      cases hbinding
      obtain ⟨_, found, _, hfound, hbound, _⟩ := FileState.import_of_resolve (f := { scope }) hran
      obtain rfl : found.name = package := hload _ _ _ _ _ hfound
      obtain ⟨qualifiers, hinsert, rfl⟩ := exists_of_bindImport hbound
      have hpairs := OneToOne.pairs_insert hinsert
      constructor
      · change qualifiers.pairs = _
        rw [hpairs, h.pairs, List.filterMap_append]
        rfl
      · change (scope.packages ++ [found]).map Package.name = qualifiers.values
        rw [OneToOne.values, hpairs, List.map_append, List.map_append, h.names]
        rfl
    | packageBegin | packageEnd | define | showType | showSize => cases hbinding

lemma value?_iff (h : scope.Tallies taken) :
    (∃ found, scope.imported? qualifier = some found ∧ found.name = package) ↔
      scope.qualifiers.value? qualifier = some package := by
  constructor
  · rintro ⟨found, himported, rfl⟩
    obtain ⟨name, hvalue, hfound⟩ := Option.bind_eq_some_iff.mp himported
    obtain rfl : found.name = name := by simpa using List.find?_some hfound
    exact hvalue
  · intro hvalue
    have hmem : package ∈ scope.packages.map Package.name := by
      rw [h.names]
      exact List.mem_map_of_mem (OneToOne.value?_eq_some_iff.mp hvalue)
    obtain ⟨known, hknown, hname⟩ := List.mem_map.mp hmem
    obtain ⟨found, hfound⟩ : ∃ found, scope.packages.find? (·.name = package) = some found :=
      Option.isSome_iff_exists.mp (List.find?_isSome.mpr ⟨known, hknown, decide_eq_true hname⟩)
    refine ⟨found, ?_, by simpa using List.find?_some hfound⟩
    rw [imported?, hvalue, Option.bind_some, hfound]

lemma key?_iff (h : scope.Tallies taken) :
    scope.qualifierOf? package = some qualifier ↔ ∃ p, .importPackage package qualifier p ∈ taken := by
  rw [qualifierOf?, OneToOne.key?_eq_some_iff, h.pairs, List.mem_filterMap]
  constructor
  · rintro ⟨statement, hmem, hbinding⟩
    cases statement with
    | importPackage package qualifier p =>
      cases hbinding
      exact ⟨p, hmem⟩
    | packageBegin | packageEnd | define | showType | showSize => cases hbinding
  · rintro ⟨p, hmem⟩
    exact ⟨_, hmem, rfl⟩

lemma conflict_iff (h : scope.Tallies taken) :
    ((scope.imported? qualifier).isSome || (scope.qualifierOf? package).isSome) = true ↔
      ∃ binding ∈ taken.filterMap Statement.binding?, binding.1 = qualifier ∨ binding.2 = package := by
  have hqualifier : (scope.imported? qualifier).isSome ↔ qualifier ∈ scope.qualifiers.keys := by
    rw [← OneToOne.isSome_value?_iff, Option.isSome_iff_exists, Option.isSome_iff_exists]
    constructor
    · rintro ⟨found, hfound⟩
      exact ⟨found.name, h.value?_iff.mp ⟨found, hfound, rfl⟩⟩
    · rintro ⟨package, hvalue⟩
      obtain ⟨found, hfound, _⟩ := h.value?_iff.mpr hvalue
      exact ⟨found, hfound⟩
  rw [Bool.or_eq_true, hqualifier, qualifierOf?, OneToOne.isSome_key?_iff, OneToOne.keys, OneToOne.values, List.mem_map,
    List.mem_map, ← exists_or, h.pairs]
  simp only [← and_or_left]

lemma bindImport (h : scope.Tallies taken) {found : Package}
    (hfree : ¬ ∃ binding ∈ taken.filterMap Statement.binding?, binding.1 = qualifier ∨ binding.2 = found.name) :
    ∃ scope', scope.bindImport qualifier found = .ok scope' := by
  rw [← h.pairs] at hfree
  apply exists_bindImport_of_fresh
  · intro hmem
    obtain ⟨binding, hbinding, heq⟩ := List.mem_map.mp hmem
    exact hfree ⟨binding, hbinding, .inl heq⟩
  · intro hmem
    obtain ⟨binding, hbinding, heq⟩ := List.mem_map.mp hmem
    exact hfree ⟨binding, hbinding, .inr heq⟩

lemma apart (h : scope.Tallies taken) :
    (taken.filterMap Statement.binding?).Pairwise fun x y => x.1 ≠ y.1 ∧ x.2 ≠ y.2 := by
  have hkeys := scope.qualifiers.keys_nodup
  have hvalues := scope.qualifiers.values_nodup
  rw [h.pairs] at hkeys hvalues
  exact (List.pairwise_map.mp hkeys).and (List.pairwise_map.mp hvalues)

end Tallies

lemma Attained.tallies (hload : load.GivesNamed) (h : Attained load taken scope) : scope.Tallies taken := by
  induction h with
  | fresh => exact ⟨rfl, rfl⟩
  | taken _ ran ih => exact ih.resolve hload ran
  | refused _ _ ih => exact ih
  | committed _ commits ih =>
    obtain ⟨types, rfl⟩ := eq_of_commit commits
    exact ⟨ih.pairs, ih.names⟩

lemma resolve_of_conflict
    (h : ((scope.imported? qualifier).isSome || (scope.qualifierOf? package).isSome) = true) (load : Importer)
    (p : Position) (s : Store) :
    ∃ error, (scope.resolve load (.importPackage package qualifier p)).run s = .ok (.error error) s ∧
      ∀ current, scope.state = .opened current → error = ⟨.importConflict package qualifier, some p⟩ := by
  cases hp : scope.requirePackage p with
  | error error =>
    refine ⟨error, ?_, fun current hcurrent => ?_⟩
    · rw [resolve, importPackage, hp]
      rfl
    · rw [requirePackage, current?, hcurrent] at hp
      cases hp
  | ok current =>
    refine ⟨_, ?_, fun _ _ => rfl⟩
    rw [FileState.resolve_import (f := { scope }) hp, if_pos h]
    rfl

lemma resolve_of_bound {current : PackageName} {found : Package} (hcurrent : scope.state = .opened current)
    (h : ¬ ((scope.imported? qualifier).isSome || (scope.qualifierOf? package).isSome) = true)
    (hload : (load package (some p)).run s = .ok (.ok found) s') (hbound : scope.bindImport qualifier found = .ok scope') :
    (scope.resolve load (.importPackage package qualifier p)).run s = .ok (.ok (scope', .imported package p)) s' := by
  have hp : scope.requirePackage p = .ok current := by
    rw [requirePackage, current?, hcurrent]
  rw [FileState.resolve_import (f := { scope }) hp, if_neg h, EStateM.run_bind, hload]
  simp only [hbound]
  rfl

/-- What the imports of a scope come to when these statements have been taken. No two of them have the qualifier or the
package in common, and exactly they are bound; what is found behind a qualifier is the package that goes by it. If
another import shares one of the two with them, it is turned down and leaves the store as it was; if it shares neither,
it is bound as soon as its package has been loaded. -/
structure Paired (load : Importer) (taken : List Statement) (scope : Scope) : Prop where
  apart : (taken.filterMap Statement.binding?).Pairwise fun x y => x.1 ≠ y.1 ∧ x.2 ≠ y.2
  bound_iff : ∀ package qualifier, scope.qualifierOf? package = some qualifier ↔
    ∃ p, .importPackage package qualifier p ∈ taken
  found_iff : ∀ package qualifier, (∃ found, scope.imported? qualifier = some found ∧ found.name = package) ↔
    scope.qualifierOf? package = some qualifier
  repeated : ∀ package qualifier,
    (∃ binding ∈ taken.filterMap Statement.binding?, binding.1 = qualifier ∨ binding.2 = package) →
      ∀ (load' : Importer) p s, ∃ error,
        (scope.resolve load' (.importPackage package qualifier p)).run s = .ok (.error error) s ∧
        ∀ current, scope.state = .opened current → error = ⟨.importConflict package qualifier, some p⟩
  bindable : ∀ current package qualifier p s found s', scope.state = .opened current →
    (¬ ∃ binding ∈ taken.filterMap Statement.binding?, binding.1 = qualifier ∨ binding.2 = package) →
      (load package (some p)).run s = .ok (.ok found) s' → ∃ scope', scope.bindImport qualifier found = .ok scope' ∧
        (scope.resolve load (.importPackage package qualifier p)).run s = .ok (.ok (scope', .imported package p)) s'

lemma Attained.paired (hload : load.GivesNamed) (h : Attained load taken scope) : scope.Paired load taken := by
  have htallies := h.tallies hload
  refine ⟨htallies.apart, fun _ _ => htallies.key?_iff, fun _ _ => ?_, fun _ _ hshares => ?_, ?_⟩
  · exact htallies.value?_iff.trans OneToOne.value?_iff_key?
  · exact resolve_of_conflict (htallies.conflict_iff.mpr hshares)
  · intro current package qualifier p s found s' hcurrent hfree hran
    obtain rfl : found.name = package := hload _ _ _ _ _ hran
    obtain ⟨scope', hbound⟩ := htallies.bindImport hfree
    refine ⟨scope', hbound, ?_⟩
    exact resolve_of_bound hcurrent (fun hconflict => hfree (htallies.conflict_iff.mp hconflict)) hran hbound

end Scope

namespace FileState

lemma scope_of_perform {bound : BoundStatement} {r : FileState × Outcome} (h : (f.perform c bound).run s = .ok r s') :
    r.1.scope = f.scope ∨ ∃ d, f.scope.commit d = .ok r.1.scope := by
  cases bound with
  | packageBegin | imported =>
    cases h
    exact .inl rfl
  | packageEnd name p =>
    rw [perform] at h
    obtain ⟨_, _, _, h⟩ := Run.run_bind_eq_ok h
    cases h
    exact .inl rfl
  | define i package d =>
    obtain ⟨collected, s₁, _, h⟩ := Run.run_bind_eq_ok h
    cases collected with
    | error error =>
      cases h
      exact .inl rfl
    | ok found =>
      dsimp only at h
      cases hcommit : f.scope.commit found.2 with
      | error error =>
        rw [hcommit] at h
        cases h
        exact .inl rfl
      | ok scope =>
        rw [hcommit] at h
        cases h
        exact .inr ⟨_, hcommit⟩
  | showType | showSize =>
    obtain ⟨_, _, _, h⟩ := Run.run_bind_eq_ok h
    obtain ⟨checked, _, _, h⟩ := Run.run_bind_eq_ok h
    cases checked <;> cases h <;> exact .inl rfl

end FileState

namespace Library

lemma Course.attained {log : List Accepted} (h : l.Course c chain log f s) :
    ∃ taken, Scope.Attained (l.catalog c).load taken f.scope := by
  induction h with
  | opened => exact ⟨[], .fresh⟩
  | accepted _ _ accepts ran ih =>
    obtain ⟨taken, hattained⟩ := ih
    obtain ⟨statement, scope, bound, _, hstatement, hresolve, _⟩ := accepts
    have hafter := hattained.taken hresolve
    rw [FileState.feed_of_resolve hstatement hresolve] at ran
    rcases FileState.scope_of_perform ran with heq | ⟨d, hcommit⟩
    · rw [heq]
      exact ⟨_, hafter⟩
    · exact ⟨_, hafter.committed hcommit⟩
  | rejected course rejects ran _ ih =>
    rw [Course.eq_of_rejects course.ready ran rejects]
    exact ih
  | meanwhile _ _ _ ih => exact ih
  | emptied _ ih => exact ih

/-- A one-to-one map to which pairs are offered in turn answers like two tables that are written apart, and its two
directions agree. So do those of the imports of every scope that statements lead to, and every file has such a scope,
taken through by hand or by a load, however deep. -/
theorem imports_one_to_one :
    (∀ (κ ν : Type) [DecidableEq κ] [DecidableEq ν] (pairs : List (κ × ν)),
      (exchange OneToOne.offer (.empty : OneToOne κ ν) pairs).1 = (exchange OneToOne.Tables.offer {} pairs).1 ∧
      (exchange OneToOne.offer (.empty : OneToOne κ ν) pairs).2.tables = (exchange OneToOne.Tables.offer {} pairs).2 ∧
      (exchange OneToOne.offer (.empty : OneToOne κ ν) pairs).2.InSync) ∧
    ∀ (l : Library) (c : Capabilities),
      (∀ taken scope, Scope.Attained (l.catalog c).load taken scope → scope.Paired (l.catalog c).load taken) ∧
      ∀ chain f s, l.Met c chain f s → ∃ taken, Scope.Attained (l.catalog c).load taken f.scope := by
  constructor
  · intro κ ν _ _ pairs
    obtain ⟨hanswers, htables⟩ := OneToOne.exchange_tables pairs
    exact ⟨hanswers, htables, OneToOne.inSync _⟩
  · intro l c
    refine ⟨fun taken scope hattained => hattained.paired (l.load_givesNamed c), fun chain f s hmet => ?_⟩
    obtain ⟨log, hcourse⟩ := hmet.exists_course
    exact hcourse.attained

def twoEmptyPackages : Library :=
  .texts [(firstOfTwo, "(package-begin a) (package-end)"), (secondOfTwo, "(package-begin b) (package-end)")]

def crossedImports : List Expr :=
  (Expr.read ⟨0⟩ "(package-begin m) (import a as q) (import b as q) (import a as r) (import b as r)").exprs

lemma crossed_imports_one_to_one : ∃ chain f s taken, twoEmptyPackages.Met {} chain f s ∧
    Scope.Attained (twoEmptyPackages.catalog {}).load taken f.scope ∧
    (taken.filterMap Statement.binding?).map (fun b => (b.1.text, b.2.render)) = [("q", "a"), ("r", "b")] ∧
    s.diagnostics.length = 2 ∧ f.scope.Paired (twoEmptyPackages.catalog {}).load taken := by
  have hends : (twoEmptyPackages.feedEach {} {} {} crossedImports).map (fun reached =>
      (reached.1.scope.qualifiers.pairs.map fun b => (b.1.text, b.2.render), reached.2.diagnostics.length)) =
        some ([("q", "a"), ("r", "b")], 2) := by
    decide +kernel
  obtain ⟨⟨f, s⟩, hfeeds, hends⟩ := Option.map_eq_some_iff.mp hends
  obtain ⟨hpairs, hlength⟩ := Prod.mk.inj hends
  have hdesk : twoEmptyPackages.Desk {} [f] s := (Desk.opened .empty).feedEach hfeeds
  have hmet : twoEmptyPackages.Met {} [] f s := .byHand hdesk List.mem_cons_self
  obtain ⟨hpaired, hattained⟩ := imports_one_to_one.2 twoEmptyPackages {}
  obtain ⟨taken, htaken⟩ := hattained [] f s hmet
  refine ⟨[], f, s, taken, hmet, htaken, ?_, hlength, hpaired taken f.scope htaken⟩
  rw [← (htaken.tallies (load_givesNamed _ _)).pairs]
  exact hpairs

end Library

end RecordSchema
