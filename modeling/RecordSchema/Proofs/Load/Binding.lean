import RecordSchema.Proofs.Load.Lockstep
import RecordSchema.Proofs.Load.Stock
import RecordSchema.Proofs.Resolution.Faithful

/-! What the names in a file mean is told by the statements that it has accepted. -/

namespace RecordSchema

variable {c : Capabilities} {l : Library} {chain : Chain} {load : Importer} {f : FileState} {s s' : Store}
  {statement : Statement} {r : FileState × Outcome} {log : List Accepted}

def Accepted.binding (a : Accepted) : Option (Segment × PackageName) :=
  match a.statement with
  | .importPackage package qualifier _ => some (qualifier, package)
  | _ => none

namespace FileState

/-- What a mention means in a file that has accepted `log`, and the package that it is found in. A plain name means a
declaration of the file, as long as its package is open; a qualified one means a declaration of an imported package. -/
inductive Means (log : List Accepted) (f : FileState) (s : Store) : Mention → PackageName → Declaration → Prop
  | plain {a : Accepted} {package : PackageName} {d : Declaration} (opened : f.scope.state = .opened package)
      (accepted : a ∈ log) (declared : a.declared = some d) : Means log f s ⟨none, d.name⟩ package d
  | qualified {a : Accepted} {package : PackageName} {qualifier : Segment} {p : Position} {found : Package}
      {name : TypeName} {d : Declaration} (accepted : a ∈ log)
      (imported : a.statement = .importPackage package qualifier p) (known : s.package? package = some found)
      (declared : found.find? name = some d) : Means log f s ⟨some qualifier, name⟩ package d

structure Imports (log : List Accepted) (f : FileState) (s : Store) : Prop where
  qualifiers : f.scope.qualifiers.pairs = log.filterMap Accepted.binding
  packages : f.scope.packages ⊆ s.packages

namespace Imports

lemma mono (h : f.Imports log s) (hs : s.Grows s') : f.Imports log s' :=
  ⟨h.qualifiers, List.Subset.trans h.packages hs.packages⟩

lemma unbound {f' : FileState} {a : Accepted} (h : f.Imports log s) (ha : a.binding = none)
    (hqualifiers : f'.scope.qualifiers = f.scope.qualifiers) (hpackages : f'.scope.packages = f.scope.packages)
    (hs : s'.packages = s.packages) : f'.Imports (log ++ [a]) s' where
  qualifiers := by
    rw [hqualifiers, h.qualifiers, List.filterMap_append]
    simp [ha]
  packages := by
    rw [hpackages, hs]
    exact h.packages

lemma enact (h : f.Imports log s) (hr : f.Enacted load s statement r s') (hl : load.Loads c chain) (hs : s.Sound c)
    (ht : s.OnTrail chain) : r.1.Imports (log ++ [⟨statement, statement.entered s s'⟩]) s' := by
  cases hr with
  | begun | ended => exact h.unbound rfl rfl rfl rfl
  | defined _ _ _ bound =>
    obtain ⟨types, _, rfl⟩ := Scope.exists_of_defineType bound
    exact h.unbound rfl rfl rfl rfl
  | shown _ command =>
    have hbinding : Accepted.binding ⟨statement, statement.entered s s⟩ = none := by
      cases statement with
      | showType | showSize => rfl
      | packageBegin | packageEnd | importPackage | define => cases command
    exact h.unbound hbinding rfl rfl rfl
  | @imported _ package qualifier p found scope s' _ ran bound =>
    obtain ⟨qualifiers, hinsert, rfl⟩ := Scope.exists_of_bindImport bound
    have hloaded := (hl _ _ s hs ht).elim ran
    obtain ⟨hfound, rfl, _⟩ := hloaded.found found rfl
    constructor
    · change qualifiers.pairs = _
      rw [OneToOne.pairs_insert hinsert, h.qualifiers, List.filterMap_append]
      rfl
    · apply List.append_subset.mpr
      exact ⟨List.Subset.trans h.packages hloaded.grows.packages, List.cons_subset.mpr ⟨hfound, List.nil_subset _⟩⟩

end Imports

end FileState

/-- A reference and its path as they are written, and what they have become: the declaration that the reference means
stands in the type table under the identifier found, and has the name and the package found. -/
structure FileState.Binds (log : List Accepted) (f : FileState) (s : Store) (use : Mention × List FieldName)
    (found : Target × List FieldName) : Prop where
  path_eq : found.2 = use.2
  name_eq : found.1.name = use.1.name
  registered : ∃ d, f.Means log s use.1 found.1.package d ∧ s.types.find? found.1.identifier = some d ∧
    d.package = found.1.package ∧ d.name = found.1.name

lemma FileState.Ready.steps {e : Expr} (h : f.Ready c chain s)
    (hr : (f.feed c (l.catalog c).load e).run s = .ok r s') : s.Steps l (fun _ _ => True) s' := by
  apply ((h.feed_ends (Library.load_loads l c chain) e).elim hr).steps
  intro package qualifier p r s' _ hload
  rw [Library.run_load_on h.trail] at hload
  exact Library.steps_of_loadOn h.store h.trail hload

namespace Library

lemma Passes.steps {name : PackageName} {importer : Option Position} {m : Moment} (h : l.Passes c name importer s m)
    (hs : s.Idle c) : s.Steps l (fun _ _ => True) m.store := by
  induction h with
  | first opened => exact .aside (aside_of_open? opened)
  | next passed advanced ih =>
    obtain ⟨e, rest, f, out, s', _, hrun, heq⟩ := advance?_eq_some advanced
    have hsteps := steps_of_feed (passed.underway hs) hrun
    obtain ⟨_, rfl⟩ | ⟨_, _, rfl⟩ := heq
    · exact ih.trans hsteps
    · exact ih.trans hsteps
  | inner _ _ opened ih => exact ih.trans (.aside (aside_of_open? opened))

lemma Visited.stocked (h : l.Visited c chain s) : s.Stocked fun _ _ => True := by
  cases h with
  | between desk => exact desk.stocked.mono fun _ _ _ => trivial
  | during desk passes => exact (passes.steps desk.ready.1).stocked (desk.stocked.mono fun _ _ _ => trivial)

namespace Course

lemma stocked (h : l.Course c chain log f s) : s.Stocked fun _ _ => True := by
  induction h with
  | opened visited => exact visited.stocked
  | accepted course _ _ ran ih => exact (course.ready.steps ran).stocked ih
  | rejected course _ ran _ ih => exact (course.ready.steps ran).stocked ih
  | meanwhile _ visited _ _ => exact visited.stocked
  | emptied _ ih => exact ih

lemma imports (h : l.Course c chain log f s) : f.Imports log s := by
  induction h with
  | opened => exact ⟨rfl, List.nil_subset _⟩
  | accepted course statement_eq accepts ran ih =>
    have hready := course.ready
    have hl := load_loads l c chain
    exact ih.enact (hready.enacted hl statement_eq accepts ran) hl hready.store hready.trail
  | rejected course rejects ran continues ih =>
    rw [eq_of_rejects course.ready ran rejects]
    exact ih.mono (course.ready.of_feed (load_loads l c chain) ran continues).2
  | meanwhile _ _ grows ih => exact ih.mono grows
  | emptied _ ih => exact ⟨ih.qualifiers, ih.packages⟩

lemma imported?_eq_some_iff (h : l.Course c chain log f s) {qualifier : Segment} {found : Package} :
    f.scope.imported? qualifier = some found ↔ ∃ a ∈ log, ∃ package p,
      a.statement = .importPackage package qualifier p ∧ s.package? package = some found := by
  have hpackage : ∀ {name}, (qualifier, name) ∈ f.scope.qualifiers.pairs →
      f.scope.packages.find? (·.name = name) = s.package? name := by
    intro name hname
    obtain ⟨p, hp, heq⟩ := h.ready.linked _ hname
    have hsome : (f.scope.packages.find? (·.name = name)).isSome :=
      List.find?_isSome.mpr ⟨p, hp, decide_eq_true heq⟩
    obtain ⟨q, hq⟩ := Option.isSome_iff_exists.mp hsome
    have hqname : q.name = name := by simpa using List.find?_some hq
    rw [hq, ← hqname]
    exact (h.stocked.package?_eq (h.imports.packages (List.mem_of_find?_eq_some hq))).symm
  rw [Scope.imported?, Option.bind_eq_some_iff]
  constructor
  · rintro ⟨name, hname, hfound⟩
    have hmem := OneToOne.value?_eq_some_iff.mp hname
    rw [hpackage hmem] at hfound
    rw [h.imports.qualifiers] at hmem
    obtain ⟨a, ha, hbinding⟩ := List.mem_filterMap.mp hmem
    rw [Accepted.binding] at hbinding
    split at hbinding
    · next package qualifier p hstatement =>
      cases hbinding
      exact ⟨a, ha, name, p, hstatement, hfound⟩
    · cases hbinding
  · rintro ⟨a, ha, package, p, hstatement, hfound⟩
    have hmem : (qualifier, package) ∈ f.scope.qualifiers.pairs := by
      rw [h.imports.qualifiers]
      exact List.mem_filterMap.mpr ⟨a, ha, by rw [Accepted.binding, hstatement]⟩
    exact ⟨package, OneToOne.value?_eq_some_iff.mpr hmem, (hpackage hmem).trans hfound⟩

lemma holds {package : PackageName} (h : l.Course c chain log f s) (hopened : f.scope.state = .opened package) :
    Package.Holds log ⟨package, f.collector.declarations⟩ :=
  h.logged.1.holds h.ready.file hopened

lemma declared_iff {package : PackageName} {d : Declaration} (h : l.Course c chain log f s)
    (hopened : f.scope.state = .opened package) : d ∈ f.collector.declarations ↔ ∃ a ∈ log, a.declared = some d := by
  have hdeclarations : f.collector.declarations = log.filterMap Accepted.declared := (h.holds hopened).declarations
  rw [hdeclarations, List.mem_filterMap]

lemma known_of_means {m : Mention} {package : PackageName} {d : Declaration} (h : l.Course c chain log f s)
    (hm : f.Means log s m package d) : d.package = package ∧ s.types.find? d.identifier = some d := by
  have hstore := h.ready.store
  cases hm with
  | @plain a package d opened accepted declared =>
    have hmem : d ∈ f.collector.declarations := (h.declared_iff opened).mpr ⟨a, accepted, declared⟩
    exact ⟨(h.holds opened).package_eq d hmem, hstore.grown.find?_eq d (h.ready.file.collected d hmem).1⟩
  | @qualified a package qualifier p found name d _ _ known declared =>
    have hstored : found ∈ s.packages := List.mem_of_find?_eq_some known
    obtain ⟨hmem, hpackage⟩ := hstore.registered found hstored d (List.mem_of_find?_eq_some declared)
    have hname : found.name = package := by simpa using List.find?_some known
    exact ⟨hpackage.trans hname, hstore.grown.find?_eq d hmem⟩

lemma find_plain_iff {name : TypeName} {p : Position} {target : Target} (h : l.Course c chain log f s) :
    f.scope.find ⟨none, name⟩ p = .ok target ↔
      ∃ d, (∃ package, f.Means log s ⟨none, name⟩ package d) ∧ target = d.target := by
  obtain ⟨hlogged, hfits⟩ := h.logged
  have hstep := hlogged.inStep hfits h.ready.store h.ready.file
  rw [Scope.find_plain_eq_ok_iff]
  constructor
  · rintro ⟨package, i, hstate, hi, rfl⟩
    obtain ⟨d, hfind, rfl, _⟩ := (hstep.names package hstate name i).mp hi
    have hname : d.name = name := by simpa using List.find?_some hfind
    subst hname
    obtain ⟨a, ha, hdeclared⟩ := (h.declared_iff hstate).mp (List.mem_of_find?_eq_some hfind)
    have hmeans : f.Means log s ⟨none, d.name⟩ package d := .plain hstate ha hdeclared
    obtain ⟨rfl, _⟩ := h.known_of_means hmeans
    exact ⟨d, ⟨_, hmeans⟩, rfl⟩
  · rintro ⟨d, ⟨package, hmeans⟩, rfl⟩
    obtain ⟨rfl, hknown⟩ := h.known_of_means hmeans
    cases hmeans with
    | plain opened accepted declared =>
      have hmem : d ∈ f.collector.declarations := (h.declared_iff opened).mpr ⟨_, accepted, declared⟩
      have hfind := (find?_eq_some_iff_of_nodup (h.holds opened).nodup).mpr ⟨hmem, rfl⟩
      exact ⟨d.package, d.identifier, opened, (hstep.names _ opened d.name _).mpr ⟨d, hfind, rfl, hknown⟩, rfl⟩

lemma find_qualified_iff {qualifier : Segment} {name : TypeName} {p : Position} {target : Target}
    (h : l.Course c chain log f s) : f.scope.find ⟨some qualifier, name⟩ p = .ok target ↔
      ∃ d, (∃ package, f.Means log s ⟨some qualifier, name⟩ package d) ∧ target = d.target := by
  rw [Scope.find_qualified_eq_ok_iff]
  constructor
  · rintro ⟨found, d, himported, hd, rfl⟩
    obtain ⟨a, ha, package, p, hstatement, hfound⟩ := h.imported?_eq_some_iff.mp himported
    have hmeans : f.Means log s ⟨some qualifier, name⟩ package d := .qualified ha hstatement hfound hd
    have hpackage : found.name = package := by simpa using List.find?_some hfound
    have hname : d.name = name := by simpa using List.find?_some hd
    refine ⟨d, ⟨package, hmeans⟩, ?_⟩
    rw [Declaration.target, hname, hpackage, (h.known_of_means hmeans).1]
  · rintro ⟨d, ⟨package, hmeans⟩, rfl⟩
    obtain ⟨hpackage, _⟩ := h.known_of_means hmeans
    cases hmeans with
    | @qualified _ _ _ p found _ _ accepted imported known declared =>
      have hfound : found.name = package := by simpa using List.find?_some known
      have hname : d.name = name := by simpa using List.find?_some declared
      refine ⟨found, d, h.imported?_eq_some_iff.mpr ⟨_, accepted, package, p, imported, known⟩, declared, ?_⟩
      rw [Declaration.target, hname, hpackage, hfound]

lemma reads (h : l.Course c chain log f s) :
    f.scope.Reads s.types fun m d => ∃ package, f.Means log s m package d where
  find_iff := by
    rintro ⟨_ | qualifier, name⟩ p target
    · exact h.find_plain_iff
    · exact h.find_qualified_iff
  name_eq := by
    rintro m d ⟨package, hmeans⟩
    cases hmeans with
    | plain => rfl
    | qualified _ _ _ declared => simpa using List.find?_some declared
  registered := by
    rintro m d ⟨package, hmeans⟩
    exact (h.known_of_means hmeans).2

lemma binds (h : l.Course c chain log f s) {use : Mention × List FieldName} {found : Target × List FieldName}
    (hbinds : s.types.Binds (fun m d => ∃ package, f.Means log s m package d) use found) : f.Binds log s use found := by
  obtain ⟨d, ⟨package, hmeans⟩, _, rfl⟩ := hbinds
  obtain ⟨rfl, hknown⟩ := h.known_of_means hmeans
  exact ⟨rfl, h.reads.name_eq _ _ ⟨_, hmeans⟩, d, hmeans, hknown, rfl, rfl⟩

end Course

/-- In every file that is taken through, a type or a size is resolved exactly if each reference in it means a
declaration and each path leads on through members of declared types. What it is resolved to differs from it in
nothing but the references, and these are bound to the declarations that they mean. -/
theorem resolve_faithful (h : l.Course c chain log f s) :
    (∀ type : TypeExpr Mention,
      ((∃ r, type.resolve s.types f.scope = .ok r) ↔
        ∀ use ∈ type.uses, ∃ d, (∃ package, f.Means log s use.1 package d) ∧ s.types.Leads d use.2) ∧
      ∀ r, type.resolve s.types f.scope = .ok r →
        r.map id Target.name = type.map id Mention.name ∧ List.Forall₂ (f.Binds log s) type.uses r.uses) ∧
    ∀ size : SizeExpr Mention,
      ((∃ r, size.resolve s.types f.scope = .ok r) ↔
        ∀ use ∈ size.uses, ∃ d, (∃ package, f.Means log s use.1 package d) ∧ s.types.Leads d use.2) ∧
      ∀ r, size.resolve s.types f.scope = .ok r →
        r.map id Target.name = size.map id Mention.name ∧ List.Forall₂ (f.Binds log s) size.uses r.uses := by
  refine ⟨fun type => ⟨⟨?_, type.resolve_complete h.reads⟩, fun r hr => ?_⟩,
    fun size => ⟨⟨?_, size.resolve_complete h.reads⟩, fun r hr => ?_⟩⟩
  · rintro ⟨r, hr⟩
    exact TypeTable.Binds.of_forall₂ (type.resolve_sound h.reads hr).2
  · obtain ⟨hmap, huses⟩ := type.resolve_sound h.reads hr
    exact ⟨hmap, huses.imp fun _ _ => h.binds⟩
  · rintro ⟨r, hr⟩
    exact TypeTable.Binds.of_forall₂ (size.resolve_sound h.reads hr).2
  · obtain ⟨hmap, huses⟩ := size.resolve_sound h.reads hr
    exact ⟨hmap, huses.imp fun _ _ => h.binds⟩

def packedForImport : Library :=
  .texts [(secondOfTwo, "(package-begin b) (packed B [(field x (integer unsigned 8))]) (package-end)")]

def importingRecord : List Expr :=
  (Expr.read ⟨0⟩ "(package-begin a) (import b as q) (record A [(field y q.B)])").exprs

def vectorOverBoth : List Expr :=
  (Expr.read ⟨0⟩ "(vector (type-of A y.x) (size-in-octets q.B))").exprs

lemma vector_over_both_resolved : ∃ log f s, ∃ type : TypeExpr Mention, ∃ r : TypeExpr Target,
    packedForImport.Course {} [] log f s ∧ type.resolve s.types f.scope = .ok r ∧
    r.uses.map (fun found => found.1.identifier.value) = [1, 0] ∧
    (∀ use ∈ type.uses, ∃ d, (∃ package, f.Means log s use.1 package d) ∧ s.types.Leads d use.2) ∧
    r.map id Target.name = type.map id Mention.name ∧ List.Forall₂ (f.Binds log s) type.uses r.uses := by
  have hends : ((packedForImport.feedEach {} {} {} importingRecord).bind fun reached => vectorOverBoth.head?.bind fun e =>
      e.toType.toOption.bind fun type => (type.resolve reached.2.types reached.1.scope).toOption.map fun r =>
        r.uses.map fun found => found.1.identifier.value) = some [1, 0] := by
    decide +kernel
  obtain ⟨⟨f, s⟩, hfeeds, hends⟩ := Option.bind_eq_some_iff.mp hends
  obtain ⟨e, _, hends⟩ := Option.bind_eq_some_iff.mp hends
  obtain ⟨type, _, hends⟩ := Option.bind_eq_some_iff.mp hends
  obtain ⟨r, hr, hidentifiers⟩ := Option.map_eq_some_iff.mp hends
  have hdesk : packedForImport.Desk {} [f] s := (Desk.opened .empty).feedEach hfeeds
  obtain ⟨log, hcourse⟩ := hdesk.exists_course f List.mem_cons_self
  have hresolve : type.resolve s.types f.scope = .ok r := by
    cases hresolved : type.resolve s.types f.scope with
    | ok r' =>
      rw [hresolved] at hr
      cases hr
      rfl
    | error failure =>
      rw [hresolved] at hr
      cases hr
  obtain ⟨hmeans, hresult⟩ := (resolve_faithful hcourse).1 type
  exact ⟨log, f, s, type, r, hcourse, hresolve, hidentifiers, hmeans.mp ⟨r, hresolve⟩, hresult r hresolve⟩

end Library

end RecordSchema
