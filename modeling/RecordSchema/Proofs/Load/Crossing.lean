import RecordSchema.Proofs.Check.Holder
import RecordSchema.Proofs.Check.Notation
import RecordSchema.Proofs.Load.Session
import RecordSchema.Proofs.Load.Unwind

/-! Integers that reach, through a path of members, a place that would not take them if they were written out
there. -/

namespace RecordSchema

open DataType.toExpr (form word number)

variable {c : Capabilities} (load : Importer) {package : PackageName} {f : FileState} {s : Store}
  {ds : List Declaration}

namespace FileState

structure Declared (package : PackageName) (f : FileState) (s : Store) (ds : List Declaration) : Prop where
  state : f.scope.state = .opened package
  names : f.scope.types.pairs = ds.map fun d => (d.name, d.identifier)
  collector : f.collector = ⟨some package, ds⟩
  types : s.types = ⟨ds⟩
  packages : s.packages = []
  diagnostics : s.diagnostics = []
  below : ∀ d ∈ ds, d.identifier.value < s.nextIdentifier

namespace Declared

lemma declare (h : f.Declared package s ds) {e : Expr} {name : TypeName} {body : Body Mention}
    {body' : Body Target} {p : Position} {l : Layout} (hstatement : e.toStatement = .ok (.define ⟨name, body, p⟩))
    (hresolve : body.resolve s.types f.scope = .ok body')
    (hlayout : Check.layout c s.types ⟨name, body', p⟩ = .ok l) (hname : ∀ d ∈ ds, d.name ≠ name) :
    ∃ f' s', (f.feed c load e).run s = .ok (f', .nothing) s' ∧
      f'.Declared package s' (ds ++ [⟨⟨s.nextIdentifier⟩, package, name, p, l⟩]) := by
  let d : Declaration := ⟨⟨s.nextIdentifier⟩, package, name, p, l⟩
  have hpackage : f.scope.requirePackage p = .ok package := by
    rw [Scope.requirePackage, Scope.current?, h.state]
  have hkey : name ∉ f.scope.types.keys := by
    rw [OneToOne.keys, h.names]
    simpa using hname
  have hvalue : d.identifier ∉ f.scope.types.values := by
    rw [OneToOne.values, h.names]
    intro hmem
    obtain ⟨_, hentry, hvalue⟩ := List.mem_map.mp hmem
    obtain ⟨e, he, rfl⟩ := List.mem_map.mp hentry
    have hlt := h.below e he
    have heq : e.identifier = ⟨s.nextIdentifier⟩ := hvalue
    rw [heq] at hlt
    exact Nat.lt_irrefl _ hlt
  have hdefinition : Definition.resolve s.types f.scope ⟨name, body, p⟩ = .ok (package, ⟨name, body', p⟩) := by
    have hfree : f.scope.type? name = none := OneToOne.value?_eq_none_iff.mpr hkey
    rw [Definition.resolve, hpackage, hfree, hresolve]
    rfl
  have hchecked : Check.declaration c s.types ⟨s.nextIdentifier⟩ package ⟨name, body', p⟩ = .ok d := by
    rw [Check.declaration, hlayout]
    rfl
  have habove : ∀ e ∈ s.types.declarations, e.identifier.value < d.identifier.value := by
    rw [h.types]
    exact h.below
  obtain ⟨types, htypes, hpairs⟩ := OneToOne.exists_insert_of_fresh hkey hvalue
  have hscope : f.scope.defineType d = .ok { f.scope with types } := by
    rw [Scope.defineType, htypes]
    rfl
  have hfresh : ∀ e ∈ ds, e.name ≠ d.name := hname
  refine ⟨_, _, feed_define_ok hstatement hdefinition hchecked habove hscope, h.state, ?_, ?_, ?_, h.packages,
    h.diagnostics, fun e he => ?_⟩
  · rw [List.map_append, ← h.names]
    exact hpairs
  · rw [Collector.add, h.collector]
    exact congrArg (Collector.mk (some package)) (upsert_of_fresh hfresh)
  · rw [h.types]
  · rcases List.mem_append.mp he with he | he
    · exact Nat.lt_succ_of_lt (h.below e he)
    · cases List.mem_singleton.mp he
      exact Nat.lt_succ_self _

lemma resolve_typeOf {d : Declaration} (h : f.Declared package s [d]) {field : FieldName} {type : DataType}
    (hfield : d.memberType? field = some type) (p q : Position) :
    TypeExpr.resolve s.types f.scope (.typeOf ⟨none, d.name⟩ p [field] q) =
      .ok (.typeOf ⟨d.identifier, package, d.name⟩ p [field] q) := by
  have hpackage : f.scope.requirePackage p = .ok package := by
    rw [Scope.requirePackage, Scope.current?, h.state]
  have htype : f.scope.type? d.name = some d.identifier := by
    rw [Scope.type?, OneToOne.value?, h.names]
    simp
  have hfind : f.scope.find ⟨none, d.name⟩ p = .ok ⟨d.identifier, package, d.name⟩ := by
    rw [Scope.find]
    simp only [hpackage, htype]
    rfl
  have hget : s.types.get d.identifier = .ok d := by
    rw [h.types, TypeTable.get_eq_ok_iff, TypeTable.find?]
    simp
  have hpath : s.types.checkPathFrom ⟨d.identifier, package, d.name⟩ [field] q = .ok () := by
    rw [TypeTable.checkPathFrom, hget]
    change s.types.checkPath q d [field] = .ok ()
    unfold TypeTable.checkPath
    rw [hfield]
  rw [TypeExpr.resolve, hfind]
  change (s.types.checkPathFrom _ [field] q >>= _) = _
  rw [hpath]
  rfl

lemma check_typeOf {d : Declaration} (h : f.Declared package s [d]) {field : FieldName} {type : DataType}
    (hfield : d.memberType? field = some type) (placement : Placement) (p q : Position) :
    TypeExpr.check c s.types placement (.typeOf ⟨d.identifier, package, d.name⟩ p [field] q) = .ok type := by
  have hfind : s.types.find? d.identifier = some d := by
    rw [h.types, TypeTable.find?]
    simp
  have hwalk : s.types.walk d.toType [field] = .ok type := by
    rw [TypeTable.walk_cons d.toType field [] rfl hfind, hfield]
    rfl
  rw [TypeExpr.check, TypeTable.get_eq_ok_iff.mpr hfind]
  change Attempt.ofFault (s.types.walk d.toType [field]) = _
  rw [hwalk]
  rfl

lemma hold (h : f.Declared package s ds) {e type : Expr} {name : TypeName} {bits filling : Nat}
    {placement : Placement} {P : TypeExpr Mention → Prop} (he : e.Alike (.holder name type filling placement))
    (htype : ∀ e : Expr, e.Alike type → ∃ found, e.toType = .ok found ∧ P found)
    (hchecks : ∀ found, P found → ∃ found', found.resolve s.types f.scope = .ok found' ∧
      found'.check c s.types placement = .ok (.integer .unsigned bits))
    (hpositive : 0 < bits) (htotal : c.packedTotals.contains (filling + bits) = true)
    (hname : ∀ d ∈ ds, d.name ≠ name) : ∃ f' s' d, (f.feed c load e).run s = .ok (f', .nothing) s' ∧
      f'.Declared package s' (ds ++ [d]) ∧ d.name = name ∧ d.layout.Holds (.integer .unsigned bits) placement := by
  obtain ⟨found, body, p, hfound, hbody, hstatement⟩ := Expr.toStatement_holder htype he
  obtain ⟨found', hresolve, hcheck⟩ := hchecks found hfound
  obtain ⟨body', hresolve', hbody'⟩ := hbody.resolve hresolve
  obtain ⟨l, hlayout, hholds⟩ := hbody'.layout hcheck hpositive htotal name p
  obtain ⟨f', s', hfeed, hdeclared⟩ := h.declare load hstatement hresolve' hlayout hname
  exact ⟨f', s', _, hfeed, hdeclared, rfl, hholds⟩

end Declared

lemma feed_begin {e : Expr} {p : Position} (h : e.toStatement = .ok (.packageBegin package p)) :
    (({} : FileState).feed c load e).run s =
      .ok (⟨{ state := .opened package }, .begin package, []⟩, .nothing) s := by
  rw [feed, h]
  rfl

lemma feed_end (h : f.Declared package s ds) {e : Expr} {p : Position} (he : e.toStatement = .ok (.packageEnd p)) :
    ∃ f', (f.feed c load e).run s = .ok (f', .finished ⟨package, ds⟩) s ∧ f'.scope.state = .closed package := by
  have hpackage : f.scope.requirePackage p = .ok package := by
    rw [Scope.requirePackage, Scope.current?, h.state]
  have hresolve : (f.scope.resolve load (.packageEnd p)).run s =
      .ok (.ok ({ f.scope with state := .closed package }, .packageEnd package p)) s := by
    rw [Scope.resolve, hpackage]
    rfl
  have hfinish : f.collector.finish package = ({}, .ok ⟨package, ds⟩) := by
    rw [h.collector, Collector.finish, if_pos rfl]
  refine ⟨⟨{ f.scope with state := .closed package }, {}, f.results⟩, ?_, rfl⟩
  rw [feed_of_resolve he hresolve, perform]
  simp only [hfinish]
  rfl

lemma compile_closed {found : Package} {p : Position} {reading : Reading} (hreading : reading.error = none)
    (h : f.scope.state = .closed found.name) :
    (f.compile c load found.name reading (some (found, p)) []).run s = .ok (.ok found) s := by
  have hclose : f.close reading = pure () := by
    rw [close, hreading]
    change FileState.finish f reading.finish = _
    rw [FileState.finish, Scope.finish, h]
  have hdeliver : Product.deliver found.name (some (found, p)) = pure (.ok found) := if_pos rfl
  rw [compile, feedAll]
  change (f.close reading >>= fun _ => Product.deliver found.name (some (found, p))).run s = _
  rw [hclose, hdeliver]
  rfl

end FileState

def crossingName : PackageName := ⟨[⟨"c", by decide +kernel⟩], List.cons_ne_nil _ _⟩

def originName : TypeName := ⟨"A", by decide +kernel⟩

def arrivalName : TypeName := ⟨"B", by decide +kernel⟩

def crossingStatements (origin placement : Placement) (bits filling : Nat) : List Expr := [
  form [word "package-begin", word crossingName.render],
  .holder originName (DataType.integer .unsigned bits).toExpr filling origin,
  .holder arrivalName (form [word "type-of", word originName.text, word heldName.text]) filling placement,
  form [word "package-end"]]

variable {origin placement : Placement} {bits filling : Nat}

lemma legible_crossingStatements (origin placement : Placement) (bits filling : Nat) :
    ∀ e ∈ crossingStatements origin placement bits filling, e.Legible := by
  have hwords : Expr.IsWord "package-begin".toList ∧ Expr.IsWord crossingName.render.toList ∧
      Expr.IsWord "integer".toList ∧ Expr.IsWord "unsigned".toList ∧ Expr.IsWord "type-of".toList ∧
      Expr.IsWord originName.text.toList ∧ Expr.IsWord arrivalName.text.toList ∧ Expr.IsWord heldName.text.toList ∧
      Expr.IsWord "package-end".toList := by
    decide +kernel
  obtain ⟨hbegin, hpackage, hinteger, hunsigned, htypeOf, horigin, harrival, hheld, hend⟩ := hwords
  have hwritten : (DataType.integer .unsigned bits).toExpr.Legible := by
    simp [DataType.toExpr, IntegerKind.keyword, hinteger, hunsigned, -String.reduceToList]
  have hreferred : (form [word "type-of", word originName.text, word heldName.text]).Legible := by
    simp [htypeOf, horigin, hheld, -String.reduceToList]
  simp [crossingStatements, Expr.legible_holder horigin hwritten, Expr.legible_holder harrival hreferred, hbegin,
    hpackage, hend, -String.reduceToList]

lemma toStatement_begin {e : Expr} (h : e.Alike (form [word "package-begin", word crossingName.render])) :
    ∃ p, e.toStatement = .ok (.packageBegin crossingName p) := by
  obtain ⟨q, _, p, rfl, hargs⟩ := h.of_form
  obtain _ | ⟨hname, _ | _⟩ := hargs
  obtain ⟨r, rfl⟩ := Expr.alike_atom_iff.mp hname
  exact ⟨p, rfl⟩

lemma toStatement_end {e : Expr} (h : e.Alike (form [word "package-end"])) :
    ∃ p, e.toStatement = .ok (.packageEnd p) := by
  obtain ⟨q, _, p, rfl, hargs⟩ := h.of_form
  obtain _ | _ := hargs
  exact ⟨p, rfl⟩

lemma compile_crossing {reading : Reading} (hreading : reading.error = none)
    (halike : List.Forall₂ Expr.Alike reading.exprs (crossingStatements origin placement bits filling))
    (hallows : c.Allows origin bits) (hpositive : 0 < bits)
    (htotal : c.packedTotals.contains (filling + bits) = true)
    (htypes : s.types = .empty) (hpackages : s.packages = []) (hdiagnostics : s.diagnostics = []) :
    ∃ d₁ d₂ s', (FileState.compile c load crossingName reading {} none reading.exprs).run s =
        .ok (.ok ⟨crossingName, [d₁, d₂]⟩) s' ∧ s'.packages = [] ∧ s'.diagnostics = [] ∧
      (placement, .integer .unsigned bits) ∈ d₂.memberTypes := by
  obtain ⟨exprs, error, finish⟩ := reading
  cases hreading
  obtain _ | ⟨h₁, _ | ⟨h₂, _ | ⟨h₃, _ | ⟨h₄, _ | _⟩⟩⟩⟩ := halike
  obtain ⟨p₁, hbegin⟩ := toStatement_begin h₁
  obtain ⟨p₄, hend⟩ := toStatement_end h₄
  let f₁ : FileState := ⟨{ state := .opened crossingName }, .begin crossingName, []⟩
  have hdeclared₁ : f₁.Declared crossingName s [] :=
    ⟨rfl, rfl, rfl, htypes, hpackages, hdiagnostics, by rintro d ⟨⟩⟩
  have hwritten : ∀ type : TypeExpr Mention, (∃ p q, type = .integer .unsigned (.constant bits p) q) →
      ∃ found, type.resolve s.types f₁.scope = .ok found ∧
        found.check c s.types origin = .ok (.integer .unsigned bits) := by
    rintro _ ⟨p, q, rfl⟩
    exact ⟨_, rfl, TypeExpr.check_integer hallows hpositive⟩
  obtain ⟨f₂, s₂, d₁, hfeed₂, hdeclared₂, hname₁, hholds₁⟩ := hdeclared₁.hold load h₂
    (fun _ => Expr.toType_integer) hwritten hpositive htotal (by rintro d ⟨⟩)
  -- The second declaration refers to the first, which has passed by a limit of its own.
  have hmember := hholds₁.found d₁.identifier d₁.package d₁.name d₁.position
  have hreferred : ∀ type : TypeExpr Mention, (∃ p q, type = .typeOf ⟨none, originName⟩ p [heldName] q) →
      ∃ found, type.resolve s₂.types f₂.scope = .ok found ∧
        found.check c s₂.types placement = .ok (.integer .unsigned bits) := by
    rintro _ ⟨p, q, rfl⟩
    rw [← hname₁]
    exact ⟨_, hdeclared₂.resolve_typeOf hmember p q, hdeclared₂.check_typeOf hmember placement p q⟩
  have hfresh : ∀ d ∈ [d₁], d.name ≠ arrivalName := by
    intro d hd
    rw [List.mem_singleton.mp hd, hname₁]
    decide +kernel
  obtain ⟨f₃, s₃, d₂, hfeed₃, hdeclared₃, hname₂, hholds₂⟩ := hdeclared₂.hold load h₃
    (fun _ => Expr.toType_typeOf) hreferred hpositive htotal hfresh
  obtain ⟨f₄, hfeed₄, hclosed⟩ := FileState.feed_end (c := c) load hdeclared₃ hend
  refine ⟨d₁, d₂, s₃, ?_, hdeclared₃.packages, hdeclared₃.diagnostics, hholds₂.mem⟩
  rw [FileState.compile_cons_nothing (FileState.feed_begin load hbegin), FileState.compile_cons_nothing hfeed₂,
    FileState.compile_cons_nothing hfeed₃, FileState.compile_cons_finished hfeed₄]
  exact FileState.compile_closed load rfl hclosed

namespace Library

def crossing (origin placement : Placement) (bits filling : Nat) : Library :=
  .texts [(crossingName, String.ofList (Text.joinWith [' ']
    (Expr.charsEach (crossingStatements origin placement bits filling))))]

lemma serve_crossing (placement : Placement) (hallows : c.Allows origin bits) (hpositive : 0 < bits)
    (htotal : c.packedTotals.contains (filling + bits) = true) : ∃ s p d,
      (((crossing origin placement bits filling).catalog c).serve [.load crossingName none]).run {} = .ok () s ∧
      p ∈ s.packages ∧ d ∈ p.declarations ∧ (placement, .integer .unsigned bits) ∈ d.memberTypes := by
  let l := crossing origin placement bits filling
  let statements := crossingStatements origin placement bits filling
  let text := String.ofList (Text.joinWith [' '] (Expr.charsEach statements))
  have hfetch : l.fetch? crossingName = some (.fromMemory crossingName text) := by
    simp [l, text, statements, fetch?, fetches, crossing]
  have hsupplier := supplier?_of_fetch (c := c) hfetch
  let entered := Store.entering {} [] crossingName none
  obtain ⟨file, s₁, hfetched, htypes, hpackages, hdiagnostics⟩ : ∃ file s₁,
      (Fetch.fromMemory crossingName text).run entered = .ok (.ok (file, text)) s₁ ∧ s₁.types = .empty ∧
        s₁.packages = [] ∧ s₁.diagnostics = [] :=
    ⟨_, _, rfl, rfl, rfl, rfl⟩
  obtain ⟨exprs, finish, hread, halike⟩ := Expr.readChars_written file
    (legible_crossingStatements origin placement bits filling)
  let load : Importer := fun other p => (l.catalog c).loadOn ([] ++ [crossingName]) other p
  have hunfailed : (Reading.mk exprs none finish).error = none := rfl
  obtain ⟨d₁, d₂, s₂, hcompile, hpackages', hdiagnostics', hmem⟩ :=
    compile_crossing load hunfailed halike hallows hpositive htotal htypes hpackages hdiagnostics
  have hsupply : (Catalog.compiling c crossingName (.fromMemory crossingName text) load none).run entered =
      .ok (.ok ⟨crossingName, [d₁, d₂]⟩) s₂ := by
    rw [Catalog.compiling, EStateM.run_bind, hfetched]
    simp only [compileSource, Expr.read, text, String.toList_ofList, statements, hread]
    exact hcompile
  have hleave : (Run.stopLoading []).run s₂ = .ok () (s₂.leaving []) := rfl
  have hqueued : (s₂.leaving []).diagnostics.length = ({} : Store).diagnostics.length := by
    rw [Store.leaving, hdiagnostics']
  let kept : Store := { s₂.leaving [] with packages := s₂.packages ++ [⟨crossingName, [d₁, d₂]⟩] }
  have hload : ((l.catalog c).loadOn [] crossingName none).run {} = .ok (.ok ⟨crossingName, [d₁, d₂]⟩) kept := by
    rw [Catalog.loadOn_of_supplied rfl List.not_mem_nil hsupplier, EStateM.run_bind, hsupply]
    simp only [EStateM.run_bind, hleave]
    exact Run.run_conclude_kept hqueued
  refine ⟨kept, ⟨crossingName, [d₁, d₂]⟩, d₂, ?_, List.mem_append_right _ (List.mem_singleton_self _),
    List.mem_cons_of_mem _ (List.mem_singleton_self _), hmem⟩
  rw [Catalog.serve, EStateM.run_bind, run_load .initial, hload]
  rfl

def Keeps (c : Capabilities) (integers : Placement → Nat → Prop) : Prop :=
  ∀ (l : Library) (requests : List Request) (s : Store), ((l.catalog c).serve requests).run {} = .ok () s →
    ∀ p ∈ s.packages, ∀ d ∈ p.declarations, d.Supported c integers

lemma keeps_tolerates (c : Capabilities) : Keeps c c.Tolerates := by
  intro l requests s hrun p hp d hd
  have hsound := (idle_of_serve hrun).sound
  exact hsound.grown.supported d (hsound.registered p hp d hd).1

/-- All types in loaded packages keep to their limits, except that an integer may have come through a packed record
from a place of the other sort. So all limits hold if and only if the two sorts of places agree about the integers
that packed records have room for. -/
theorem keeps_allows_iff_uniform (c : Capabilities) : Keeps c c.Tolerates ∧ (Keeps c c.Allows ↔ c.Uniform) := by
  refine ⟨keeps_tolerates c, fun h => ?_, fun h l requests s hrun p hp d hd => ?_⟩
  · rintro bits ⟨hpositive, total, hle, htotal⟩ origin placement hallows
    have hfilled : c.packedTotals.contains (total - bits + bits) = true := by rwa [Nat.sub_add_cancel hle]
    obtain ⟨s, p, d, hrun, hp, hd, hm⟩ := serve_crossing placement hallows hpositive hfilled
    exact (h _ _ s hrun p hp d hd).members _ hm
  · exact (keeps_tolerates c l requests s hrun p hp d hd).of_uniform h

end Library

end RecordSchema
