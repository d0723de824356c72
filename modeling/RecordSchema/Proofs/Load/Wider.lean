import RecordSchema.Proofs.Check.Wider
import RecordSchema.Proofs.Load.Circular
import RecordSchema.Proofs.Load.Enacted
import RecordSchema.Proofs.Load.Request

/-! What loads for one code generator loads for every one that supports more, and comes to the same. -/

namespace RecordSchema

variable {c c' : Capabilities} {l : Library} {chain : Chain} {load load' : Importer} {f : FileState} {e : Expr}
  {s s' : Store} {product : Product}

def Importer.Follows (c : Capabilities) (chain : Chain) (load load' : Importer) : Prop :=
  ∀ name p s found s', s.Sound c → s.OnTrail chain → (load name p).run s = .ok (.ok found) s' →
    (load' name p).run s = .ok (.ok found) s'

namespace FileState

lemma perform_of_passes (h : c.Within c') {bound : BoundStatement} (hb : bound.Passes c s.types f.scope) :
    (f.perform c' bound).run s = (f.perform c bound).run s := by
  cases bound with
  | packageBegin | packageEnd | imported => rfl
  | define i package d =>
    obtain ⟨r, _, hr, _⟩ := hb
    have hr' := Check.declaration_follows h i package d r hr
    simp only [perform, Collector.define, EStateM.run_bind, EStateM.run_get, hr, hr']
  | showType type p =>
    obtain ⟨r, hr⟩ := hb
    have hr' := type.check_follows h .record r hr
    simp only [perform, EStateM.run_bind, EStateM.run_get, hr, hr']
  | showSize size p =>
    obtain ⟨n, hn⟩ := hb
    have hn' := size.evaluate_follows h n hn
    simp only [perform, EStateM.run_bind, EStateM.run_get, hn, hn']

lemma resolve_follows {statement : Statement} {found : Scope × BoundStatement} (hs : s.Sound c) (ht : s.OnTrail chain)
    (hl : load.Follows c chain load') (hr : (f.scope.resolve load statement).run s = .ok (.ok found) s') :
    (f.scope.resolve load' statement).run s = .ok (.ok found) s' := by
  obtain ⟨scope, bound⟩ := found
  rw [← hr]
  apply resolve_congr
  rintro package qualifier p rfl
  obtain ⟨_, _, _, hload, _⟩ := import_of_resolve hr
  rw [hload, hl _ _ _ _ _ hs ht hload]

lemma Ready.feed_follows {r : FileState × Outcome} (h : f.Ready c chain s) (hc : c.Within c')
    (hl : load.Loads c chain) (hl' : load.Follows c chain load') (hr : (f.feed c load e).run s = .ok r s')
    (hlength : s'.diagnostics.length = s.diagnostics.length) : (f.feed c' load' e).run s = .ok r s' := by
  obtain ⟨statement, scope, bound, s₁, hstatement, hresolve, hpasses⟩ := (accepts_iff h hl hr).mpr hlength
  have hresolve' := resolve_follows h.store h.trail hl' hresolve
  rw [feed_of_resolve hstatement hresolve] at hr
  rw [feed_of_resolve hstatement hresolve', perform_of_passes hc hpasses, hr]

lemma compile_follows (hc : c.Within c') (hl : load.Loads c chain) (hl' : load.Follows c chain load')
    {name : PackageName} {reading : Reading} {rest : List Expr} {package : Package}
    (h : f.Underway c chain s product) (hlinked : f.Linked)
    (hr : (f.compile c load name reading product rest).run s = .ok (.ok package) s')
    (hlength : s'.diagnostics.length = s.diagnostics.length) :
    (f.compile c' load' name reading product rest).run s = .ok (.ok package) s' := by
  induction rest generalizing f product s with
  | nil => exact hr
  | cons e rest ih =>
    obtain ⟨f', out, product', s₁, hfeed, hfirst, hout, hu, hrest, hothers⟩ := h.compile_cons_silent hl hr hlength
    have hready : f.Ready c chain s := ⟨h.store, h.trail, h.file, hlinked⟩
    have hfeed' := hready.feed_follows hc hl hl' hfeed hfirst
    have hlinked' := ((h.feed_ends hl e).elim hfeed).1.linked hlinked
    rcases hout with ⟨rfl, rfl⟩ | ⟨delivered, rfl, rfl, rfl⟩
    · rw [compile_cons_nothing hfeed']
      exact ih hu hlinked' hrest hothers
    · rw [compile_cons_finished hfeed']
      exact ih hu hlinked' hrest hothers

end FileState

namespace Library

lemma loadOn_follows (l : Library) (hc : c.Within c') (chain : Chain) :
    Importer.Follows c chain ((l.catalog c).loadOn chain.names) ((l.catalog c').loadOn chain.names) := by
  intro name importer s found s' hs ht hrun
  cases answers_of_loadOn hrun with
  | kept hkept => exact Catalog.loadOn_of_kept hkept
  | @entered m _ s' uncached opened comes silent =>
    have hlt := remaining_lt_of_open? c opened
    have hinner := loadOn_follows l hc m.chain
    have hu := underway_of_open? opened hs ht
    have hlinked : m.file.Linked := (begins_of_open? opened).1 ▸ .initial
    have hlength : s'.diagnostics.length = m.store.diagnostics.length := by
      rw [silent, diagnostics_of_open? opened]
    apply loadOn_of_entered opened _ silent
    exact FileState.compile_follows hc (l.loadOn_loads c m.chain) hinner hu hlinked comes hlength
termination_by ((l.catalog c).remaining chain.names).length

/-- A package that loads for one code generator loads for every one that supports as much or more, and is the same
then, down to its identifiers and the places of its members. It does not matter into which ranges the supported
sizes are split. -/
theorem load_of_within (h : c.Within c') (l : Library) (name : PackageName) (importer : Option Position) :
    (∀ p s, ((l.catalog c).load name importer).run {} = .ok (.ok p) s →
      ((l.catalog c').load name importer).run {} = .ok (.ok p) s) ∧
    (c'.Within c → ∀ p s, ((l.catalog c).load name importer).run {} = .ok (.ok p) s ↔
      ((l.catalog c').load name importer).run {} = .ok (.ok p) s) := by
  have hfollows : ∀ {c c' : Capabilities}, c.Within c' → ∀ p s,
      ((l.catalog c).load name importer).run {} = .ok (.ok p) s →
        ((l.catalog c').load name importer).run {} = .ok (.ok p) s := by
    intro c c' h p s hrun
    rw [run_load .initial] at hrun ⊢
    exact loadOn_follows l h [] name importer {} p s .initial .initial hrun
  exact ⟨hfollows h, fun h' p s => ⟨hfollows h p s, hfollows h' p s⟩⟩

def splitWidths : Capabilities :=
  { Capabilities.standard with packedIntegers := ⟨[⟨30, 64, by decide⟩, ⟨1, 40, by decide⟩]⟩ }

lemma standard_within_splitWidths : Capabilities.standard.Within splitWidths ∧
    splitWidths.Within Capabilities.standard := by
  have hsame : ∀ n, splitWidths.packedIntegers.contains n = Capabilities.standard.packedIntegers.contains n := by
    intro n
    rw [Bool.eq_iff_iff, SizeRanges.contains_iff, SizeRanges.contains_iff]
    simp only [splitWidths, Capabilities.standard, SizeRanges.between, List.mem_cons, List.not_mem_nil, or_false,
      exists_eq_or_imp, exists_eq_left]
    omega
  have hid : ∀ s : SizeRanges, s.Within s := fun _ _ hn => hn
  have hid' : ∀ m : MatrixShapes, m.Within m := fun _ => ⟨hid _, hid _⟩
  refine ⟨⟨hid _, hid _, ?_, hid _, hid _, hid _, hid' _, hid' _, hid _, hid _, fun _ h => h⟩,
    ⟨hid _, hid _, ?_, hid _, hid _, hid _, hid' _, hid' _, hid _, hid _, fun _ h => h⟩⟩
  · intro n hn
    rwa [hsame]
  · intro n hn
    rwa [← hsame]

lemma packed_record_loads_with_splitWidths : ∃ p s,
    (((Library.texts [(nestedName, "(package-begin n) (packed A [(field x (integer unsigned 3))" ++
      "(field y (integer signed 61))]) (package-end)")]).catalog splitWidths).load nestedName none).run {} =
        .ok (.ok p) s ∧ p.declarations.map Declaration.bits = [64] := by
  let l : Library := .texts [(nestedName, "(package-begin n) (packed A [(field x (integer unsigned 3))" ++
    "(field y (integer signed 61))]) (package-end)")]
  have hload : ((((l.catalog .standard).load nestedName none).result? {}).bind fun out =>
      out.1.toOption.map fun p => p.declarations.map Declaration.bits) = some [64] := by
    decide +kernel
  obtain ⟨⟨r, s⟩, hrun, hload⟩ := Option.bind_eq_some_iff.mp hload
  obtain ⟨p, hp, hbits⟩ := Option.map_eq_some_iff.mp hload
  obtain ⟨hwithin, _⟩ := standard_within_splitWidths
  cases r with
  | error e => cases hp
  | ok found =>
    cases hp
    exact ⟨p, s, (load_of_within hwithin l nestedName none).1 p s (Run.run_of_result? hrun), hbits⟩

end Library

end RecordSchema
