import RecordSchema.Proofs.Load.Enacted
import RecordSchema.Proofs.Load.Steps

/-! The scope of a file and its collector tell the same story: that of the statements accepted so far. -/

namespace RecordSchema

variable {c : Capabilities} {l : Library} {chain : Chain} {load : Importer} {f : FileState} {e : Expr} {s s' : Store}
  {statement : Statement} {r : FileState × Outcome}

def Statement.isInner : Statement → Bool
  | packageBegin .. => false
  | packageEnd _ => false
  | _ => true

def WholeFile (statements : List Statement) : Prop :=
  ∃ name p inner q, statements = .packageBegin name p :: (inner ++ [.packageEnd q]) ∧
    ∀ statement ∈ inner, statement.isInner = true

def Statement.entered (s s' : Store) : Statement → Option Declaration
  | define _ => s'.types.declarations[s.types.declarations.length]?
  | _ => none

structure Accepted where
  statement : Statement
  declared : Option Declaration

def Accepted.Fits (a : Accepted) : Prop :=
  match a.statement with
  | .define d => ∃ r, a.declared = some r ∧ r.name = d.name
  | _ => a.declared = none

inductive FileState.Logged (f : FileState) : List Accepted → Prop
  | unopened (state : f.scope.state = .unopened) (types : f.scope.types.pairs = []) : Logged f []
  | opened {name : PackageName} {p : Position} {inner : List Accepted} (state : f.scope.state = .opened name)
      (between : ∀ a ∈ inner, a.statement.isInner = true)
      (collected : f.collector.declarations = inner.filterMap Accepted.declared)
      (types : f.scope.types.pairs = f.collector.declarations.map fun d => (d.name, d.identifier)) :
      Logged f (⟨.packageBegin name p, none⟩ :: inner)
  | closed {name : PackageName} {p q : Position} {inner : List Accepted} (state : f.scope.state = .closed name)
      (between : ∀ a ∈ inner, a.statement.isInner = true) :
      Logged f (⟨.packageBegin name p, none⟩ :: (inner ++ [⟨.packageEnd q, none⟩]))

structure Package.Holds (log : List Accepted) (package : Package) : Prop where
  begun : ∃ p, log.head? = some ⟨.packageBegin package.name p, none⟩
  declarations : package.declarations = log.filterMap Accepted.declared
  nodup : (package.declarations.map Declaration.name).Nodup
  package_eq : ∀ d ∈ package.declarations, d.package = package.name

/-- What the scope of a file and its collector agree on, and which statements have been accepted. -/
structure FileState.InStep (c : Capabilities) (log : List Accepted) (f : FileState) (s : Store) : Prop where
  opened : ∀ package, f.collector.opened = some package ↔ f.scope.state = .opened package
  names : ∀ package, f.scope.state = .opened package → ∀ name i, f.scope.type? name = some i ↔
    ∃ d, f.collector.declarations.find? (·.name = name) = some d ∧ d.identifier = i ∧ s.types.find? i = some d
  commits : ∀ (d : Definition Mention) package found r, d.resolve s.types f.scope = .ok (package, found) →
    Check.declaration c s.types ⟨s.nextIdentifier⟩ package found = .ok r → ∃ scope, f.scope.commit r = .ok scope
  whole : ∃ whole, WholeFile whole ∧ log.map Accepted.statement <+: whole
  fits : ∀ a ∈ log, a.Fits

namespace FileState

variable {log : List Accepted}

namespace Logged

lemma results (h : f.Logged log) (results : List CommandResult) : ({ f with results } : FileState).Logged log := by
  cases h with
  | unopened state types => exact .unopened state types
  | opened state between collected types => exact .opened state between collected types
  | closed state between => exact .closed state between

lemma inner {f' : FileState} {current : PackageName} {declared : Option Declaration} (h : f.Logged log)
    (hcurrent : f.scope.state = .opened current) (hstate : f'.scope.state = .opened current)
    (hinner : statement.isInner = true)
    (hcollected : f'.collector.declarations = f.collector.declarations ++ declared.toList)
    (htypes : f'.scope.types.pairs = f.scope.types.pairs ++ declared.toList.map fun d => (d.name, d.identifier)) :
    f'.Logged (log ++ [⟨statement, declared⟩]) := by
  cases h with
  | unopened state => cases hcurrent.symm.trans state
  | closed state => cases hcurrent.symm.trans state
  | @opened name p inner state between collected types =>
    cases hcurrent.symm.trans state
    rw [List.cons_append]
    refine .opened hstate ?_ ?_ ?_
    · intro a ha
      rcases List.mem_append.mp ha with ha | ha
      · exact between a ha
      · rw [List.mem_singleton.mp ha]
        exact hinner
    · rw [hcollected, collected, List.filterMap_append]
      cases declared <;> rfl
    · rw [htypes, hcollected, types, List.map_append]

lemma define {d : Declaration} {scope : Scope} (h : f.Logged log) (hopened : f.scope.state = .opened d.package)
    (hinner : statement.isInner = true) (hbound : f.scope.defineType d = .ok scope) :
    (⟨scope, f.collector.add d, f.results⟩ : FileState).Logged (log ++ [⟨statement, some d⟩]) := by
  have hfresh : ∀ e ∈ f.collector.declarations, e.name ≠ d.name := by
    intro e he heq
    cases h with
    | unopened state => cases hopened.symm.trans state
    | closed state => cases hopened.symm.trans state
    | opened _ _ _ types =>
      apply Scope.not_mem_keys_of_defineType hbound
      rw [OneToOne.keys, types, List.map_map]
      exact List.mem_map.mpr ⟨e, he, heq⟩
  have hpairs := Scope.pairs_of_defineType hbound
  obtain ⟨types, _, rfl⟩ := Scope.exists_of_defineType hbound
  exact h.inner hopened hopened hinner (upsert_of_fresh hfresh) hpairs

lemma enact (h : f.Logged log) (hr : f.Enacted load s statement r s') :
    r.1.Logged (log ++ [⟨statement, statement.entered s s'⟩]) ∧ Accepted.Fits ⟨statement, statement.entered s s'⟩ := by
  cases hr with
  | begun unopened =>
    cases h with
    | unopened _ types =>
      refine ⟨.opened rfl ?_ rfl types, rfl⟩
      rintro a ⟨⟩
    | opened state => cases unopened.symm.trans state
    | closed state => cases unopened.symm.trans state
  | ended opened =>
    cases h with
    | unopened state => cases opened.symm.trans state
    | opened state between =>
      cases opened.symm.trans state
      exact ⟨.closed rfl between, rfl⟩
    | closed state => cases opened.symm.trans state
  | imported opened _ bound =>
    obtain ⟨qualifiers, _, rfl⟩ := Scope.exists_of_bindImport bound
    exact ⟨h.inner opened opened rfl (List.append_nil _).symm (List.append_nil _).symm, rfl⟩
  | @defined d r scope opened name_eq _ bound =>
    have hentered : (Statement.define d).entered s (s.declaring r) = some r := by
      rw [Statement.entered, Store.declaring]
      exact List.getElem?_concat_length
    rw [hentered]
    exact ⟨h.define opened rfl bound, r, rfl, name_eq⟩
  | shown opened command =>
    obtain ⟨hinner, hentered, hfits⟩ : statement.isInner = true ∧ statement.entered s s = none ∧
        Accepted.Fits ⟨statement, none⟩ := by
      cases statement with
      | showType | showSize => exact ⟨rfl, rfl, rfl⟩
      | packageBegin | packageEnd | importPackage | define => cases command
    rw [hentered]
    exact ⟨h.inner opened opened hinner (List.append_nil _).symm (List.append_nil _).symm, hfits⟩

lemma whole (h : f.Logged log) : ∃ whole, WholeFile whole ∧ log.map Accepted.statement <+: whole := by
  have hinner : ∀ {inner : List Accepted}, (∀ a ∈ inner, a.statement.isInner = true) →
      ∀ statement ∈ inner.map Accepted.statement, statement.isInner = true := by
    intro inner h statement hmem
    obtain ⟨a, ha, rfl⟩ := List.mem_map.mp hmem
    exact h a ha
  cases h with
  | unopened =>
    -- Any package would do.
    exact ⟨_, ⟨Library.nestedName, default, [], default, rfl, by simp⟩, List.nil_prefix⟩
  | @opened name p inner _ between =>
    refine ⟨_, ⟨name, p, inner.map Accepted.statement, p, rfl, hinner between⟩, ?_⟩
    rw [List.map_cons, List.prefix_cons_inj]
    apply List.prefix_append
  | @closed name p q inner _ between =>
    refine ⟨_, ⟨name, p, inner.map Accepted.statement, q, rfl, hinner between⟩, ?_⟩
    rw [List.map_cons, List.map_append]
    exact List.prefix_rfl

lemma type?_eq {package : PackageName} (h : f.Logged log) (hopened : f.scope.state = .opened package)
    (name : TypeName) : f.scope.type? name =
      (f.collector.declarations.find? (·.name = name)).map Declaration.identifier := by
  cases h with
  | unopened state => cases hopened.symm.trans state
  | closed state => cases hopened.symm.trans state
  | opened _ _ _ types =>
    rw [Scope.type?, OneToOne.value?, types, List.find?_map, Option.map_map]
    rfl

lemma inStep (h : f.Logged log) (hfits : ∀ a ∈ log, a.Fits) (hs : s.Sound c) (hf : f.Sound s) : f.InStep c log s where
  opened package := by
    rw [hf.opened, Scope.current?]
    cases f.scope.state <;> simp
  names package hopened name i := by
    rw [h.type?_eq hopened, Option.map_eq_some_iff]
    constructor
    · rintro ⟨d, hd, rfl⟩
      have hmem := (hf.collected d (List.mem_of_find?_eq_some hd)).1
      exact ⟨d, hd, rfl, hs.grown.find?_eq d hmem⟩
    · rintro ⟨d, hd, hi, _⟩
      exact ⟨d, hd, hi⟩
  commits d package found r hd hr := by
    rcases define_cases (c := c) hs hf d with ⟨found', r', scope, hd', hr', _, _, _, _, hscope⟩ |
      ⟨_, _, error, hd', herror⟩ | ⟨error, herror⟩
    · cases hd.symm.trans hd'
      cases hr.symm.trans hr'
      refine ⟨scope, ?_⟩
      rw [Scope.commit, hscope]
      rfl
    · cases hd.symm.trans hd'
      cases hr.symm.trans herror
    · cases hd.symm.trans herror
  whole := h.whole
  fits := hfits

lemma holds {name : PackageName} (h : f.Logged log) (hf : f.Sound s) (hopened : f.scope.state = .opened name) :
    Package.Holds log ⟨name, f.collector.declarations⟩ := by
  cases h with
  | unopened state => cases hopened.symm.trans state
  | closed state => cases hopened.symm.trans state
  | @opened _ p inner state _ collected types =>
    cases hopened.symm.trans state
    refine ⟨⟨p, rfl⟩, collected, ?_, fun d hd => ?_⟩
    · have hnodup := f.scope.types.keys_nodup
      rwa [types, List.map_map] at hnodup
    · have hstate := (hf.collected d hd).2
      cases hopened.symm.trans hstate
      rfl

end Logged

end FileState

namespace Library

variable {log : List Accepted}

/-- What one file may go through: expressions are fed to it one after the other, over a store with which other things
happen in the meantime. All that it has accepted is on record. After an import that has failed, only a file that is
taken through by hand goes on. -/
inductive Course (l : Library) (c : Capabilities) (chain : Chain) : List Accepted → FileState → Store → Prop
  | opened {s : Store} (visited : l.Visited c chain s) : Course l c chain [] {} s
  | accepted {log : List Accepted} {f : FileState} {e : Expr} {statement : Statement} {r : FileState × Outcome}
      {s s' : Store} (course : Course l c chain log f s) (statement_eq : e.toStatement = .ok statement)
      (accepts : f.Accepts c (l.catalog c).load e s) (ran : (f.feed c (l.catalog c).load e).run s = .ok r s') :
      Course l c chain (log ++ [⟨statement, statement.entered s s'⟩]) r.1 s'
  | rejected {log : List Accepted} {f : FileState} {e : Expr} {r : FileState × Outcome} {s s' : Store}
      (course : Course l c chain log f s) (rejects : ¬ f.Accepts c (l.catalog c).load e s)
      (ran : (f.feed c (l.catalog c).load e).run s = .ok r s') (continues : r.2 ≠ .abort ∨ chain = []) :
      Course l c chain log r.1 s'
  | meanwhile {log : List Accepted} {f : FileState} {s s' : Store} (course : Course l c chain log f s)
      (visited : l.Visited c chain s') (grows : s.Grows s') : Course l c chain log f s'
  | emptied {log : List Accepted} {f : FileState} {s : Store} (course : Course l c chain log f s) :
      Course l c chain log { f with results := [] } s

namespace Course

lemma not_abort (h : f.Enacted load s statement r s') : r.2 ≠ .abort := by
  cases h <;> rintro ⟨⟩

lemma ready (h : l.Course c chain log f s) : f.Ready c chain s := by
  induction h with
  | opened visited => exact ⟨visited.sound.1, visited.sound.2, .initial, .initial⟩
  | accepted _ statement_eq accepts ran ih =>
    have henacted := ih.enacted (load_loads l c chain) statement_eq accepts ran
    exact (ih.of_feed (load_loads l c chain) ran (.inl (not_abort henacted))).1
  | rejected _ _ ran continues ih => exact (ih.of_feed (load_loads l c chain) ran continues).1
  | meanwhile _ visited grows ih => exact ih.mono visited.sound.1 visited.sound.2 grows
  | emptied _ ih => exact ⟨ih.store, ih.trail, ⟨ih.file.scope, ih.file.opened, ih.file.collected⟩, ih.linked⟩

lemma eq_of_rejects (h : f.Ready c chain s) (hr : (f.feed c (l.catalog c).load e).run s = .ok r s')
    (hrejects : ¬ f.Accepts c (l.catalog c).load e s) : r.1 = f := by
  cases (h.feed_verdict (load_loads l c chain) e).elim hr with
  | accepted accepts => exact absurd accepts hrejects
  | rejected => rfl
  | missed => rfl

lemma logged (h : l.Course c chain log f s) : f.Logged log ∧ ∀ a ∈ log, a.Fits := by
  induction h with
  | opened => exact ⟨.unopened rfl rfl, by simp⟩
  | accepted course statement_eq accepts ran ih =>
    have henacted := course.ready.enacted (load_loads l c chain) statement_eq accepts ran
    obtain ⟨hlogged, hfits⟩ := ih.1.enact henacted
    refine ⟨hlogged, fun a ha => ?_⟩
    rcases List.mem_append.mp ha with ha | ha
    · exact ih.2 a ha
    · rw [List.mem_singleton.mp ha]
      exact hfits
  | rejected course rejects ran _ ih =>
    rw [eq_of_rejects course.ready ran rejects]
    exact ih
  | meanwhile _ _ _ ih => exact ih
  | emptied _ ih => exact ⟨ih.1.results [], ih.2⟩

lemma exists_feed (h : l.Course c chain log f s) (hr : (f.feed c (l.catalog c).load e).run s = .ok r s')
    (hcontinues : r.2 ≠ .abort ∨ chain = []) : ∃ log', l.Course c chain log' r.1 s' := by
  by_cases haccepts : f.Accepts c (l.catalog c).load e s
  · obtain ⟨statement, _, _, _, hstatement, _⟩ := id haccepts
    exact ⟨_, h.accepted hstatement haccepts hr⟩
  · exact ⟨log, h.rejected haccepts hr hcontinues⟩

end Course

lemma Desk.exists_course {files : List FileState} (h : l.Desk c files s) : ∀ f ∈ files, ∃ log, l.Course c [] log f s := by
  have hmeanwhile : ∀ {files : List FileState} {s s' : Store}, (∀ f ∈ files, ∃ log, l.Course c [] log f s) →
      l.Visited c [] s' → s.Grows s' → ∀ f ∈ files, ∃ log, l.Course c [] log f s' := by
    intro files s s' ih hvisited hgrows f hf
    obtain ⟨log, hcourse⟩ := ih f hf
    exact ⟨log, hcourse.meanwhile hvisited hgrows⟩
  induction h with
  | empty => rintro f ⟨⟩
  | loaded desk ran ih =>
    have hidle := desk.ready.1
    have hloaded := (load_loads l c [] _ _ _ hidle.sound hidle.trail).elim ran
    exact hmeanwhile ih (.between (.loaded desk ran)) hloaded.grows
  | drained desk ih => exact hmeanwhile ih (.between (.drained desk)) (.of_eq rfl rfl (Nat.le_refl _))
  | opened desk ih =>
    intro f hf
    rcases List.mem_append.mp hf with hf | hf
    · exact ih f hf
    · rw [List.mem_singleton.mp hf]
      exact ⟨[], .opened (.between desk)⟩
  | @fed before after f e r s s' desk ran ih =>
    have hready := desk.ready.2 f (List.mem_append_right _ List.mem_cons_self)
    have hgrows := (hready.of_feed (load_loads l c []) ran (.inr rfl)).2
    intro g hg
    rcases FileState.mem_of_mem_exchanged hg with rfl | hg
    · obtain ⟨log, hcourse⟩ := ih f (List.mem_append_right _ List.mem_cons_self)
      exact hcourse.exists_feed ran (.inr rfl)
    · exact hmeanwhile ih (.between (.fed desk ran)) hgrows g hg
  | ended desk mem ran ih =>
    have hgrows : Store.Grows _ _ := (FileState.aside_of_finish ran (l := l)).grows
    exact hmeanwhile ih (.between (.ended desk mem ran)) hgrows
  | @emptied before after f s _ ih =>
    intro g hg
    rcases FileState.mem_of_mem_exchanged hg with rfl | hg
    · obtain ⟨log, hcourse⟩ := ih f (List.mem_append_right _ List.mem_cons_self)
      exact ⟨log, hcourse.emptied⟩
    · exact ih g hg

lemma Passes.exists_course {files : List FileState} {name : PackageName} {importer : Option Position} {m : Moment}
    (h : l.Passes c name importer s m) (hs : l.Desk c files s) : ∃ log, l.Course c m.chain log m.file m.store := by
  induction h with
  | first opened =>
    rw [(begins_of_open? opened).1]
    exact ⟨[], .opened (.during hs (.first opened))⟩
  | @next m m' passed advanced ih =>
    obtain ⟨log, hcourse⟩ := ih
    have htrail := hcourse.ready.trail
    obtain ⟨e, rest, f, out, s', _, hrun, heq⟩ := advance?_eq_some advanced
    rw [← FileState.feed_congr (run_load_on htrail)] at hrun
    rcases heq with ⟨rfl, rfl⟩ | ⟨package, rfl, rfl⟩
    · exact hcourse.exists_feed hrun (.inl nofun)
    · exact hcourse.exists_feed hrun (.inl nofun)
  | inner passed asks opened =>
    rw [(begins_of_open? opened).1]
    exact ⟨[], .opened (.during hs (passed.inner asks opened))⟩

lemma Met.exists_course (h : l.Met c chain f s) : ∃ log, l.Course c chain log f s := by
  cases h with
  | byHand desk mem => exact desk.exists_course f mem
  | loading desk passes => exact passes.exists_course desk

/-- In whichever order packages are begun and ended, types declared and packages imported, rightly or not, the two
sides of a file stay in step, and so they do after an import that fails. -/
theorem course_in_step (h : l.Course c chain log f s) : f.InStep c log s ∧ ∀ e, ∃ f' out s',
    (f.feed c (l.catalog c).load e).run s = .ok (f', out) s' ∧ (out = .abort → f'.InStep c log s') ∧
      ∀ package, out = .finished package → package.Holds log := by
  have hready := h.ready
  obtain ⟨hlogged, hfits⟩ := h.logged
  refine ⟨hlogged.inStep hfits hready.store hready.file, fun e => ?_⟩
  obtain ⟨⟨f', out⟩, s', hrun, hfed⟩ := hready.feed_ends (load_loads l c chain) e
  refine ⟨f', out, s', hrun, ?_, ?_⟩
  · rintro rfl
    have hafter := hfed.after hready.underway (load_loads l c chain)
    cases hfed with
    | failed =>
      obtain ⟨_, hsound, hgrows, _⟩ := hafter
      exact hlogged.inStep hfits hsound (hready.file.mono hgrows)
  · rintro package rfl
    cases hfed with
    | ended opened => exact hlogged.holds hready.file opened

def feedEach (l : Library) (c : Capabilities) : FileState → Store → List Expr → Option (FileState × Store)
  | f, s, [] => some (f, s)
  | f, s, e :: rest =>
    match (f.feed c (l.catalog c).load e).run s with
    | .ok (f, _) s => l.feedEach c f s rest
    | .error .. => none

lemma Desk.feedEach {es : List Expr} {f' : FileState} (h : l.Desk c [f] s)
    (hfeeds : l.feedEach c f s es = some (f', s')) : l.Desk c [f'] s' := by
  induction es generalizing f s with
  | nil =>
    cases hfeeds
    exact h
  | cons e rest ih =>
    rw [Library.feedEach] at hfeeds
    split at hfeeds
    · next f₁ _ s₁ hrun =>
      have hfed : l.Desk c ([] ++ f₁ :: []) s₁ := .fed h hrun
      exact ih hfed hfeeds
    · cases hfeeds

def repeatedRecord : List Expr :=
  (Expr.read ⟨0⟩ "(package-begin n) (record A []) (record A []) (package-begin n)").exprs

def packageEnd : List Expr :=
  (Expr.read ⟨0⟩ "(package-end)").exprs

def handedOut? : Outcome → Option Package
  | .finished package => some package
  | .nothing | .abort => none

lemma repeated_record_in_step : ∃ log f s e f' package s', (Library.texts []).Course {} [] log f s ∧ f.InStep {} log s ∧
    (f.feed {} ((Library.texts []).catalog {}).load e).run s = .ok (f', .finished package) s' ∧ package.Holds log ∧
      s.diagnostics.length = 2 ∧ package.declarations.length = 1 := by
  have hends : (((Library.texts []).feedEach {} {} {} repeatedRecord).bind fun reached => packageEnd.head?.bind fun e =>
      ((reached.1.feed {} ((Library.texts []).catalog {}).load e).result? reached.2).bind fun fed =>
        (handedOut? fed.1.2).map fun package => (reached.2.diagnostics.length, package.declarations.length)) =
          some (2, 1) := by
    decide +kernel
  obtain ⟨⟨f, s⟩, hfeeds, hends⟩ := Option.bind_eq_some_iff.mp hends
  obtain ⟨e, _, hends⟩ := Option.bind_eq_some_iff.mp hends
  obtain ⟨⟨⟨f', out⟩, s'⟩, hfed, hends⟩ := Option.bind_eq_some_iff.mp hends
  obtain ⟨package, hpackage, hlengths⟩ := Option.map_eq_some_iff.mp hends
  have hdesk : (Library.texts []).Desk {} [f] s := (Desk.opened .empty).feedEach hfeeds
  obtain ⟨log, hcourse⟩ := hdesk.exists_course f List.mem_cons_self
  obtain ⟨hstep, hfeed⟩ := course_in_step hcourse
  obtain ⟨_, _, _, hrun, _, hholds⟩ := hfeed e
  cases (Run.run_of_result? hfed).symm.trans hrun
  obtain ⟨hdiagnostics, hdeclarations⟩ := Prod.mk.inj hlengths
  cases out with
  | finished found =>
    cases hpackage
    exact ⟨log, f, s, e, f', package, s', hcourse, hstep, hrun, hholds package rfl, hdiagnostics, hdeclarations⟩
  | nothing | abort => cases hpackage

end Library

end RecordSchema
