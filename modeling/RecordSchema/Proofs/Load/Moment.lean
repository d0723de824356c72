import RecordSchema.Proofs.Load.Session
import RecordSchema.Proofs.Table.Coherent

/-! The moments that a load passes: between any two expressions of a file, however deep the imports that led
to it. -/

namespace RecordSchema

/-- A place in the file of the package that is last on a chain. -/
structure Moment where
  chain : Chain
  reading : Reading
  file : FileState
  product : Product
  rest : List Expr
  store : Store

def Moment.first (chain : Chain) (reading : Reading) (store : Store) : Moment :=
  ⟨chain, reading, {}, none, reading.exprs, store⟩

def Moment.asks? (m : Moment) : Option (PackageName × Position) :=
  match m.rest with
  | [] => none
  | e :: _ =>
    match e.toStatement with
    | .ok (.importPackage package qualifier p) =>
      if m.file.scope.current?.isSome && (m.file.scope.imported? qualifier).isNone &&
          (m.file.scope.qualifierOf? package).isNone then some (package, p)
      else none
    | _ => none

lemma Moment.asks?_eq_some {m : Moment} {package : PackageName} {p : Position} (h : m.asks? = some (package, p)) :
    ∃ e rest qualifier, m.rest = e :: rest ∧ m.file.Asks e package qualifier p := by
  rw [asks?] at h
  split at h
  · cases h
  · next e rest hrest =>
    split at h
    · next package' qualifier p' hstatement =>
      split at h
      · next hfree =>
        cases h
        simp only [Bool.and_eq_true, Option.isNone_iff_eq_none] at hfree
        obtain ⟨current, hcurrent⟩ := Option.isSome_iff_exists.mp hfree.1.1
        have hstate : m.file.scope.state = .opened current := by
          rw [Scope.current?] at hcurrent
          split at hcurrent
          · next hstate =>
            cases hcurrent
            exact hstate
          · cases hcurrent
        exact ⟨e, rest, qualifier, hrest, hstatement, ⟨current, hstate⟩, hfree.1.2, hfree.2⟩
      · cases h
    · cases h

lemma Moment.asks?_of_asks {m : Moment} {e : Expr} {rest : List Expr} {package : PackageName} {qualifier : Segment}
    {p : Position} (hrest : m.rest = e :: rest) (h : m.file.Asks e package qualifier p) :
    m.asks? = some (package, p) := by
  obtain ⟨current, hstate⟩ := h.opened
  rw [asks?, hrest]
  simp [h.statement, h.qualifier_free, h.package_free, Scope.current?, hstate]

namespace Library

variable (l : Library) (c : Capabilities)

def open? (chain : Chain) (name : PackageName) (importer : Option Position) (s : Store) : Option Moment :=
  if (s.package? name).isSome || chain.names.contains name then none
  else
    match l.fetch? name with
    | none => none
    | some fetch =>
      match fetch.run (s.entering chain.names name importer) with
      | .ok (.ok (file, text)) s' => some (.first (chain ++ [(name, importer)]) (Expr.read file text) s')
      | _ => none

def advance? (m : Moment) : Option Moment :=
  match m.rest with
  | [] => none
  | e :: rest =>
    match (m.file.feed c ((l.catalog c).loadOn m.chain.names) e).run m.store with
    | .ok (f, .nothing) s' => some { m with file := f, rest, store := s' }
    | .ok (f, .finished package) s' =>
      some { m with file := f, product := some (package, e.position), rest, store := s' }
    | _ => none

/-- The moments that the loading of a package passes. -/
inductive Passes (name : PackageName) (importer : Option Position) (s : Store) : Moment → Prop
  | first {m : Moment} (opened : l.open? [] name importer s = some m) : Passes name importer s m
  | next {m m' : Moment} (passed : Passes name importer s m) (advanced : l.advance? c m = some m') :
      Passes name importer s m'
  | inner {m m' : Moment} {package : PackageName} {p : Position} (passed : Passes name importer s m)
      (asks : m.asks? = some (package, p)) (opened : l.open? m.chain package (some p) m.store = some m') :
      Passes name importer s m'

/-- The stores that there are between requests, at the moments of a load, and right after an import that has
failed. -/
inductive Reached : Store → Prop
  | served {requests : List Request} {s : Store} (ran : ((l.catalog c).serve requests).run {} = .ok () s) : Reached s
  | passed {requests : List Request} {s : Store} {name : PackageName} {importer : Option Position} {m : Moment}
      (ran : ((l.catalog c).serve requests).run {} = .ok () s) (passes : l.Passes c name importer s m) : Reached m.store
  | failed {requests : List Request} {s : Store} {name : PackageName} {importer : Option Position} {m : Moment}
      {e : Expr} {rest : List Expr} {f : FileState} {s' : Store}
      (ran : ((l.catalog c).serve requests).run {} = .ok () s) (passes : l.Passes c name importer s m)
      (rest_eq : m.rest = e :: rest)
      (aborted : (m.file.feed c ((l.catalog c).loadOn m.chain.names) e).run m.store = .ok (f, .abort) s') : Reached s'

variable {l c} {name : PackageName} {importer : Option Position} {s : Store} {m : Moment}

lemma open?_eq_some {chain : Chain} (h : l.open? chain name importer s = some m) :
    s.package? name = none ∧ name ∉ chain.names ∧ ∃ fetch file text s', l.fetch? name = some fetch ∧
      fetch.run (s.entering chain.names name importer) = .ok (.ok (file, text)) s' ∧
      m = .first (chain ++ [(name, importer)]) (Expr.read file text) s' := by
  rw [open?] at h
  split at h
  · cases h
  · next hfree =>
    simp only [Bool.or_eq_true, not_or, Bool.not_eq_true, Option.isSome_eq_false_iff, Option.isNone_iff_eq_none,
      List.contains_eq_mem, decide_eq_false_iff_not] at hfree
    split at h
    · cases h
    · next fetch hfetch =>
      split at h
      · next file text s' hrun =>
        cases h
        exact ⟨hfree.1, hfree.2, fetch, file, text, s', hfetch, hrun, rfl⟩
      · cases h

lemma advance?_eq_some {m' : Moment} (h : l.advance? c m = some m') : ∃ e rest f out s', m.rest = e :: rest ∧
    (m.file.feed c ((l.catalog c).loadOn m.chain.names) e).run m.store = .ok (f, out) s' ∧
      (out = .nothing ∧ m' = { m with file := f, rest, store := s' } ∨ ∃ package, out = .finished package ∧
        m' = { m with file := f, product := some (package, e.position), rest, store := s' }) := by
  rw [advance?] at h
  split at h
  · cases h
  · next e rest hrest =>
    split at h
    · next f s' hrun =>
      cases h
      exact ⟨e, rest, f, _, s', hrest, hrun, .inl ⟨rfl, rfl⟩⟩
    · next f package s' hrun =>
      cases h
      exact ⟨e, rest, f, _, s', hrest, hrun, .inr ⟨package, rfl, rfl⟩⟩
    · cases h

lemma advance?_of_nothing {e : Expr} {rest : List Expr} {f : FileState} {s' : Store} (hrest : m.rest = e :: rest)
    (hrun : (m.file.feed c ((l.catalog c).loadOn m.chain.names) e).run m.store = .ok (f, .nothing) s') :
    l.advance? c m = some { m with file := f, rest, store := s' } := by
  rw [advance?, hrest]
  simp only [hrun]

lemma advance?_of_finished {e : Expr} {rest : List Expr} {f : FileState} {package : Package} {s' : Store}
    (hrest : m.rest = e :: rest)
    (hrun : (m.file.feed c ((l.catalog c).loadOn m.chain.names) e).run m.store = .ok (f, .finished package) s') :
    l.advance? c m = some { m with file := f, product := some (package, e.position), rest, store := s' } := by
  rw [advance?, hrest]
  simp only [hrun]

lemma open?_of_fetched {chain : Chain} {fetch : Fetch} {file : FileId} {text : String} {s' : Store}
    (huncached : s.package? name = none) (hfresh : name ∉ chain.names) (hfetch : l.fetch? name = some fetch)
    (hrun : fetch.run (s.entering chain.names name importer) = .ok (.ok (file, text)) s') :
    l.open? chain name importer s = some (.first (chain ++ [(name, importer)]) (Expr.read file text) s') := by
  rw [open?, if_neg (by simp [huncached, hfresh]), hfetch]
  simp only [hrun]

lemma underway_of_open? {chain : Chain} (h : l.open? chain name importer s = some m) (hs : s.Sound c)
    (ht : s.OnTrail chain) : m.file.Underway c m.chain m.store m.product := by
  obtain ⟨huncached, hfresh, fetch, file, text, s', hfetch, hrun, rfl⟩ := open?_eq_some h
  have hsound := hs.entering chain.names name importer
  have htrail : (s.entering chain.names name importer).OnTrail (chain ++ [(name, importer)]) :=
    ht.enter huncached hfresh
  cases (fetch_ends hfetch _).elim hrun with
  | read found sources => exact .initial (hsound.of_eq rfl rfl (Nat.le_refl _)) (htrail.of_eq rfl rfl rfl)

lemma feed_after {e : Expr} {r : FileState × Outcome} {s' : Store}
    (h : m.file.Underway c m.chain m.store m.product)
    (hrun : (m.file.feed c ((l.catalog c).loadOn m.chain.names) e).run m.store = .ok r s') :
    FileState.After c m.chain m.store m.product e.position r s' :=
  ((h.feed_ends (l.loadOn_loads c m.chain) e).elim hrun).2

lemma Passes.underway (h : l.Passes c name importer s m) (hs : s.Idle c) :
    m.file.Underway c m.chain m.store m.product := by
  induction h with
  | first opened => exact underway_of_open? opened hs.sound hs.trail
  | next _ advanced ih =>
    obtain ⟨e, rest, f, out, s', _, hrun, ⟨rfl, rfl⟩ | ⟨package, rfl, rfl⟩⟩ := advance?_eq_some advanced
    · exact (feed_after ih hrun).1
    · exact (feed_after ih hrun).2.1
  | inner _ _ opened ih => exact underway_of_open? opened ih.store ih.trail

lemma Reached.sound (h : l.Reached c s) : s.Sound c := by
  cases h with
  | served ran => exact (idle_of_serve ran).sound
  | passed ran passes => exact (passes.underway (idle_of_serve ran)).store
  | failed ran passes _ aborted => exact (feed_after (passes.underway (idle_of_serve ran)) aborted).2.1

/-- In every store that is reached, types agree with the declarations that they stand for. -/
theorem coherent_of_reached (h : l.Reached c s) : s.types.Coherent :=
  h.sound.grown.coherent

def nestedName : PackageName := ⟨[⟨"n", by decide +kernel⟩], List.cons_ne_nil _ _⟩

def nestedRecords : Library :=
  .texts [(nestedName, "(package-begin n) (record A [(field x (integer unsigned 8))]) (record B [(field a A)])")]

lemma nested_records_coherent : ∃ s, nestedRecords.Reached {} s ∧ s.types.declarations.length = 2 ∧
    (s.types.declarations.flatMap Declaration.mentions).length = 1 ∧ s.types.Coherent := by
  have hserve : ((nestedRecords.catalog {}).serve []).run {} = .ok () {} := rfl
  have hmoments : ((((nestedRecords.open? [] nestedName none {}).bind (nestedRecords.advance? {})).bind
      (nestedRecords.advance? {})).bind (nestedRecords.advance? {})).map (fun m =>
        (m.store.types.declarations.length, (m.store.types.declarations.flatMap Declaration.mentions).length)) =
          some (2, 1) := by
    decide +kernel
  obtain ⟨m, hm, hlengths⟩ := Option.map_eq_some_iff.mp hmoments
  obtain ⟨m₂, hm, h₃⟩ := Option.bind_eq_some_iff.mp hm
  obtain ⟨m₁, hm, h₂⟩ := Option.bind_eq_some_iff.mp hm
  obtain ⟨m₀, h₀, h₁⟩ := Option.bind_eq_some_iff.mp hm
  obtain ⟨hdeclarations, hmentions⟩ := Prod.mk.inj hlengths
  have hreached : nestedRecords.Reached {} m.store := .passed hserve ((((Passes.first h₀).next h₁).next h₂).next h₃)
  exact ⟨m.store, hreached, hdeclarations, hmentions, coherent_of_reached hreached⟩

end Library

end RecordSchema
