import RecordSchema.Proofs.Load.Cycle
import RecordSchema.Proofs.Load.Moment

namespace RecordSchema

def loadFailure (entry : PackageName × Option Position) : Diagnostic :=
  .resolution ⟨.packageLoadFailed entry.1, entry.2⟩

namespace FileState

variable {c : Capabilities} {load : Importer} {name : PackageName} {reading : Reading} {f f' : FileState}
  {product : Product} {e : Expr} {rest : List Expr} {s s' : Store}

lemma compile_cons_nothing (h : (f.feed c load e).run s = .ok (f', .nothing) s') :
    (f.compile c load name reading product (e :: rest)).run s = (f'.compile c load name reading product rest).run s' := by
  rw [compile, compile, feedAll]
  simp only [EStateM.run_bind, h]

lemma compile_cons_finished {package : Package} (h : (f.feed c load e).run s = .ok (f', .finished package) s') :
    (f.compile c load name reading none (e :: rest)).run s =
      (f'.compile c load name reading (some (package, e.position)) rest).run s' := by
  rw [compile, compile, feedAll]
  simp only [EStateM.run_bind, h]
  rfl

lemma compile_cons_abort (h : (f.feed c load e).run s = .ok (f', .abort) s') :
    (f.compile c load name reading none (e :: rest)).run s = .ok (.error (.failed name)) s' := by
  rw [compile, feedAll]
  simp only [EStateM.run_bind, h]
  rfl

end FileState

namespace Library

variable {l : Library} {c : Capabilities} {name : PackageName} {importer : Option Position} {s s' : Store}
  {m : Moment}

def Fails (l : Library) (c : Capabilities) (m : Moment) (s' : Store) : Prop :=
  ∃ name e, m.chain.names.getLast? = some name ∧
    (m.file.compile c ((l.catalog c).loadOn m.chain.names) name m.reading m.product m.rest).run m.store =
      .ok (.error e) s'

lemma chain_of_open? {chain : Chain} (h : l.open? chain name importer s = some m) :
    m.chain = chain ++ [(name, importer)] := by
  obtain ⟨_, _, _, _, _, _, _, _, rfl⟩ := open?_eq_some h
  rfl

lemma chain_of_advance? {m' : Moment} (h : l.advance? c m = some m') : m'.chain = m.chain := by
  obtain ⟨_, _, _, _, _, _, _, ⟨_, rfl⟩ | ⟨_, _, rfl⟩⟩ := advance?_eq_some h <;> rfl

lemma Passes.chain_eq (h : l.Passes c name importer s m) : ∃ inner, m.chain = (name, importer) :: inner := by
  induction h with
  | first opened => exact ⟨[], chain_of_open? opened⟩
  | next _ advanced ih => rwa [chain_of_advance? advanced]
  | inner _ _ opened ih =>
    obtain ⟨inner, hinner⟩ := ih
    rw [chain_of_open? opened, hinner]
    exact ⟨_, rfl⟩

lemma loadOn_of_fails {chain : Chain} (h : l.open? chain name importer s = some m) (hf : l.Fails c m s') :
    ((l.catalog c).loadOn chain.names name importer).run s =
      .ok (.error (.failed name)) (s'.leaving chain.names) := by
  obtain ⟨huncached, hfresh, fetch, file, text, s₁, hfetch, hrun, rfl⟩ := open?_eq_some h
  obtain ⟨last, e, hlast, hcompile⟩ := hf
  have hname : last = name := by simpa [Moment.first, Chain.names] using hlast.symm
  subst hname
  have hsupplier := supplier?_of_fetch (c := c) hfetch
  have hsupply : (Catalog.compiling c last fetch (fun other p => (l.catalog c).loadOn (chain.names ++ [last]) other p)
      importer).run (s.entering chain.names last importer) = .ok (.error e) s' := by
    rw [Catalog.compiling, EStateM.run_bind, hrun]
    simp only [Moment.first, Chain.names_concat] at hcompile
    exact hcompile
  rw [Catalog.loadOn_of_supplied huncached hfresh hsupplier, EStateM.run_bind, hsupply]
  rfl

lemma Passes.unwind (h : l.Passes c name importer s m) (hs : s.Idle c) : ∀ {s' : Store}, l.Fails c m s' →
    ∃ s'', ((l.catalog c).loadOn [] name importer).run s = .ok (.error (.failed name)) s'' ∧
      s''.packages = s'.packages ∧ s''.diagnostics = s'.diagnostics ++ m.chain.tail.reverse.map loadFailure := by
  induction h with
  | first opened =>
    intro s' hf
    refine ⟨_, loadOn_of_fails opened hf, rfl, ?_⟩
    rw [chain_of_open? opened]
    exact (List.append_nil _).symm
  | @next m m' passed advanced ih =>
    intro s' hf
    have hu := passed.underway hs
    have hchain := chain_of_advance? advanced
    rw [hchain]
    obtain ⟨last, error, hlast, hcompile⟩ := hf
    obtain ⟨e, rest, f, out, s₁, hrest, hrun, ⟨rfl, rfl⟩ | ⟨package, rfl, rfl⟩⟩ := advance?_eq_some advanced
    · refine ih ⟨last, error, hlast, ?_⟩
      rw [hrest, FileState.compile_cons_nothing hrun]
      exact hcompile
    · refine ih ⟨last, error, hlast, ?_⟩
      rw [hrest, (feed_after hu hrun).1, FileState.compile_cons_finished hrun]
      exact hcompile
  | @inner m m' package p passed asks opened ih =>
    intro s' hf
    obtain ⟨e, rest, qualifier, hrest, hasks⟩ := Moment.asks?_eq_some asks
    have hu := passed.underway hs
    -- The inner file comes to nothing, so the import that asked for it fails and ends the outer one.
    have hfeed := hasks.feed_of_failed (c := c) (loadOn_of_fails opened hf)
    obtain ⟨hproduct, _⟩ := feed_after hu hfeed
    obtain ⟨inner, hinner⟩ := passed.chain_eq
    obtain ⟨last, hlast⟩ : ∃ last, m.chain.names.getLast? = some last :=
      Option.isSome_iff_exists.mp (by simp [hinner, Chain.names])
    obtain ⟨s'', hload, hpackages, hdiagnostics⟩ := ih ⟨last, .failed last, hlast, by
      rw [hrest, hproduct, FileState.compile_cons_abort hfeed]⟩
    refine ⟨s'', hload, hpackages, ?_⟩
    rw [hdiagnostics, chain_of_open? opened, hinner]
    simp [Store.reporting, Store.leaving, loadFailure]

end Library

end RecordSchema
