import RecordSchema.Compile.Load
import RecordSchema.Proofs.Load.Complete

/-! Between two requests no load is going on, and every request is answered. -/

namespace RecordSchema

variable {c : Capabilities} {l : Library} {s s' : Store}

structure Store.Idle (c : Capabilities) (s : Store) : Prop where
  sound : s.Sound c
  trail : s.OnTrail []

lemma Store.Idle.drained (h : s.Idle c) : Store.Idle c { s with diagnostics := [] } :=
  ⟨h.sound.of_eq rfl rfl (Nat.le_refl _), h.trail.of_eq rfl rfl rfl⟩

namespace Library

lemma run_load (h : s.OnTrail []) (name : PackageName) (importer : Option Position) :
    ((l.catalog c).load name importer).run s = ((l.catalog c).loadOn [] name importer).run s := by
  rw [Catalog.load, EStateM.run_bind, EStateM.run_get]
  simp only [h.loading]
  rfl

lemma load_ends (h : s.Idle c) (name : PackageName) (importer : Option Position) :
    ((l.catalog c).load name importer).Ends s fun r s' => Loaded c [] name s r s' ∧ s'.Idle c :=
  .of_run_eq (run_load h.trail name importer) <|
    (l.loadOn_loads c [] name importer s h.sound h.trail).mono fun _ _ hr => ⟨hr, hr.sound, hr.back rfl⟩

lemma serve_ends : ∀ (requests : List Request) {s : Store}, s.Idle c →
    ((l.catalog c).serve requests).Ends s fun _ s' => s'.Idle c
  | [], s, h => .pure h
  | .load name importer :: rest, s, h => by
    rw [Catalog.serve]
    exact (load_ends h name importer).bind fun _ _ hr => serve_ends rest hr.2
  | .takeDiagnostics :: rest, s, h => by
    rw [Catalog.serve]
    have htake : Run.takeDiagnostics.Ends s fun _ s' => s'.Idle c := .of_run rfl h.drained
    exact htake.bind fun _ _ h => serve_ends rest h

lemma idle_of_serve {requests : List Request} (h : ((l.catalog c).serve requests).run {} = .ok () s) : s.Idle c :=
  (serve_ends requests ⟨.initial, .initial⟩).elim h

/-- Whatever the sources say and whatever is asked for in whichever order, no promise is broken. -/
theorem serve_meets_no_fault (c : Capabilities) (l : Library) (requests : List Request) :
    ∃ s, ((l.catalog c).serve requests).run {} = .ok () s := by
  obtain ⟨_, s, hrun, _⟩ := serve_ends (l := l) requests ⟨Store.Sound.initial (c := c), .initial⟩
  exact ⟨s, hrun⟩

end Library

end RecordSchema
