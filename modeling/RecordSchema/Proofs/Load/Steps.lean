import RecordSchema.Proofs.Load.Request
import RecordSchema.Proofs.Load.Desk
import Mathlib.Logic.Relation

namespace RecordSchema

variable {c : Capabilities} {l : Library} {E : List Package → Package → Prop} {chain : Chain} {name : PackageName}
  {importer : Option Position} {load : Importer} {s s' : Store} {m : Moment}

namespace Store

inductive Step (l : Library) (E : List Package → Package → Prop) (s : Store) : Store → Prop
  | aside {s' : Store} (aside : s.Aside l s') : Step l E s s'
  | declared {d : Declaration} (identifier_eq : d.identifier = ⟨s.nextIdentifier⟩) : Step l E s (s.declaring d)
  | kept {package : Package} (fresh : s.package? package.name = none) (evidence : E s.packages package) :
      Step l E s { s with packages := s.packages ++ [package] }

def Steps (l : Library) (E : List Package → Package → Prop) : Store → Store → Prop :=
  Relation.ReflTransGen (Step l E)

namespace Steps

variable {s'' : Store}

lemma refl (s : Store) : s.Steps l E s :=
  Relation.ReflTransGen.refl

lemma trans (h : s.Steps l E s') (h' : s'.Steps l E s'') : s.Steps l E s'' :=
  Relation.ReflTransGen.trans h h'

lemma aside (h : s.Aside l s') : s.Steps l E s' :=
  Relation.ReflTransGen.single (.aside h)

lemma declared {d : Declaration} (h : d.identifier = ⟨s.nextIdentifier⟩) : s.Steps l E (s.declaring d) :=
  Relation.ReflTransGen.single (.declared h)

lemma kept {package : Package} (h : s.package? package.name = none) (he : E s.packages package) :
    s.Steps l E { s with packages := s.packages ++ [package] } :=
  Relation.ReflTransGen.single (.kept h he)

lemma filed (h : s.Steps l E s') (hs : s.sources.Filed l) : s'.sources.Filed l := by
  induction h with
  | refl => exact hs
  | tail _ step ih =>
    cases step with
    | aside aside => exact aside.filed ih
    | declared | kept => exact ih

end Steps

end Store

namespace FileState

variable {f : FileState} {e : Expr}

lemma aside_of_finish {eof : Position} (h : (f.finish eof).run s = .ok () s') : s.Aside l s' := by
  rcases finish_run h with rfl | ⟨d, rfl⟩
  · exact .refl _
  · exact .reporting s d

lemma aside_of_close {reading : Reading} (h : (f.close reading).run s = .ok () s') : s.Aside l s' := by
  rw [close] at h
  split at h
  · cases h
    exact .reporting s _
  · exact aside_of_finish h

lemma aside_of_deliver {product : Product} {r : Except LoadError Package}
    (h : (product.deliver name).run s = .ok r s') : s.Aside l s' := by
  cases (product.delivers name s).elim h with
  | nothing | named _ => exact .refl _
  | misnamed _ => exact .reporting s _

lemma aside_of_compile_nil {product : Product} {reading : Reading} {r : Except LoadError Package}
    (h : (f.compile c load name reading product []).run s = .ok r s') : s.Aside l s' := by
  obtain ⟨_, s₁, hclose, hdeliver⟩ := Run.run_bind_eq_ok (x := f.close reading) h
  exact (aside_of_close hclose).trans (aside_of_deliver hdeliver)

lemma Fed.steps {r : FileState × Outcome} (h : Fed c load f e s r s')
    (hload : ∀ {package qualifier p r s'}, f.Asks e package qualifier p → (load package (some p)).run s = .ok r s' →
      s.Steps l E s') : s.Steps l E s' := by
  cases h with
  | rejected => exact .aside (.reporting s _)
  | begun | ended | shown => exact .refl s
  | imported asks ran => exact hload asks ran
  | clashed asks ran => exact (hload asks ran).trans (.aside (.reporting _ _))
  | failed asks ran => exact (hload asks ran).trans (.aside (.reporting _ _))
  | refused => exact .aside ((Store.Aside.numbering s).trans (.reporting _ _))
  | defined _ identifier_eq => exact .declared identifier_eq

end FileState

namespace Library

structure Invariant (l : Library) (c : Capabilities) (E : List Package → Package → Prop) (P : Moment → Prop) : Prop where
  underway : ∀ {m}, P m → m.file.Underway c m.chain m.store m.product
  next : ∀ {m m'}, P m → l.advance? c m = some m' → P m'
  inner : ∀ {m m' package p}, P m → m.asks? = some (package, p) → l.open? m.chain package (some p) m.store = some m' →
    P m'
  speaks : ∀ {chain name importer s m package s'}, P m → l.open? chain name importer s = some m →
    l.ComesTo c name m (.ok package) s' → s'.diagnostics.length = s.diagnostics.length → E s'.packages package

lemma fresh_of_comes {package : Package} (hu : m.file.Underway c m.chain m.store m.product)
    (hopen : l.open? chain name importer s = some m) (h : l.ComesTo c name m (.ok package) s') :
    s'.package? package.name = none := by
  have hcompiled := (FileState.compile_ends (l.loadOn_loads c m.chain) name m.reading m.rest hu).elim h
  obtain ⟨hname, _, htrail⟩ := hcompiled.found package rfl
  rw [Store.package?_eq_none_iff, hname]
  intro p hp heq
  apply htrail.uncached p hp
  rw [heq, chain_of_open? hopen, Chain.names_concat]
  exact List.mem_append_right _ (List.mem_singleton_self name)

variable {P : Moment → Prop}

lemma Answers.steps {r : Except LoadError Package} (h : l.Answers c chain name importer s r s') (hP : l.Invariant c E P)
    (hfirst : ∀ {m}, l.open? chain name importer s = some m → P m)
    (hinner : ∀ {m r s'}, l.open? chain name importer s = some m → l.ComesTo c name m r s' → m.store.Steps l E s') :
    s.Steps l E s' := by
  cases h with
  | kept => exact .refl s
  | circular _ _ aside => exact .aside aside
  | unavailable _ aside => exact .aside (aside.trans (.leaving _ _))
  | failed _ opened comes =>
    exact (Store.Steps.aside (aside_of_open? opened)).trans ((hinner opened comes).trans (.aside (.leaving _ _)))
  | @entered m package s' _ opened comes silent =>
    have hleft : s.Steps l E (s'.leaving chain.names) :=
      (Store.Steps.aside (aside_of_open? opened)).trans ((hinner opened comes).trans (.aside (.leaving _ _)))
    have hm := hfirst opened
    have hfresh : s'.package? package.name = none := fresh_of_comes (hP.underway hm) opened comes
    have hspeaks : E s'.packages package := hP.speaks hm opened comes silent
    exact hleft.trans (Store.Steps.kept (s := s'.leaving chain.names) hfresh hspeaks)

lemma Invariant.steps_of_comes (hP : l.Invariant c E P) {m : Moment} (hm : P m) {name : PackageName}
    {r : Except LoadError Package} {s' : Store} (h : l.ComesTo c name m r s') : m.store.Steps l E s' := by
  have hu := hP.underway hm
  cases hrest : m.rest with
  | nil =>
    rw [ComesTo, hrest] at h
    exact .aside (FileState.aside_of_compile_nil h)
  | cons e rest =>
    rw [ComesTo, hrest] at h
    obtain ⟨⟨f, out⟩, s₁, hfeed, hfed, hafter⟩ := hu.feed_ends (l.loadOn_loads c m.chain) e
    have hstep : m.store.Steps l E s₁ := by
      apply hfed.steps
      intro package qualifier p r s' hasks hload
      have hmoment := Moment.asks?_of_asks hrest hasks
      apply (answers_of_loadOn hload).steps hP (hP.inner hm hmoment)
      intro m' r' s'' hopen hcomes
      have hlt := remaining_lt_of_open? c hopen
      exact hP.steps_of_comes (hP.inner hm hmoment hopen) hcomes
    cases out with
    | nothing =>
      rw [FileState.compile_cons_nothing hfeed] at h
      exact hstep.trans (hP.steps_of_comes (hP.next hm (advance?_of_nothing hrest hfeed)) h)
    | finished package =>
      rw [hafter.1, FileState.compile_cons_finished hfeed] at h
      exact hstep.trans (hP.steps_of_comes (hP.next hm (advance?_of_finished hrest hfeed)) h)
    | abort =>
      rw [hafter.1, FileState.compile_cons_abort hfeed] at h
      cases h
      exact hstep
termination_by (((l.catalog c).remaining m.chain.names).length, m.rest.length)
decreasing_by
  · exact Prod.Lex.left _ _ hlt
  · exact Prod.Lex.right _ (by simp [hrest])
  · exact Prod.Lex.right _ (by simp [hrest])

lemma Invariant.steps_of_loadOn (hP : l.Invariant c E P) (hfirst : ∀ {m}, l.open? chain name importer s = some m → P m)
    {r : Except LoadError Package} (h : ((l.catalog c).loadOn chain.names name importer).run s = .ok r s') :
    s.Steps l E s' :=
  (answers_of_loadOn h).steps hP hfirst fun hopen hcomes => hP.steps_of_comes (hfirst hopen) hcomes

lemma invariant_underway (l : Library) (c : Capabilities) :
    l.Invariant c (fun _ _ => True) fun m => m.file.Underway c m.chain m.store m.product where
  underway hm := hm
  next {m m'} hm hadvance := by
    obtain ⟨e, rest, f, out, s', _, hrun, ⟨rfl, rfl⟩ | ⟨package, rfl, rfl⟩⟩ := advance?_eq_some hadvance
    · exact (feed_after hm hrun).1
    · exact (feed_after hm hrun).2.1
  inner hm _ hopen := underway_of_open? hopen hm.store hm.trail
  speaks _ _ _ _ := trivial

lemma steps_of_loadOn (hs : s.Sound c) (ht : s.OnTrail chain) {r : Except LoadError Package}
    (h : ((l.catalog c).loadOn chain.names name importer).run s = .ok r s') : s.Steps l (fun _ _ => True) s' := by
  apply (l.invariant_underway c).steps_of_loadOn _ h
  intro m hopen
  exact underway_of_open? hopen hs ht

end Library

end RecordSchema
