import RecordSchema.Proofs.Layout.Cover
import RecordSchema.Proofs.Load.Moment

/-! Everything that can be met with: files that are taken through by hand, in turns with loads of packages, and
the files that such a load takes through. -/

namespace RecordSchema

variable {c : Capabilities} {l : Library} {chain : Chain} {load : Importer} {s s' : Store} {f : FileState}

namespace FileState

def Linked (f : FileState) : Prop :=
  ∀ entry ∈ f.scope.qualifiers.pairs, ∃ p ∈ f.scope.packages, p.name = entry.2

lemma Linked.initial : ({} : FileState).Linked := by
  rintro entry ⟨⟩

lemma Fed.linked {e : Expr} {r : FileState × Outcome} (hfed : Fed c load f e s r s') (h : f.Linked) :
    r.1.Linked := by
  cases hfed with
  | @imported package qualifier p found scope _ asks ran bound =>
    obtain ⟨qualifiers, hinsert, rfl⟩ := Scope.exists_of_bindImport bound
    intro entry hentry
    simp only [OneToOne.pairs_insert hinsert] at hentry
    rcases List.mem_append.mp hentry with hentry | hentry
    · obtain ⟨q, hq, hname⟩ := h entry hentry
      exact ⟨q, List.mem_append_left _ hq, hname⟩
    · refine ⟨found, List.mem_append_right _ (List.mem_singleton_self found), ?_⟩
      rw [List.mem_singleton.mp hentry]
  | defined _ _ _ _ bound =>
    obtain ⟨types, _, rfl⟩ := Scope.exists_of_defineType bound
    exact h
  | rejected | begun | ended | clashed | failed | refused | shown => exact h

lemma Fed.sound {product : Product} {e : Expr} {r : FileState × Outcome} (hfed : Fed c load f e s r s')
    (h : f.Underway c chain s product) (hl : load.Loads c chain) : s'.Sound c := by
  have hafter := hfed.after h hl
  obtain ⟨f', out⟩ := r
  cases out with
  | nothing => exact hafter.1.store
  | abort => exact hafter.2.1
  | finished package => exact hafter.2.1.store

structure Ready (c : Capabilities) (chain : Chain) (s : Store) (f : FileState) : Prop where
  store : s.Sound c
  trail : s.OnTrail chain
  file : f.Sound s
  linked : f.Linked

lemma Ready.mono (h : f.Ready c chain s) (hs : s'.Sound c) (ht : s'.OnTrail chain) (hg : s.Grows s') :
    f.Ready c chain s' :=
  ⟨hs, ht, h.file.mono hg, h.linked⟩

lemma Ready.report {d : Diagnostic} (h : f.Ready c chain s) : f.Ready c chain (s.reporting d) :=
  h.mono (h.store.of_eq rfl rfl (Nat.le_refl _)) (h.trail.of_eq rfl rfl rfl) (.of_eq rfl rfl (Nat.le_refl _))

lemma Ready.underway (h : f.Ready c chain s) : f.Underway c chain s none :=
  ⟨h.store, h.trail, h.file, by rintro entry ⟨⟩⟩

lemma Ready.feed_ends (h : f.Ready c chain s) (hl : load.Loads c chain) (e : Expr) :
    (f.feed c load e).Ends s (Fed c load f e s) :=
  (h.underway.feed_ends hl e).mono fun _ _ hr => hr.1

lemma Ready.of_fed {e : Expr} {r : FileState × Outcome} (h : f.Ready c chain s) (hl : load.Loads c chain)
    (hfed : Fed c load f e s r s') (hout : r.2 ≠ .abort ∨ chain = []) : r.1.Ready c chain s' ∧ s.Grows s' := by
  have hlinked := hfed.linked h.linked
  have hafter := hfed.after h.underway hl
  obtain ⟨f', out⟩ := r
  cases out with
  | nothing =>
    obtain ⟨hu, hg, _⟩ := hafter
    exact ⟨⟨hu.store, hu.trail, hu.file, hlinked⟩, hg⟩
  | finished package =>
    obtain ⟨_, hu, hg, _⟩ := hafter
    exact ⟨⟨hu.store, hu.trail, hu.file, hlinked⟩, hg⟩
  | abort =>
    rcases hout with hout | rfl
    · exact absurd rfl hout
    · obtain ⟨_, hs, hg, _⟩ := hafter
      cases hfed with
      | failed asks ran =>
        have hloaded := (hl _ _ s h.store h.trail).elim ran
        exact ⟨⟨hs, (hloaded.back rfl).of_eq rfl rfl rfl, h.file.mono hg, hlinked⟩, hg⟩

lemma finish_run {eof : Position} (h : (f.finish eof).run s = .ok () s') : s' = s ∨ ∃ d, s' = s.reporting d := by
  rw [finish] at h
  split at h
  · cases h
    exact .inr ⟨_, rfl⟩
  · cases h
    exact .inl rfl

lemma mem_of_mem_exchanged {before after : List FileState} {f f' g : FileState} (h : g ∈ before ++ f' :: after) :
    g = f' ∨ g ∈ before ++ f :: after := by
  simp only [List.mem_append, List.mem_cons] at h ⊢
  tauto

end FileState

namespace Library

lemma run_load_on (h : s.OnTrail chain) (name : PackageName) (importer : Option Position) :
    ((l.catalog c).load name importer).run s = ((l.catalog c).loadOn chain.names name importer).run s := by
  rw [Catalog.load, EStateM.run_bind, EStateM.run_get]
  simp only [h.loading]

lemma load_loads (l : Library) (c : Capabilities) (chain : Chain) : Importer.Loads c chain (l.catalog c).load :=
  fun name importer s hs ht => .of_run_eq (run_load_on ht name importer) (l.loadOn_loads c chain name importer s hs ht)

variable (l c)

/-- Files that are taken through by hand over one store, between loads of packages. -/
inductive Desk : List FileState → Store → Prop
  | empty : Desk [] {}
  | loaded {files : List FileState} {s s' : Store} {name : PackageName} {importer : Option Position}
      {r : Except LoadError Package} (desk : Desk files s)
      (ran : ((l.catalog c).load name importer).run s = .ok r s') : Desk files s'
  | drained {files : List FileState} {s : Store} (desk : Desk files s) : Desk files { s with diagnostics := [] }
  | opened {files : List FileState} {s : Store} (desk : Desk files s) : Desk (files ++ [({} : FileState)]) s
  | fed {before after : List FileState} {f : FileState} {e : Expr} {r : FileState × Outcome} {s s' : Store}
      (desk : Desk (before ++ f :: after) s) (ran : (f.feed c (l.catalog c).load e).run s = .ok r s') :
      Desk (before ++ r.1 :: after) s'
  | ended {files : List FileState} {f : FileState} {eof : Position} {s s' : Store} (desk : Desk files s)
      (mem : f ∈ files) (ran : (f.finish eof).run s = .ok () s') : Desk files s'
  | emptied {before after : List FileState} {f : FileState} {s : Store} (desk : Desk (before ++ f :: after) s) :
      Desk (before ++ { f with results := [] } :: after) s

/-- The chain of packages being loaded, and the store, between two expressions. -/
inductive Visited : Chain → Store → Prop
  | between {files : List FileState} {s : Store} (desk : l.Desk c files s) : Visited [] s
  | during {files : List FileState} {s : Store} {name : PackageName} {importer : Option Position} {m : Moment}
      (desk : l.Desk c files s) (passes : l.Passes c name importer s m) : Visited m.chain m.store

inductive Met : Chain → FileState → Store → Prop
  | byHand {files : List FileState} {f : FileState} {s : Store} (desk : l.Desk c files s) (mem : f ∈ files) :
      Met [] f s
  | loading {files : List FileState} {s : Store} {name : PackageName} {importer : Option Position} {m : Moment}
      (desk : l.Desk c files s) (passes : l.Passes c name importer s m) : Met m.chain m.file m.store

/-- The stores between any two expressions, and right after an import that has failed. -/
inductive Present : Store → Prop
  | visited {chain : Chain} {s : Store} (visited : l.Visited c chain s) : Present s
  | after {chain : Chain} {f : FileState} {e : Expr} {r : FileState × Outcome} {s s' : Store} (met : l.Met c chain f s)
      (ran : (f.feed c (l.catalog c).load e).run s = .ok r s') : Present s'

variable {l c}

lemma Desk.ready {files : List FileState} (h : l.Desk c files s) : s.Idle c ∧ ∀ f ∈ files, f.Ready c [] s := by
  induction h with
  | empty => exact ⟨⟨.initial, .initial⟩, by rintro f ⟨⟩⟩
  | loaded _ ran ih =>
    obtain ⟨hidle, hready⟩ := ih
    have hloaded := (load_loads l c [] _ _ _ hidle.sound hidle.trail).elim ran
    have hback := hloaded.back rfl
    exact ⟨⟨hloaded.sound, hback⟩, fun f hf => (hready f hf).mono hloaded.sound hback hloaded.grows⟩
  | @drained files s _ ih =>
    obtain ⟨hidle, hready⟩ := ih
    have hsound : Store.Sound c { s with diagnostics := [] } := hidle.sound.of_eq rfl rfl (Nat.le_refl _)
    have htrail : Store.OnTrail { s with diagnostics := [] } [] := hidle.trail.of_eq rfl rfl rfl
    exact ⟨⟨hsound, htrail⟩, fun f hf => (hready f hf).mono hsound htrail (.of_eq rfl rfl (Nat.le_refl _))⟩
  | opened _ ih =>
    obtain ⟨hidle, hready⟩ := ih
    refine ⟨hidle, fun f hf => ?_⟩
    rcases List.mem_append.mp hf with hf | hf
    · exact hready f hf
    · rw [List.mem_singleton.mp hf]
      exact ⟨hidle.sound, hidle.trail, .initial, .initial⟩
  | fed _ ran ih =>
    obtain ⟨_, hready⟩ := ih
    have hf := hready _ (List.mem_append_right _ List.mem_cons_self)
    have hfed := (hf.feed_ends (load_loads l c []) _).elim ran
    obtain ⟨hready', hgrows⟩ := hf.of_fed (load_loads l c []) hfed (.inr rfl)
    refine ⟨⟨hready'.store, hready'.trail⟩, fun g hg => ?_⟩
    rcases FileState.mem_of_mem_exchanged hg with rfl | hg
    · exact hready'
    · exact (hready g hg).mono hready'.store hready'.trail hgrows
  | ended _ _ ran ih =>
    obtain ⟨hidle, hready⟩ := ih
    rcases FileState.finish_run ran with rfl | ⟨d, rfl⟩
    · exact ⟨hidle, hready⟩
    · exact ⟨⟨hidle.sound.of_eq rfl rfl (Nat.le_refl _), hidle.trail.of_eq rfl rfl rfl⟩,
        fun f hf => (hready f hf).report⟩
  | emptied _ ih =>
    obtain ⟨hidle, hready⟩ := ih
    have hf := hready _ (List.mem_append_right _ List.mem_cons_self)
    refine ⟨hidle, fun g hg => ?_⟩
    rcases FileState.mem_of_mem_exchanged hg with rfl | hg
    · exact ⟨hf.store, hf.trail, ⟨hf.file.scope, hf.file.opened, hf.file.collected⟩, hf.linked⟩
    · exact hready g hg

lemma Passes.linked {name : PackageName} {importer : Option Position} {m : Moment} (h : l.Passes c name importer s m)
    (hs : s.Idle c) : m.file.Linked := by
  have hopen : ∀ {chain : Chain} {name : PackageName} {importer : Option Position} {s : Store} {m : Moment},
      l.open? chain name importer s = some m → m.file.Linked := by
    intro chain name importer s m opened
    obtain ⟨_, _, _, _, _, _, _, _, rfl⟩ := open?_eq_some opened
    exact .initial
  induction h with
  | first opened => exact hopen opened
  | @next m m' passed advanced ih =>
    have hu := Passes.underway passed hs
    obtain ⟨e, rest, f, out, s', _, hrun, heq⟩ := advance?_eq_some advanced
    have hfed := ((hu.feed_ends (l.loadOn_loads c m.chain) e).elim hrun).1
    have hlinked := hfed.linked ih
    obtain ⟨_, rfl⟩ | ⟨_, _, rfl⟩ := heq
    · exact hlinked
    · exact hlinked
  | inner _ _ opened _ => exact hopen opened

lemma Passes.ready {name : PackageName} {importer : Option Position} {m : Moment} (h : l.Passes c name importer s m)
    (hs : s.Idle c) : m.file.Ready c m.chain m.store := by
  have hu := h.underway hs
  exact ⟨hu.store, hu.trail, hu.file, h.linked hs⟩

lemma Met.ready (h : l.Met c chain f s) : f.Ready c chain s := by
  cases h with
  | byHand desk mem => exact desk.ready.2 f mem
  | loading desk passes => exact passes.ready desk.ready.1

lemma Visited.sound (h : l.Visited c chain s) : s.Sound c ∧ s.OnTrail chain := by
  cases h with
  | between desk => exact ⟨desk.ready.1.sound, desk.ready.1.trail⟩
  | during desk passes =>
    have hu := passes.underway desk.ready.1
    exact ⟨hu.store, hu.trail⟩

lemma Present.sound (h : l.Present c s) : s.Sound c := by
  cases h with
  | visited visited => exact visited.sound.1
  | @after chain _ e _ _ _ met ran =>
    have hready := met.ready
    have hl := load_loads l c chain
    exact ((hready.feed_ends hl e).elim ran).sound hready.underway hl

/-- Whatever the sources say, every declaration that is registered is laid out without gap and overlap, and its
members are found by their names. -/
theorem wellLaid_of_present (h : l.Present c s) : ∀ d ∈ s.types.declarations, d.WellLaid :=
  fun d hd => Declaration.wellLaid (h.sound.grown.laid d hd)

def mixedLayouts : Library :=
  .texts [(nestedName, "(package-begin n)" ++
    "(record A [(field x (integer unsigned 8)) (padding-octets 3) (field y (float 32))])" ++
    "(packed B [(field p (integer signed 3)) (padding-bits 5)])" ++ "(union C [(case a A) (case b B)])")]

lemma mixed_layouts_wellLaid : ∃ s, mixedLayouts.Present {} s ∧
    s.types.declarations.map (fun d => (d.keyword, d.bits, d.named.length)) =
      [("record", 64, 2), ("packed", 8, 1), ("union", 64, 2)] ∧ ∀ d ∈ s.types.declarations, d.WellLaid := by
  have hmoments : (((((mixedLayouts.open? [] nestedName none {}).bind (mixedLayouts.advance? {})).bind
      (mixedLayouts.advance? {})).bind (mixedLayouts.advance? {})).bind (mixedLayouts.advance? {})).map (fun m =>
        m.store.types.declarations.map fun d => (d.keyword, d.bits, d.named.length)) =
          some [("record", 64, 2), ("packed", 8, 1), ("union", 64, 2)] := by
    decide +kernel
  obtain ⟨m, hm, hdeclarations⟩ := Option.map_eq_some_iff.mp hmoments
  obtain ⟨m₃, hm, h₄⟩ := Option.bind_eq_some_iff.mp hm
  obtain ⟨m₂, hm, h₃⟩ := Option.bind_eq_some_iff.mp hm
  obtain ⟨m₁, hm, h₂⟩ := Option.bind_eq_some_iff.mp hm
  obtain ⟨m₀, h₀, h₁⟩ := Option.bind_eq_some_iff.mp hm
  have hpasses : mixedLayouts.Passes {} nestedName none {} m := ((((Passes.first h₀).next h₁).next h₂).next h₃).next h₄
  have hpresent : mixedLayouts.Present {} m.store := .visited (.during .empty hpasses)
  exact ⟨m.store, hpresent, hdeclarations, wellLaid_of_present hpresent⟩

end Library

end RecordSchema
