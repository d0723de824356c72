import RecordSchema.Proofs.Load.Desk
import RecordSchema.Proofs.Load.Enacted
import RecordSchema.Proofs.Load.Circular
import Mathlib.Data.List.Dedup
import Mathlib.Data.List.Perm.Subperm

/-! Imports do not nest deeper than there are packages: a load that has only so many levels to go down comes to the
same, and on its way there is never more on the chain of packages being loaded. -/

namespace RecordSchema

variable {l : Library} {c : Capabilities} {chain : Chain} {name : PackageName} {importer : Option Position}
  {load load' : Importer} {s s' : Store}

namespace Catalog

def supplied (k : Catalog) (load : Importer) (name : PackageName) (importer : Option Position) :
    Run (Except LoadError Package) :=
  match k.supplier? name with
  | some supply => supply load importer
  | none => Run.reportMissing name importer

def leave (watch : Run Unit) (name : PackageName) (queued : Nat) (result : Except LoadError Package) :
    Run (Except LoadError Package) := do
  watch
  modify fun s => s.leaving s.loading.dropLast
  let result ← Run.conclude name queued result
  watch
  return result

/-- One load on the chain that the store itself keeps: the package is put at its end and taken from there again.
Whatever the source imports is left to `load`. The store is shown to `watch` whenever a load begins or ends and
whenever the chain has changed. -/
def loadBy (k : Catalog) (watch : Run Unit) (load : Importer) : Importer := fun name importer => do
  watch
  match (← get).package? name with
  | some package => return .ok package
  | none =>
    let chain := (← get).loading
    if let some current := chain.getLast? then
      Run.recordImport ⟨current, name, importer⟩
    if name ∈ chain then
      if let some current := chain.getLast? then
        Run.reportCycle current name importer
      watch
      return .error (.circular name)
    else
      let queued := (← get).diagnostics.length
      Run.startLoading chain name
      watch
      leave watch name queued (← k.supplied load name importer)

/-- A load that goes down a given number of levels; below the last one everything is left to `bottom`. -/
def nested (k : Catalog) (watch : Run Unit) (bottom : Importer) : Nat → Importer
  | 0 => bottom
  | depth + 1 => k.loadBy watch (k.nested watch bottom depth)

end Catalog

namespace Library

def size (l : Library) : Nat :=
  (l.fetches.map Prod.fst).dedup.length

structure Nests (l : Library) (s : Store) : Prop where
  nodup : s.loading.Nodup
  length_le : s.loading.length ≤ l.size + 1
  sourced : ∀ name ∈ s.loading.dropLast, (l.fetch? name).isSome = true
  uncached : ∀ name ∈ s.loading, s.package? name = none

instance : Decidable (l.Nests s) :=
  decidable_of_iff (s.loading.Nodup ∧ s.loading.length ≤ l.size + 1 ∧
      (∀ name ∈ s.loading.dropLast, (l.fetch? name).isSome = true) ∧ ∀ name ∈ s.loading, s.package? name = none)
    ⟨fun ⟨h₁, h₂, h₃, h₄⟩ => ⟨h₁, h₂, h₃, h₄⟩, fun ⟨h₁, h₂, h₃, h₄⟩ => ⟨h₁, h₂, h₃, h₄⟩⟩

def guard (l : Library) (alarm : Run Unit) : Run Unit := do
  if l.Nests (← get) then return () else alarm

lemma guard_run (h : l.Nests s) (alarm : Run Unit) : (l.guard alarm).run s = .ok () s := by
  rw [guard]
  simp only [EStateM.run_bind, EStateM.run_get, if_pos h]
  rfl

end Library

structure Store.Stacked (chain : List PackageName) (s : Store) : Prop where
  loading : s.loading = chain
  uncached : ∀ p ∈ s.packages, p.name ∉ chain

namespace Store

lemma Stacked.of_eq {chain : List PackageName} (h : s.Stacked chain) (hloading : s'.loading = s.loading)
    (hpackages : s'.packages = s.packages) : s'.Stacked chain :=
  ⟨hloading.trans h.loading, by rw [hpackages]; exact h.uncached⟩

lemma OnTrail.stacked (h : s.OnTrail chain) : s.Stacked chain.names :=
  ⟨h.loading, h.uncached⟩

end Store

def Importer.Stacks (c : Capabilities) (chain : Chain) (load : Importer) : Prop :=
  ∀ name p s, s.Sound c → s.OnTrail chain → (load name p).Ends s fun _ s' => s'.Stacked chain.names

namespace FileState

variable {f : FileState} {product : Product}

lemma feedAll_stacks (hl : load.Loads c chain) (hst : load.Stacks c chain) :
    ∀ (rest : List Expr) {f : FileState} {product : Product} {s : Store}, f.Underway c chain s product →
      (f.feedAll c load product rest).Ends s fun _ s' => s'.Stacked chain.names
  | [], _, _, _, h => .pure h.trail.stacked
  | e :: rest, f, product, s, h => by
    rw [feedAll]
    apply (h.feed_ends hl e).bind
    rintro ⟨f', out⟩ s' ⟨hfed, hafter⟩
    cases out with
    | nothing => exact feedAll_stacks hl hst rest hafter.1
    | finished package =>
      obtain ⟨rfl, hu, _, _⟩ := hafter
      exact feedAll_stacks hl hst rest hu
    | abort =>
      cases hfed with
      | failed asks ran => exact .pure (((hst _ _ s h.store h.trail).elim ran).of_eq rfl rfl)

lemma compile_stacks (hl : load.Loads c chain) (hst : load.Stacks c chain) (name : PackageName) (reading : Reading)
    (rest : List Expr) (h : f.Underway c chain s product) :
    (f.compile c load name reading product rest).Ends s fun _ s' => s'.Stacked chain.names := by
  rw [compile]
  apply ((feedAll_ends hl rest h).and (feedAll_stacks hl hst rest h)).bind
  rintro ⟨f', product', complete⟩ s' ⟨hthrough, hstacked⟩
  cases complete with
  | false =>
    obtain ⟨rfl, _⟩ := hthrough
    exact .of_run rfl hstacked
  | true =>
    apply (hthrough.1.close_ends reading).bind
    rintro _ s'' ⟨hu, _, _⟩
    refine (product'.delivers name s'').mono fun _ _ hdelivers => ?_
    cases hdelivers with
    | nothing | named _ => exact hu.trail.stacked
    | misnamed _ => exact hu.trail.stacked.of_eq rfl rfl

lemma feedAll_congr (hl : load.Loads c chain) (h : ∀ name p s, s.Sound c → s.OnTrail chain →
      (load' name p).run s = (load name p).run s) :
    ∀ (rest : List Expr) {f : FileState} {product : Product} {s : Store}, f.Underway c chain s product →
      (f.feedAll c load' product rest).run s = (f.feedAll c load product rest).run s
  | [], _, _, _, _ => rfl
  | e :: rest, f, product, s, hu => by
    have hfeed : (f.feed c load' e).run s = (f.feed c load e).run s :=
      feed_congr fun name p => h name p s hu.store hu.trail
    obtain ⟨⟨f', out⟩, s', hrun, _, hafter⟩ := hu.feed_ends hl e
    rw [feedAll, feedAll, EStateM.run_bind, EStateM.run_bind, hfeed, hrun]
    cases out with
    | nothing => exact feedAll_congr hl h rest hafter.1
    | finished package =>
      obtain ⟨rfl, hu', _, _⟩ := hafter
      exact feedAll_congr hl h rest hu'
    | abort => rfl

lemma compile_congr (hl : load.Loads c chain) (h : ∀ name p s, s.Sound c → s.OnTrail chain →
      (load' name p).run s = (load name p).run s) (name : PackageName) (reading : Reading) (rest : List Expr)
    (hu : f.Underway c chain s product) :
    (f.compile c load' name reading product rest).run s = (f.compile c load name reading product rest).run s := by
  rw [compile, compile, EStateM.run_bind, EStateM.run_bind, feedAll_congr hl h rest hu]

end FileState

namespace Catalog

variable {fetch : Fetch}

lemma compiling_stacks (hfetch : l.fetch? name = some fetch) (hl : load.Loads c chain) (hst : load.Stacks c chain)
    (hs : s.Sound c) (ht : s.OnTrail chain) (importer : Option Position) :
    (compiling c name fetch load importer).Ends s fun _ s' => s'.Stacked chain.names := by
  rw [compiling]
  apply (Library.fetch_ends hfetch s).bind
  intro r s' hr
  cases hr with
  | read found sources =>
    have hu : ({} : FileState).Underway c chain { s with sources } none :=
      .initial (hs.of_eq rfl rfl (Nat.le_refl _)) (ht.of_eq rfl rfl rfl)
    exact FileState.compile_stacks hl hst name _ _ hu
  | unread => exact .pure (ht.stacked.of_eq rfl rfl)

lemma compiling_congr (hfetch : l.fetch? name = some fetch) (hl : load.Loads c chain)
    (h : ∀ name p s, s.Sound c → s.OnTrail chain → (load' name p).run s = (load name p).run s) (hs : s.Sound c)
    (ht : s.OnTrail chain) (importer : Option Position) :
    (compiling c name fetch load' importer).run s = (compiling c name fetch load importer).run s := by
  obtain ⟨r, s', hrun, hr⟩ := Library.fetch_ends hfetch s
  rw [compiling, compiling, EStateM.run_bind, EStateM.run_bind, hrun]
  cases hr with
  | read found sources =>
    have hu : ({} : FileState).Underway c chain { s with sources } none :=
      .initial (hs.of_eq rfl rfl (Nat.le_refl _)) (ht.of_eq rfl rfl rfl)
    exact FileState.compile_congr hl h name _ _ hu
  | unread => rfl

end Catalog

lemma Store.Stacked.conclude {r : Except LoadError Package} (h : s.Stacked (chain.names ++ [name]))
    (hfresh : name ∉ chain.names) (hname : ∀ p, r = .ok p → p.name = name) (queued : Nat) :
    (Run.conclude name queued r).Ends (s.leaving chain.names) fun _ s' => s'.Stacked chain.names := by
  have huncached : ∀ p ∈ s.packages, p.name ∉ chain.names :=
    fun p hp hmem => h.uncached p hp (List.mem_append_left _ hmem)
  have hleft : (s.leaving chain.names).Stacked chain.names := ⟨rfl, huncached⟩
  cases r with
  | error e => exact .pure hleft
  | ok package =>
    by_cases hlength : (s.leaving chain.names).diagnostics.length = queued
    · refine .of_run (Run.run_conclude_kept hlength) ⟨rfl, fun p hp => ?_⟩
      rcases List.mem_append.mp hp with hp | hp
      · exact huncached p hp
      · rw [List.mem_singleton.mp hp, hname package rfl]
        exact hfresh
    · exact .of_run (Run.run_conclude_dropped hlength) hleft

namespace Library

lemma loadOn_stacks (l : Library) (c : Capabilities) (chain : Chain) :
    Importer.Stacks c chain ((l.catalog c).loadOn chain.names) := by
  intro name importer s hs ht
  cases hkept : s.package? name with
  | some package => exact .of_run (Catalog.loadOn_of_kept hkept) ht.stacked
  | none =>
    by_cases hchain : name ∈ chain.names
    · obtain ⟨current, hlast⟩ : ∃ current, chain.names.getLast? = some current :=
        Option.isSome_iff_exists.mp (by simpa using List.ne_nil_of_mem hchain)
      exact .of_run (Catalog.loadOn_of_cycle hkept hchain hlast) (ht.stacked.of_eq rfl rfl)
    · cases hfetch : l.fetch? name with
      | none =>
        have hsupplier := supplier?_of_no_fetch (c := c) hfetch
        exact .of_run (Catalog.loadOn_of_missing hkept hchain hsupplier) ⟨rfl, ht.uncached⟩
      | some fetch =>
        have hsupplier := supplier?_of_fetch (c := c) hfetch
        have hmem := Catalog.mem_names_of_supplier? hsupplier
        have hinner := l.loadOn_loads c (chain ++ [(name, importer)])
        have hstacks := loadOn_stacks l c (chain ++ [(name, importer)])
        rw [Chain.names_concat] at hinner hstacks
        have hentered := hs.entering chain.names name importer
        have htrail : (s.entering chain.names name importer).OnTrail (chain ++ [(name, importer)]) :=
          ht.enter hkept hchain
        apply Run.Ends.of_run_eq (Catalog.loadOn_of_supplied hkept hchain hsupplier)
        apply ((Catalog.compiling_stacks hfetch hinner hstacks hentered htrail _).and
          (Catalog.compiling_ends hfetch hinner hentered htrail)).bind
        rintro r s' ⟨hstacked, hcompiled⟩
        rw [Chain.names_concat] at hstacked
        have hleave : (Run.stopLoading chain.names).Ends s' fun _ t => t = s'.leaving chain.names := .of_run rfl rfl
        apply hleave.bind
        rintro _ _ rfl
        exact hstacked.conclude hchain (fun p hp => (hcompiled.found p hp).1) _
termination_by ((l.catalog c).remaining chain.names).length
decreasing_by
  rw [Chain.names_concat]
  exact Catalog.length_remaining_lt hmem hchain

def Sourced (l : Library) (names : List PackageName) : Prop :=
  ∀ name ∈ names, (l.fetch? name).isSome = true

lemma Sourced.length_le {names : List PackageName} (h : l.Sourced names) (hnodup : names.Nodup) :
    names.length ≤ l.size := by
  have hsub : names ⊆ (l.fetches.map Prod.fst).dedup := by
    intro name hname
    obtain ⟨fetch, hfetch⟩ := Option.isSome_iff_exists.mp (h name hname)
    obtain ⟨before, after, hsplit, _⟩ := List.lookup_eq_some_iff.mp hfetch
    simp [hsplit]
  exact (List.subperm_of_subset hnodup hsub).length_le

lemma Sourced.concat {names : List PackageName} {fetch : Fetch} (h : l.Sourced names)
    (hfetch : l.fetch? name = some fetch) : l.Sourced (names ++ [name]) := by
  intro other hother
  rcases List.mem_append.mp hother with hother | hother
  · exact h other hother
  · rw [List.mem_singleton.mp hother, hfetch]
    rfl

lemma Sourced.of_open? {m : Moment} (h : l.Sourced chain.names) (hopen : l.open? chain name importer s = some m) :
    l.Sourced m.chain.names := by
  obtain ⟨_, _, fetch, _, _, _, hfetch, _⟩ := open?_eq_some hopen
  rw [chain_of_open? hopen, Chain.names_concat]
  exact h.concat hfetch

lemma Passes.sourced {m : Moment} (h : l.Passes c name importer s m) : l.Sourced m.chain.names := by
  induction h with
  | first opened => exact Sourced.of_open? (by rintro _ ⟨⟩) opened
  | next _ advanced ih =>
    rw [chain_of_advance? advanced]
    exact ih
  | inner _ _ opened ih => exact ih.of_open? opened

lemma Visited.sourced (h : l.Visited c chain s) : l.Sourced chain.names := by
  cases h with
  | between _ => rintro _ ⟨⟩
  | during _ passes => exact passes.sourced

lemma nests_of_stacked {names : List PackageName} (h : s.Stacked names) (hnodup : names.Nodup)
    (hsourced : l.Sourced names.dropLast) : l.Nests s where
  nodup := h.loading ▸ hnodup
  length_le := by
    have hle := hsourced.length_le (hnodup.sublist (List.dropLast_sublist names))
    rw [List.length_dropLast] at hle
    rw [h.loading]
    omega
  sourced := h.loading ▸ hsourced
  uncached := by
    rw [h.loading]
    exact fun name hname => Store.package?_eq_none_iff.mpr fun p hp heq => h.uncached p hp (heq ▸ hname)

lemma loadBy_of_cycle {k : Catalog} {watch : Run Unit}
    (hwatch : ∀ s' : Store, s'.loading = s.loading → s'.packages = s.packages → watch.run s' = .ok () s')
    (h : s.package? name = none) (hmem : name ∈ s.loading) :
    (k.loadBy watch load name importer).run s = (k.loadOn s.loading name importer).run s := by
  obtain ⟨current, hlast⟩ : ∃ current, s.loading.getLast? = some current :=
    Option.isSome_iff_exists.mp (by simpa using List.ne_nil_of_mem hmem)
  let recorded : Store := { s with imports := s.imports.add ⟨current, name, importer⟩ }
  let cycle := (recorded.imports.shortestPath name current).getD [] ++ [⟨current, name, importer⟩]
  have hrecord : (Run.recordImport ⟨current, name, importer⟩).run s = .ok () recorded := rfl
  have hreport : (Run.reportCycle current name importer).run recorded =
      .ok () (recorded.reporting (.circularImport cycle importer)) := rfl
  rw [Catalog.loadOn_of_cycle h hmem hlast, Catalog.loadBy]
  simp only [EStateM.run_bind, hwatch s rfl rfl, EStateM.run_get, h, hlast, if_pos hmem, hrecord, hreport]
  rw [hwatch (recorded.reporting (.circularImport cycle importer)) rfl rfl]
  rfl

lemma loadBy_of_fresh {k : Catalog} {watch : Run Unit} (hwatch : watch.run s = .ok () s) (h : s.package? name = none)
    (hfresh : name ∉ s.loading) : (k.loadBy watch load name importer).run s =
      (watch >>= fun _ => k.supplied load name importer >>= Catalog.leave watch name s.diagnostics.length).run
        (s.entering s.loading name importer) := by
  rw [Catalog.loadBy]
  simp only [EStateM.run_bind, hwatch, EStateM.run_get, h, if_neg hfresh, Store.entering]
  cases s.loading.getLast? <;> rfl

lemma leave_run {watch : Run Unit} {queued : Nat} {r : Except LoadError Package}
    (h : s.Stacked (chain.names ++ [name])) (hfresh : name ∉ chain.names) (hname : ∀ p, r = .ok p → p.name = name)
    (hinner : watch.run s = .ok () s) (houter : ∀ s', s'.Stacked chain.names → watch.run s' = .ok () s') :
    (Catalog.leave watch name queued r).run s =
      (Run.stopLoading chain.names >>= fun _ => Run.conclude name queued r).run s := by
  have hpop : (modify fun s => s.leaving s.loading.dropLast : Run Unit).run s = .ok () (s.leaving chain.names) := by
    change EStateM.Result.ok () (s.leaving s.loading.dropLast) = _
    rw [h.loading, List.dropLast_concat]
  have hstop : (Run.stopLoading chain.names).run s = .ok () (s.leaving chain.names) := rfl
  obtain ⟨r', s', hconclude, hstacked⟩ := h.conclude hfresh hname queued
  rw [Catalog.leave]
  simp only [EStateM.run_bind, hinner, hpop, hstop, hconclude, houter s' hstacked]
  rfl

section

variable {watch : Run Unit} (ht : s.OnTrail chain) (hkept : s.package? name = none) (hfresh : name ∉ chain.names)
  (hinner : ∀ s' : Store, s'.Stacked (chain.names ++ [name]) → watch.run s' = .ok () s')
  (houter : ∀ s' : Store, s'.Stacked chain.names → watch.run s' = .ok () s')
include ht hkept hfresh hinner houter

lemma missing_run (hfetch : l.fetch? name = none) :
    ((l.catalog c).supplied load name importer >>= Catalog.leave watch name s.diagnostics.length).run
      (s.entering chain.names name importer) = ((l.catalog c).loadOn chain.names name importer).run s := by
  have hsupplier := supplier?_of_no_fetch (c := c) hfetch
  have htrail : (s.entering chain.names name importer).OnTrail (chain ++ [(name, importer)]) := ht.enter hkept hfresh
  have hentered := htrail.stacked
  rw [Chain.names_concat] at hentered
  let reported := (s.entering chain.names name importer).reporting (.resolution ⟨.packageNonexistent name, importer⟩)
  have hreported : reported.Stacked (chain.names ++ [name]) := hentered.of_eq rfl rfl
  have hmissing : (Run.reportMissing name importer).run (s.entering chain.names name importer) =
      .ok (.error (.failed name)) reported := rfl
  rw [Catalog.loadOn_of_missing hkept hfresh hsupplier, Catalog.supplied, hsupplier]
  dsimp only
  rw [EStateM.run_bind, hmissing]
  exact leave_run hreported hfresh (by rintro _ ⟨⟩) (hinner _ hreported) houter

lemma compiled_run {fetch : Fetch} (hs : s.Sound c) (hfetch : l.fetch? name = some fetch)
    (hload : ∀ other p (s' : Store), s'.Sound c → s'.OnTrail (chain ++ [(name, importer)]) → (load other p).run s' =
      ((l.catalog c).loadOn (Chain.names (chain ++ [(name, importer)])) other p).run s') :
    ((l.catalog c).supplied load name importer >>= Catalog.leave watch name s.diagnostics.length).run
      (s.entering chain.names name importer) = ((l.catalog c).loadOn chain.names name importer).run s := by
  have hsupplier := supplier?_of_fetch (c := c) hfetch
  have hsound := hs.entering chain.names name importer
  have htrail : (s.entering chain.names name importer).OnTrail (chain ++ [(name, importer)]) := ht.enter hkept hfresh
  have hloads := l.loadOn_loads c (chain ++ [(name, importer)])
  have hstacks := l.loadOn_stacks c (chain ++ [(name, importer)])
  have hcompiled := Catalog.compiling_congr hfetch hloads hload hsound htrail importer
  obtain ⟨r, s', hrun, hstacked, hr⟩ := (Catalog.compiling_stacks hfetch hloads hstacks hsound htrail
    importer).and (Catalog.compiling_ends hfetch hloads hsound htrail)
  rw [Chain.names_concat] at hrun hcompiled hstacked
  rw [Catalog.loadOn_of_supplied hkept hfresh hsupplier, Catalog.supplied, hsupplier]
  dsimp only
  rw [EStateM.run_bind, EStateM.run_bind, hcompiled, hrun]
  exact leave_run hstacked hfresh (fun p hp => (hr.found p hp).1) (hinner _ hstacked) houter

end

lemma nested_run (l : Library) (c : Capabilities) (alarm : Run Unit) (bottom : Importer) (depth : Nat) :
    ∀ {chain : Chain} {s : Store}, s.Sound c → s.OnTrail chain → l.Sourced chain.names →
      l.size < chain.names.length + depth → ∀ name importer,
        ((l.catalog c).nested (l.guard alarm) bottom depth name importer).run s =
          ((l.catalog c).loadOn chain.names name importer).run s := by
  induction depth with
  | zero =>
    -- Down here the chain would have more packages on it than there are with a source.
    intro chain s hs ht hsourced hdepth
    have hle := hsourced.length_le ht.nodup
    omega
  | succ depth ih =>
    intro chain s hs ht hsourced hdepth name importer
    have hdrop : l.Sourced chain.names.dropLast := fun other hother => hsourced other (List.dropLast_subset _ hother)
    have hpass : ∀ s' : Store, s'.Stacked chain.names → (l.guard alarm).run s' = .ok () s' :=
      fun s' h => guard_run (nests_of_stacked h ht.nodup hdrop) alarm
    rw [Catalog.nested]
    cases hkept : s.package? name with
    | some package =>
      rw [Catalog.loadBy, Catalog.loadOn_of_kept hkept]
      simp only [EStateM.run_bind, hpass s ht.stacked, EStateM.run_get, hkept]
      rfl
    | none =>
      by_cases hchain : name ∈ chain.names
      · rw [← ht.loading] at hchain ⊢
        exact loadBy_of_cycle (fun s' hl hp => hpass s' (ht.stacked.of_eq hl hp)) hkept hchain
      · have hfresh : name ∉ s.loading := ht.loading ▸ hchain
        have htrail : (s.entering chain.names name importer).OnTrail (chain ++ [(name, importer)]) :=
          ht.enter hkept hchain
        have hnodup := htrail.nodup
        have hentered := htrail.stacked
        rw [Chain.names_concat] at hnodup hentered
        have hinner : ∀ s' : Store, s'.Stacked (chain.names ++ [name]) → (l.guard alarm).run s' = .ok () s' :=
          fun s' h => guard_run (nests_of_stacked h hnodup (by rwa [List.dropLast_concat])) alarm
        rw [loadBy_of_fresh (hpass s ht.stacked) hkept hfresh, ht.loading, EStateM.run_bind, hinner _ hentered]
        cases hfetch : l.fetch? name with
        | none => exact missing_run ht hkept hchain hinner hpass hfetch
        | some fetch =>
          refine compiled_run ht hkept hchain hinner hpass hs hfetch fun other p s' hs' ht' => ih hs' ht' ?_ ?_ other p
          · rw [Chain.names_concat]
            exact hsourced.concat hfetch
          · rw [Chain.names_concat, List.length_append, List.length_singleton]
            omega

/-- However the packages import each other, a load comes to an end, and so it does when it may go down only one level
more than there are packages with a source. At every look at the store the packages being loaded are as they should
be. -/
theorem load_nests (h : l.Visited c chain s) (name : PackageName) (importer : Option Position) :
    ∃ r s', ((l.catalog c).load name importer).run s = .ok r s' ∧ ∀ (alarm : Run Unit) (bottom : Importer),
      ((l.catalog c).nested (l.guard alarm) bottom (l.size + 1) name importer).run s = .ok r s' := by
  obtain ⟨hs, ht⟩ := h.sound
  obtain ⟨r, s', hrun, _⟩ := l.loadOn_loads c chain name importer s hs ht
  refine ⟨r, s', ?_, fun alarm bottom => ?_⟩
  · rw [Catalog.load]
    change ((l.catalog c).loadOn s.loading name importer).run s = _
    rw [ht.loading]
    exact hrun
  · rw [nested_run l c alarm bottom (l.size + 1) hs ht h.sourced (by omega)]
    exact hrun

theorem cycle_of_two_nests : ∃ chain s, twoOfCycle.Visited {} chain s ∧ s.loading = [firstOfTwo] ∧
    ∃ r s', ((twoOfCycle.catalog {}).load secondOfTwo (some (placeOfTwo 0))).run s = .ok r s' ∧
      ∀ (alarm : Run Unit) (bottom : Importer),
        ((twoOfCycle.catalog {}).nested (twoOfCycle.guard alarm) bottom 3 secondOfTwo (some (placeOfTwo 0))).run s =
          .ok r s' := by
  have hmoment : ((twoOfCycle.open? [] firstOfTwo none {}).bind (twoOfCycle.advance? {})).map (·.store.loading) =
      some [firstOfTwo] := by
    decide +kernel
  obtain ⟨m, hm, hloading⟩ := Option.map_eq_some_iff.mp hmoment
  obtain ⟨m₀, hopen, hadvance⟩ := Option.bind_eq_some_iff.mp hm
  have hvisited : twoOfCycle.Visited {} m.chain m.store := .during .empty ((Passes.first hopen).next hadvance)
  exact ⟨m.chain, m.store, hvisited, hloading, load_nests hvisited secondOfTwo (some (placeOfTwo 0))⟩

end Library

end RecordSchema
