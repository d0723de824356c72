import RecordSchema.Proofs.Alongside.Step
import RecordSchema.Proofs.Load.Session

namespace RecordSchema

variable {r : Relocation} {l l' : Library} {c : Capabilities} {chain chain' : Chain} {name : PackageName}
  {importer importer' : Option Position} {s s' : Store}

namespace Store.Alongside

lemma entering (h : s.Alongside r l l' s') (chain chain' : List PackageName) (name : PackageName)
    (importer importer' : Option Position) :
    (s.entering chain name importer).Alongside r l l' (s'.entering chain' name importer') :=
  h.aside ..

lemma leaving (h : s.Alongside r l l' s') (chain chain' : List PackageName) :
    (s.leaving chain).Alongside r l l' (s'.leaving chain') :=
  h.aside ..

lemma conclude_both (h : s.Alongside r l l' s') (name : PackageName) (queued : Nat) {x x' : Except LoadError Package}
    (hx : x.map (Package.relocate r) = x'.map (Package.relocate r)) :
    (Run.conclude name queued x).Both (Run.conclude name queued x') s s' (SameLoaded r l l') := by
  cases x with
  | error e =>
    cases x' with
    | ok p' => cases hx
    | error e' => exact .of_run rfl rfl ⟨rfl, h⟩
  | ok p =>
    cases x' with
    | error e' => cases hx
    | ok p' =>
      by_cases hlength : s.diagnostics.length = queued
      · have hlength' : s'.diagnostics.length = queued := h.length_diagnostics.symm.trans hlength
        exact .of_run (Run.run_conclude_kept hlength) (Run.run_conclude_kept hlength') ⟨hx, h.keeping (Except.ok.inj hx)⟩
      · have hlength' : s'.diagnostics.length ≠ queued := fun heq => hlength (h.length_diagnostics.trans heq)
        exact .of_run (Run.run_conclude_dropped hlength) (Run.run_conclude_dropped hlength') ⟨rfl, h⟩

end Store.Alongside

namespace Library

lemma Matches.fetch_both (h : l.Matches r l') {fetch fetch' : Fetch} (hfetch : l.fetch? name = some fetch)
    (hfetch' : l'.fetch? name = some fetch') (hs : s.Alongside r l l' s') :
    fetch.Both fetch' s s' fun x t x' t' => ∃ file text text' sources sources', x = .ok (file, text) ∧
      x' = .ok (file, text') ∧ (∀ k, (Expr.read k text).relocate r = (Expr.read k text').relocate r) ∧
      t = { s with sources } ∧ t' = { s' with sources := sources' } ∧ t.Alongside r l l' t' := by
  obtain ⟨names, hnames, hnames'⟩ := hs.listed
  refine .of_ends ((fetch_gets hfetch hs.filed.1).and (fetch_lists hfetch hnames))
    ((fetch_gets hfetch' hs.filed.2).and (fetch_lists hfetch' hnames')) ?_
  rintro x t x' t' ⟨hgets, hlists⟩ ⟨hgets', hlists'⟩
  cases hgets with
  | unread source =>
    cases hgets' with
    | unread source' | text source' => obtain ⟨_, _, ⟨⟩, _⟩ := h.exists_texts source source'
  | @text text file sources source registered _ filed =>
    cases hgets' with
    | unread source' => obtain ⟨_, _, _, ⟨⟩, _⟩ := h.exists_texts source source'
    | @text text' file' sources' source' registered' _ filed' =>
      obtain ⟨_, _, ⟨⟩, ⟨⟩, hsame⟩ := h.exists_texts source source'
      rw [SourceRegistry.Lists.lookup? hlists] at registered
      rw [SourceRegistry.Lists.lookup? hlists'] at registered'
      obtain rfl : file = file' := Option.some.inj (registered.symm.trans registered')
      exact ⟨file, text, text', sources, sources', rfl, rfl, hsame, rfl, rfl,
        { hs with listed := ⟨_, hlists, hlists'⟩, filed := ⟨filed, filed'⟩ }⟩

lemma Matches.supply_both (h : l.Matches r l') {fetch fetch' : Fetch} (hfetch : l.fetch? name = some fetch)
    (hfetch' : l'.fetch? name = some fetch') (importer importer' : Option Position) {load load' : Importer}
    (hl : load.Loads c chain) (hl' : load'.Loads c chain') (hload : load.Alongside r l l' c chain chain' load')
    (hsound : s.Sound c) (hsound' : s'.Sound c) (ht : s.OnTrail chain) (ht' : s'.OnTrail chain') (hs : s.Alongside r l l' s') :
    (Catalog.compiling c name fetch load importer).Both (Catalog.compiling c name fetch' load' importer') s s'
      (SameLoaded r l l') := by
  refine (h.fetch_both hfetch hfetch' hs).bind ?_
  rintro _ _ _ _ ⟨file, text, text', sources, sources', rfl, rfl, hsame, rfl, rfl, hs⟩
  have hu : ({} : FileState).Underway c chain { s with sources } none :=
    .initial (hsound.of_eq rfl rfl (Nat.le_refl _)) (ht.of_eq rfl rfl rfl)
  have hu' : ({} : FileState).Underway c chain' { s' with sources := sources' } none :=
    .initial (hsound'.of_eq rfl rfl (Nat.le_refl _)) (ht'.of_eq rfl rfl rfl)
  exact FileState.compile_alongside hl hl' hload (hsame file) (congrArg Reading.exprs (hsame file)) hu hu' hs rfl rfl

section

variable (hchain : chain.relocate r = chain'.relocate r)
  (himporter : importer.map r.position = importer'.map r.position) (hs : s.Alongside r l l' s')
  (hcached : s.package? name = none) (hcached' : s'.package? name = none)
include hchain himporter hs hcached hcached'

lemma cycle_alongside (ht : s.OnTrail chain) (ht' : s'.OnTrail chain') (hname : name ∈ chain.names)
    (hname' : name ∈ chain'.names) : ((l.catalog c).loadOn chain.names name importer).Both
      ((l'.catalog c).loadOn chain'.names name importer') s s' (SameLoaded r l l') := by
  obtain ⟨current, hlast⟩ : ∃ current, chain.names.getLast? = some current :=
    Option.isSome_iff_exists.mp (by simpa using List.ne_nil_of_mem hname)
  have hlast' : chain'.names.getLast? = some current := Chain.names_eq hchain ▸ hlast
  have hcycle : (chain.cycle name importer).map (Import.relocate r) =
      (chain'.cycle name importer').map (Import.relocate r) := by
    rw [← Chain.cycle_relocate, ← Chain.cycle_relocate, hchain, himporter]
  refine .of_run (Catalog.loadOn_of_cycle hcached hname hlast) (Catalog.loadOn_of_cycle hcached' hname' hlast')
    ⟨rfl, ?_⟩
  rw [ht.shortestPath_eq hname hlast, ht'.shortestPath_eq hname' hlast']
  refine Store.Alongside.reporting (hs.aside ..) ?_
  rw [Diagnostic.relocate, Diagnostic.relocate, hcycle, himporter]

omit hchain in
lemma missing_alongside (hname : name ∉ chain.names) (hname' : name ∉ chain'.names) (hfetch : l.fetch? name = none)
    (hfetch' : l'.fetch? name = none) : ((l.catalog c).loadOn chain.names name importer).Both
      ((l'.catalog c).loadOn chain'.names name importer') s s' (SameLoaded r l l') := by
  refine .of_run (Catalog.loadOn_of_missing hcached hname (supplier?_of_no_fetch hfetch))
    (Catalog.loadOn_of_missing hcached' hname' (supplier?_of_no_fetch hfetch')) ⟨rfl, ?_⟩
  refine ((hs.entering ..).reporting ?_).leaving ..
  simp [ResolveError.relocate, himporter]

end

theorem Matches.loadOn_alongside (h : l.Matches r l') (c : Capabilities) (chain chain' : Chain)
    (hchain : chain.relocate r = chain'.relocate r) : Importer.Alongside r l l' c chain chain'
      ((l.catalog c).loadOn chain.names) ((l'.catalog c).loadOn chain'.names) := by
  intro name importer importer' s s' himporter hsound hsound' ht ht' hs
  have hnames := Chain.names_eq hchain
  have hkept := hs.package?_eq name
  cases hcached : s.package? name with
  | some package =>
    rw [hcached] at hkept
    obtain ⟨package', hcached', hsame⟩ := Option.map_eq_some_iff.mp hkept.symm
    exact .of_run (Catalog.loadOn_of_kept hcached) (Catalog.loadOn_of_kept hcached') ⟨congrArg Except.ok hsame.symm, hs⟩
  | none =>
    rw [hcached] at hkept
    have hcached' : s'.package? name = none := Option.map_eq_none_iff.mp hkept.symm
    by_cases hname : name ∈ chain.names
    · have hname' : name ∈ chain'.names := hnames ▸ hname
      exact cycle_alongside hchain himporter hs hcached hcached' ht ht' hname hname'
    · have hname' : name ∉ chain'.names := hnames ▸ hname
      have hsome := h.fetch?_isSome name
      cases hfetch : l.fetch? name with
      | none =>
        rw [hfetch] at hsome
        have hfetch' : l'.fetch? name = none := by
          rw [← Option.isNone_iff_eq_none, ← Option.not_isSome, ← hsome]
          rfl
        exact missing_alongside himporter hs hcached hcached' hname hname' hfetch hfetch'
      | some fetch =>
        rw [hfetch] at hsome
        obtain ⟨fetch', hfetch'⟩ := Option.isSome_iff_exists.mp hsome.symm
        have hsupplier := supplier?_of_fetch (c := c) hfetch
        have hsupplier' := supplier?_of_fetch (c := c) hfetch'
        -- The imports of the files are loaded on longer chains: fewer packages remain.
        have hmem := Catalog.mem_names_of_supplier? hsupplier
        have hlonger : Chain.relocate r (chain ++ [(name, importer)]) =
            Chain.relocate r (chain' ++ [(name, importer')]) := by
          rw [Chain.relocate_concat, Chain.relocate_concat, hchain, himporter]
        have hinner := loadOn_alongside h c (chain ++ [(name, importer)]) (chain' ++ [(name, importer')]) hlonger
        have hl := l.loadOn_loads c (chain ++ [(name, importer)])
        have hl' := l'.loadOn_loads c (chain' ++ [(name, importer')])
        rw [Chain.names_concat, Chain.names_concat] at hinner
        rw [Chain.names_concat] at hl hl'
        refine .of_run_eq (Catalog.loadOn_of_supplied hcached hname hsupplier)
          (Catalog.loadOn_of_supplied hcached' hname' hsupplier') ?_
        have hsupply := h.supply_both hfetch hfetch' importer importer' hl hl' hinner
          (hsound.entering chain.names name importer) (hsound'.entering chain'.names name importer')
          (ht.enter hcached hname) (ht'.enter hcached' hname') (hs.entering ..)
        refine hsupply.bind fun x t x' t' hloaded => ?_
        rw [hs.length_diagnostics]
        exact .of_run_eq rfl rfl ((hloaded.2.leaving chain.names chain'.names).conclude_both name _ hloaded.1)
termination_by ((l.catalog c).remaining chain.names).length
decreasing_by
  rw [Chain.names_concat]
  exact Catalog.length_remaining_lt hmem hname

end Library

inductive Reply where
  | loaded (result : Except LoadError Package)
  | taken (found : List Diagnostic)

@[simp] def Reply.relocate (r : Relocation) : Reply → Reply
  | loaded result => loaded (result.map (.relocate r))
  | taken found => taken (found.map (.relocate r))

namespace Catalog

def reply (k : Catalog) : Request → Run Reply
  | .load name importer => do return .loaded (← k.load name importer)
  | .takeDiagnostics => do return .taken (← Run.takeDiagnostics)

def replies (k : Catalog) (requests : List Request) : Run (List Reply) :=
  requests.mapM k.reply

lemma serve_eq_replies (k : Catalog) : ∀ requests : List Request, k.serve requests = (fun _ => ()) <$> k.replies requests
  | [] => by rw [serve, replies, List.mapM_nil, map_pure]
  | .load name importer :: rest => by
    rw [serve, replies, List.mapM_cons, serve_eq_replies k rest, reply]
    simp [replies]
  | .takeDiagnostics :: rest => by
    rw [serve, replies, List.mapM_cons, serve_eq_replies k rest, reply]
    simp [replies]

end Catalog

namespace Library

def SameReplies (r : Relocation) (l l' : Library) (c : Capabilities) (rs : List Reply) (s : Store) (rs' : List Reply)
    (s' : Store) : Prop :=
  rs.map (Reply.relocate r) = rs'.map (Reply.relocate r) ∧ s.Alongside r l l' s' ∧ s.Idle c ∧ s'.Idle c

lemma Matches.reply_both (h : l.Matches r l') (request : Request) (hidle : s.Idle c) (hidle' : s'.Idle c)
    (hs : s.Alongside r l l' s') : ((l.catalog c).reply request).Both ((l'.catalog c).reply request) s s' fun x t x' t' =>
      x.relocate r = x'.relocate r ∧ t.Alongside r l l' t' ∧ t.Idle c ∧ t'.Idle c := by
  cases request with
  | load name importer =>
    have hload := h.loadOn_alongside c [] [] rfl name importer importer s s' rfl hidle.sound hidle'.sound hidle.trail
      hidle'.trail hs
    obtain ⟨x, t, x', t', hx, hx', hsame, ht⟩ := hload
    have hrun := (run_load hidle.trail name importer).trans hx
    have hrun' := (run_load hidle'.trail name importer).trans hx'
    have hnext := ((load_ends hidle name importer).elim hrun).2
    have hnext' := ((load_ends hidle' name importer).elim hrun').2
    refine .of_run (a := .loaded x) (b := .loaded x') ?_ ?_ ⟨congrArg Reply.loaded hsame, ht, hnext, hnext'⟩
    · rw [Catalog.reply, EStateM.run_bind, hrun]
      rfl
    · rw [Catalog.reply, EStateM.run_bind, hrun']
      rfl
  | takeDiagnostics =>
    exact .of_run rfl rfl ⟨congrArg Reply.taken hs.diagnostics, hs.drained, hidle.drained, hidle'.drained⟩

theorem Matches.replies_both (h : l.Matches r l') (c : Capabilities) (requests : List Request) {s s' : Store}
    (hidle : s.Idle c) (hidle' : s'.Idle c) (hs : s.Alongside r l l' s') :
    ((l.catalog c).replies requests).Both ((l'.catalog c).replies requests) s s' (SameReplies r l l' c) := by
  induction requests generalizing s s' with
  | nil => exact .of_run rfl rfl ⟨rfl, hs, hidle, hidle'⟩
  | cons request rest ih =>
    rw [Catalog.replies, Catalog.replies, List.mapM_cons, List.mapM_cons]
    refine (h.reply_both request hidle hidle' hs).bind fun x t x' t' ⟨hsame, ht, hnext, hnext'⟩ => ?_
    refine (ih hnext hnext' ht).bind fun rs u rs' u' ⟨hrest, hu⟩ => ?_
    refine .of_run rfl rfl ⟨?_, hu⟩
    rw [List.map_cons, List.map_cons, hsame, hrest]

lemma Matches.replies_afresh (h : l.Matches r l') (c : Capabilities) (requests : List Request) :
    ((l.catalog c).replies requests).Both ((l'.catalog c).replies requests) {} {} (SameReplies r l l' c) :=
  h.replies_both c requests ⟨.initial, .initial⟩ ⟨.initial, .initial⟩ (.initial r l l')

end Library

end RecordSchema
