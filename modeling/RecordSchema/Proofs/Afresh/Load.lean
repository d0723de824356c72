import RecordSchema.Proofs.Afresh.Step
import RecordSchema.Proofs.Load.Unwind

namespace RecordSchema

def Product.delivered (name : PackageName) : Product → Except LoadError Package
  | none => .error (.failed name)
  | some (package, _) => if package.name = name then .ok package else .error (.failed name)

lemma FileState.close_run (f : FileState) (reading : Reading) (s : Store) :
    (f.close reading).run s = .ok () { s with diagnostics := s.diagnostics ++ f.remains reading } := by
  have hnone : (pure () : Run Unit).run s = .ok () { s with diagnostics := s.diagnostics ++ [] } := by
    rw [List.append_nil]
    rfl
  rw [close, remains]
  cases reading.error with
  | some error => rfl
  | none =>
    dsimp only
    rw [finish]
    cases f.scope.finish reading.finish with
    | error error => rfl
    | ok _ => exact hnone

lemma Product.deliver_run (product : Product) (name : PackageName) (s : Store) : (product.deliver name).run s =
    .ok (product.delivered name) { s with diagnostics := s.diagnostics ++ product.misnamed name } := by
  have hnone {r : Except LoadError Package} : (pure r : Run (Except LoadError Package)).run s =
      .ok r { s with diagnostics := s.diagnostics ++ [] } := by
    rw [List.append_nil]
    rfl
  cases product with
  | none => exact hnone
  | some entry =>
    obtain ⟨package, p⟩ := entry
    rw [deliver, delivered, misnamed]
    split
    · exact hnone
    · rfl

namespace Draft

variable {l : Library} {c : Capabilities} {k : Site} {s s' : Store} {w w' : Draft} {load : Importer}
  {reading : Reading} {rest : List Expr}

def reports (w : Draft) (name : PackageName) (reading : Reading) : List Diagnostic :=
  w.told ++ w.file.remains reading ++ w.product.misnamed name

inductive Comes (l : Library) (c : Capabilities) (k : Site) (w : Draft) (s : Store) (reading : Reading)
    (rest : List Expr) : Except LoadError Package → Store → Prop
  | closes (w' : Draft) {s' : Store} (reaches : Reaches l c k w s rest w' s') :
      Comes l c k w s reading rest (w'.product.delivered k.name)
        { s' with diagnostics := k.earlier ++ w'.reports k.name reading }
  | breaks {e : LoadError} {lost : List Package} {found : List Diagnostic} {s' : Store}
      (breaks : Breaks l c k w s rest lost found s') : Comes l c k w s reading rest (.error e) s'

lemma Comes.cons {e : Expr} {r : Except LoadError Package} {s'' : Store} (h : Reaches l c k w s [e] w' s')
    (h' : Comes l c k w' s' reading rest r s'') : Comes l c k w s reading (e :: rest) r s'' := by
  cases h' with
  | closes w'' reaches => exact .closes w'' (h.append reaches)
  | breaks breaks => exact .breaks (h.breaks breaks)

lemma Tracks.close_run (h : w.Tracks l c k s) (load : Importer) (reading : Reading) :
    (w.file.compile c load k.name reading w.product []).run s =
      .ok (w.product.delivered k.name) { s with diagnostics := k.earlier ++ w.reports k.name reading } := by
  have hreports : s.diagnostics ++ w.file.remains reading ++ w.product.misnamed k.name =
      k.earlier ++ w.reports k.name reading := by
    rw [h.told, reports]
    simp only [List.append_assoc]
  rw [← hreports]
  change ((w.file.close reading >>= fun _ => w.product.deliver k.name).run s) = _
  rw [EStateM.run_bind, FileState.close_run]
  exact Product.deliver_run _ _ _

theorem Tracks.compile_comes (hl : load.Loads c k.chain)
    (hr : ∀ ds, load.Retells l c k.chain (k.opens ++ [⟨k.name, ds⟩])) (reading : Reading) :
    ∀ (rest : List Expr) {w : Draft} {s : Store}, w.Tracks l c k s →
      (w.file.compile c load k.name reading w.product rest).Ends s (Comes l c k w s reading rest)
  | [], w, s, h => .of_run (h.close_run load reading) (.closes w (.refl h))
  | e :: rest, w, s, h => by
    obtain ⟨r, s₁, hrun, hsteps⟩ := h.feed_steps hl hr e
    have hafter := (h.underway.feed_ends hl e).elim hrun
    cases hsteps with
    | @reaches w' out _ goes product reaches =>
      have hrest := (compile_comes hl hr reading rest reaches.tracks).mono fun _ _ => Comes.cons reaches
      refine .of_run_eq ?_ hrest
      cases out with
      | nothing =>
        rw [product]
        exact FileState.compile_cons_nothing hrun
      | abort => exact absurd rfl goes
      | finished package =>
        rw [product, hafter.2.1]
        exact FileState.compile_cons_finished hrun
    | breaks product breaks =>
      rw [product]
      exact .of_run (FileState.compile_cons_abort hrun) (.breaks breaks.cut)

lemma Tracks.initial (hs : s.Sound c) (ht : s.OnTrail k.chain) (hkept : s.Kept l c k.opens)
    (hearlier : s.diagnostics = k.earlier) : Tracks l c k s { needs := [k.name] } where
  underway := .initial hs ht
  kept := hkept.mono (.refl s) rfl (.refl _) hkept.filed (by simp [entries, gathered])
  told := by rw [hearlier, List.append_nil]
  part := .empty _
  scope := ⟨by rintro entry ⟨⟩, by rintro p ⟨⟩⟩
  bound := rfl
  gathered_subset := List.nil_subset _
  needs m hm := .inl (List.mem_singleton.mp hm)
  name_mem_needs := List.mem_singleton_self _

lemma gathered_package {name : PackageName} {package : Package} {p : Position}
    (hproduct : w.product = some (package, p)) (hname : package.name = name) :
    (⟨name, w.gathered⟩ : Package) = package := by
  rw [gathered, hproduct, ← hname]

lemma finish_eq_ok {name : PackageName} {package : Package} {p : Position} (hreports : w.reports name reading = [])
    (hproduct : w.product = some (package, p)) : w.finish name reading = .ok ⟨package, w.types, w.needs⟩ := by
  rw [reports] at hreports
  rw [finish, hreports, hproduct]

lemma finish_eq_error {name : PackageName} (h : w.reports name reading ≠ [] ∨ w.product = none) :
    w.finish name reading = .error (.error (w.reports name reading)) := by
  rw [finish, reports]
  generalize hreports : w.told ++ w.file.remains reading ++ w.product.misnamed name = found
  rw [reports, hreports] at h
  cases found with
  | cons d rest => rfl
  | nil =>
    rw [h.resolve_left fun hne => hne rfl]

end Draft

variable {l : Library} {c : Capabilities} {name : PackageName} {importer : Option Position}

lemma Library.afresh_of_text {n : Numbering} {chain : Chain} {text : String} (hname : name ∉ chain.names)
    (hsource : l.source? name = some (.ok text)) : l.afresh c n chain name importer =
      compileAfresh c n (l.afresh c n (chain ++ [(name, importer)])) name text := by
  rw [afresh, dif_neg hname]
  split
  · next hnone => cases hsource.symm.trans hnone
  · next hunread => cases hsource.symm.trans hunread
  · next htext =>
    cases hsource.symm.trans htext
    rfl

lemma Library.afresh_of_missing {n : Numbering} {chain : Chain} (hname : name ∉ chain.names)
    (hsource : l.source? name = none) : l.afresh c n chain name importer =
      .error (.error [.resolution ⟨.packageNonexistent name, importer⟩]) := by
  rw [afresh, dif_neg hname]
  split
  · rfl
  · next hunread => cases hsource.symm.trans hunread
  · next htext => cases hsource.symm.trans htext

lemma Library.afresh_of_unread {n : Numbering} {chain : Chain} {d : Diagnostic} (hname : name ∉ chain.names)
    (hsource : l.source? name = some (.error d)) : l.afresh c n chain name importer = .error (.error [d]) := by
  rw [afresh, dif_neg hname]
  split
  · next hnone => cases hsource.symm.trans hnone
  · next hunread =>
    cases hsource.symm.trans hunread
    rfl
  · next htext => cases hsource.symm.trans htext

namespace Draft.Reaches

variable {k : Site} {s s' : Store} {w' : Draft} {text : String} {file : FileId}

lemma afresh_eq (h : Reaches l c k { needs := [k.name] } s (Expr.read file text).exprs w' s')
    (hsource : l.source? k.name = some (.ok text)) (hfile : s.sources.lookup? (l.path k.name) = some file)
    {n : Numbering} (hn : n.Suits l s' [⟨k.name, w'.gathered⟩]) {outer : Chain} (importer : Option Position)
    (houter : ∀ m ∈ w'.needs, m ∉ outer.names) :
    l.afresh c n outer k.name importer = w'.finish k.name (Expr.read file text) := by
  have hread : n.file k.name = file := hn.file _ _ (h.sources _ _ hfile)
  rw [Library.afresh_of_text (houter _ h.tracks.name_mem_needs) hsource, compileAfresh, hread]
  rw [h.again n hn outer importer houter]
  rfl

lemma certified (h : Reaches l c k { needs := [k.name] } s (Expr.read file text).exprs w' s')
    (hsource : l.source? k.name = some (.ok text)) (hfile : s.sources.lookup? (l.path k.name) = some file)
    {package : Package} {p : Position} (hproduct : w'.product = some (package, p)) (hname : package.name = k.name)
    (hreports : w'.reports k.name (Expr.read file text) = []) {s'' : Store} (hs : s'.Grows s'')
    (hsources : s'.sources.Extends s''.sources) (hpackages : s''.packages = s'.packages ++ [package]) :
    Yield.Certified l c s'' ⟨package, w'.types, w'.needs⟩ where
  again n hn chain importer hchain := by
    have hsuits : n.Suits l s' [⟨k.name, w'.gathered⟩] := by
      refine hn.mono hsources ?_
      rw [gathered_package hproduct hname, hpackages, List.append_nil]
      exact List.Subset.refl _
    change l.afresh c n chain package.name importer = _
    rw [hname, h.afresh_eq hsource hfile hsuits importer hchain, finish_eq_ok hreports hproduct]
  needs m hm := by
    rw [hpackages]
    rcases h.tracks.needs m hm with rfl | ⟨q, hq, heq⟩
    · exact ⟨package, List.mem_append_right _ (List.mem_singleton_self _), hname⟩
    · exact ⟨q, List.mem_append_left _ hq, heq⟩
  part := h.tracks.part.mono hs.types
  registered d hd := by
    refine ⟨h.tracks.gathered_subset ?_, ((h.tracks.underway.delivered _ hproduct).1 d hd).2⟩
    rw [Draft.gathered, hproduct]
    exact hd

lemma keep (h : Reaches l c k { needs := [k.name] } s (Expr.read file text).exprs w' s')
    (hsource : l.source? k.name = some (.ok text)) (hfile : s.sources.lookup? (l.path k.name) = some file)
    {package : Package} {p : Position} (hproduct : w'.product = some (package, p)) (hname : package.name = k.name)
    (hreports : w'.reports k.name (Expr.read file text) = []) {s'' : Store} (hs : s'.Grows s'')
    (hsources : s''.sources = s'.sources) (hpackages : s''.packages = s'.packages ++ [package]) :
    s''.Kept l c k.opens where
  filed := hsources ▸ h.tracks.kept.filed
  distinct := by
    refine h.tracks.kept.distinct.mono ?_ hs.nextIdentifier
    rw [hpackages, gathered_package hproduct hname]
    refine entries_subset fun q hq => ?_
    simp only [List.mem_append, List.mem_singleton] at hq ⊢
    tauto
  certified q hq := by
    have hextends : s'.sources.Extends s''.sources := hsources ▸ .refl _
    rw [hpackages, List.mem_append, List.mem_singleton] at hq
    rcases hq with hq | rfl
    · obtain ⟨y, hy, heq⟩ := h.tracks.kept.certified q hq
      exact ⟨y, hy.mono hs hextends, heq⟩
    · exact ⟨_, h.certified hsource hfile hproduct hname hreports hs hextends hpackages, rfl⟩

lemma drop (h : Reaches l c k { needs := [k.name] } s (Expr.read file text).exprs w' s')
    (hsource : l.source? k.name = some (.ok text)) (hfile : s.sources.lookup? (l.path k.name) = some file)
    (hreports : w'.reports k.name (Expr.read file text) ≠ [] ∨ w'.product = none) {s₀ s'' : Store}
    (hearlier : s₀.diagnostics = k.earlier) (hs₀ : s₀.sources.Extends s.sources) (hs : s'.Grows s'')
    (hsources : s''.sources = s'.sources) (hpackages : s''.packages = s'.packages)
    (hdiagnostics : s''.diagnostics = k.earlier ++ w'.reports k.name (Expr.read file text)) :
    Retold l c k.outer k.opens k.name k.importer s₀ (.error (.failed k.name)) s'' := by
  have hextends : s'.sources.Extends s''.sources := hsources ▸ .refl _
  refine .failed [⟨k.name, w'.gathered⟩] (w'.reports k.name (Expr.read file text)) (fun _ => rfl) ?_
    ((hs₀.trans h.sources).trans hextends) (by rw [hdiagnostics, hearlier]) fun n hn => ?_
  · exact h.tracks.kept.of_eq hs hpackages hsources
  · have hsuits : n.Suits l s' [⟨k.name, w'.gathered⟩] := by
      refine hn.mono hextends ?_
      rw [hpackages]
      exact List.Subset.refl _
    rw [h.afresh_eq hsource hfile hsuits k.importer h.tracks.needs_not_mem_outer, finish_eq_error hreports]

end Draft.Reaches

lemma Draft.Breaks.retold {k : Site} {s₀ s s' : Store} {text : String} {file : FileId} {lost : List Package}
    {found : List Diagnostic} (h : Breaks l c k { needs := [k.name] } s (Expr.read file text).exprs lost found s')
    (hname : k.name ∉ k.outer.names) (hsource : l.source? k.name = some (.ok text))
    (hfile : s.sources.lookup? (l.path k.name) = some file) (hearlier : s₀.diagnostics = k.earlier)
    (hs₀ : s₀.sources.Extends s.sources) (chain : List PackageName) :
    Retold l c k.outer k.opens k.name k.importer s₀ (.error (.failed k.name)) (s'.leaving chain) := by
  have hreported : (s'.leaving chain).diagnostics = s₀.diagnostics ++ found := by
    rw [hearlier]
    exact h.reported
  refine .failed lost found (fun _ => rfl) ?_ (hs₀.trans h.sources) hreported fun n hn => ?_
  · exact h.kept.of_eq (.of_eq rfl rfl (Nat.le_refl _)) rfl rfl
  · have hsuits : n.Suits l s' lost := ⟨hn.file, hn.identifier⟩
    have hread : n.file k.name = file := hn.file _ _ (h.sources _ _ hfile)
    have hagain := h.again n hsuits
    rw [Library.afresh_of_text hname hsource, compileAfresh, hread]
    change (List.foldlM (Draft.feed c n (l.afresh c n k.chain) k.name) _ _ >>= _) = _
    rw [hagain]
    rfl

lemma Product.name_eq_of_misnamed {package : Package} {p : Position}
    (h : Product.misnamed name (some (package, p)) = []) : package.name = name := by
  by_contra hne
  rw [misnamed, if_neg hne] at h
  cases h

lemma Draft.Reaches.conclude_ends {k : Site} {s₀ s s' : Store} {w' : Draft} {text : String} {file : FileId}
    (h : Reaches l c k { needs := [k.name] } s (Expr.read file text).exprs w' s')
    (hsource : l.source? k.name = some (.ok text)) (hfile : s.sources.lookup? (l.path k.name) = some file)
    (hearlier : s₀.diagnostics = k.earlier) (hs₀ : s₀.sources.Extends s.sources) {s'' : Store} (hs : s'.Grows s'')
    (hsources : s''.sources = s'.sources) (hpackages : s''.packages = s'.packages)
    (hdiagnostics : s''.diagnostics = k.earlier ++ w'.reports k.name (Expr.read file text)) :
    (Run.conclude k.name s₀.diagnostics.length (w'.product.delivered k.name)).Ends s''
      (Retold l c k.outer k.opens k.name k.importer s₀) := by
  have hdropped (hreports : w'.reports k.name (Expr.read file text) ≠ [] ∨ w'.product = none) :
      Retold l c k.outer k.opens k.name k.importer s₀ (.error (.failed k.name)) s'' :=
    h.drop hsource hfile hreports hearlier hs₀ hs hsources hpackages hdiagnostics
  cases hproduct : w'.product with
  | none => exact .of_run rfl (hdropped (.inr hproduct))
  | some entry =>
    obtain ⟨package, p⟩ := entry
    rw [Product.delivered]
    by_cases hreports : w'.reports k.name (Expr.read file text) = []
    · have hpackage : package.name = k.name := by
        rw [reports, hproduct] at hreports
        exact Product.name_eq_of_misnamed (List.append_eq_nil_iff.mp hreports).2
      have hlength : s''.diagnostics.length = s₀.diagnostics.length := by
        rw [hdiagnostics, hreports, List.append_nil, hearlier]
      have hkeeps : s'.Grows { s'' with packages := s''.packages ++ [package] } :=
        hs.trans ⟨List.Subset.refl _, List.subset_append_left _ _, Nat.le_refl _⟩
      rw [if_pos hpackage]
      exact .of_run (Run.run_conclude_kept hlength) (.found
        (h.keep hsource hfile hproduct hpackage hreports hkeeps hsources (congrArg (· ++ [package]) hpackages))
        (hsources ▸ hs₀.trans h.sources))
    · by_cases hpackage : package.name = k.name
      · have hlength : s''.diagnostics.length ≠ s₀.diagnostics.length := by
          have hpositive := List.length_pos_iff.mpr hreports
          rw [hdiagnostics, List.length_append, hearlier]
          omega
        rw [if_pos hpackage]
        exact .of_run (Run.run_conclude_dropped hlength) (hdropped (.inl hreports))
      · rw [if_neg hpackage]
        exact .of_run rfl (hdropped (.inl hreports))

lemma Draft.Comes.conclude_ends {k : Site} {s₀ s s' : Store} {text : String} {file : FileId}
    {r : Except LoadError Package}
    (h : Comes l c k { needs := [k.name] } s (Expr.read file text) (Expr.read file text).exprs r s')
    (hname : k.name ∉ k.outer.names) (hsource : l.source? k.name = some (.ok text))
    (hfile : s.sources.lookup? (l.path k.name) = some file) (hearlier : s₀.diagnostics = k.earlier)
    (hs₀ : s₀.sources.Extends s.sources) :
    (Run.stopLoading k.outer.names >>= fun _ => Run.conclude k.name s₀.diagnostics.length r).Ends s'
      (Retold l c k.outer k.opens k.name k.importer s₀) := by
  have hleave : (Run.stopLoading k.outer.names).Ends s' fun _ t => t = s'.leaving k.outer.names := .of_run rfl rfl
  refine hleave.bind ?_
  rintro _ _ rfl
  cases h with
  | breaks breaks => exact .of_run rfl (breaks.retold hname hsource hfile hearlier hs₀ _)
  | closes w' reaches =>
    exact reaches.conclude_ends hsource hfile hearlier hs₀ (.of_eq rfl rfl (Nat.le_refl _)) rfl rfl rfl

lemma Retold.of_report {chain : Chain} {opens : List Package} {s s' : Store} {e : LoadError} {d : Diagnostic}
    (hkept : s.Kept l c opens) (hs : s.Grows s') (hpackages : s'.packages = s.packages)
    (hsources : s.sources.Extends s'.sources) (hfiled : s'.sources.Filed l)
    (hreported : s'.diagnostics = s.diagnostics ++ [d]) (hnamed : name ∉ chain.names → e = .failed name)
    (hagain : ∀ n : Numbering, l.afresh c n chain name importer = .error (.error [d])) :
    Retold l c chain opens name importer s (.error e) s' := by
  have hlost : s'.Kept l c (opens ++ []) := by
    rw [List.append_nil]
    exact hkept.mono hs hpackages hsources hfiled (List.Subset.refl _)
  exact .failed [] [d] hnamed hlost hsources hreported fun n _ => hagain n

lemma Library.compiling_retells {k : Site} {load : Importer} {fetch : Fetch} {s : Store} (hl : load.Loads c k.chain)
    (hr : ∀ ds, load.Retells l c k.chain (k.opens ++ [⟨k.name, ds⟩])) (hfetch : l.fetch? k.name = some fetch)
    (hcached : s.package? k.name = none) (hname : k.name ∉ k.outer.names) (hs : s.Sound c) (ht : s.OnTrail k.outer)
    (hkept : s.Kept l c k.opens) (hearlier : s.diagnostics = k.earlier) :
    (Catalog.compiling c k.name fetch load k.importer >>= fun r =>
      Run.stopLoading k.outer.names >>= fun _ => Run.conclude k.name s.diagnostics.length r).Ends
        (s.entering k.outer.names k.name k.importer) (Retold l c k.outer k.opens k.name k.importer s) := by
  have hfiled : (s.entering k.outer.names k.name k.importer).sources.Filed l := hkept.filed
  rw [Catalog.compiling, bind_assoc]
  refine (fetch_gets hfetch hfiled).bind fun r s' hr' => ?_
  cases hr' with
  | unread source extends_ filed =>
    refine .of_run rfl (.of_report hkept (.of_eq rfl rfl (Nat.le_refl _)) rfl extends_ filed rfl (fun _ => rfl) ?_)
    exact fun n => afresh_of_unread hname source
  | @text text file sources source registered extends_ filed =>
    let s₁ : Store := { s.entering k.outer.names k.name k.importer with sources }
    have htrail : s₁.OnTrail k.chain := (ht.enter hcached hname).of_eq rfl rfl rfl
    have hopen : s₁.Kept l c k.opens :=
      hkept.mono (.of_eq rfl rfl (Nat.le_refl _)) rfl extends_ filed (List.Subset.refl _)
    have htracks : Draft.Tracks l c k s₁ { needs := [k.name] } :=
      .initial (hs.of_eq rfl rfl (Nat.le_refl _)) htrail hopen hearlier
    refine (htracks.compile_comes hl hr (Expr.read file text) _).bind fun r s' hcomes => ?_
    exact hcomes.conclude_ends hname source registered hearlier extends_

theorem Library.loadOn_retells (l : Library) (c : Capabilities) (chain : Chain) (opens : List Package)
    (hopens : ∀ q ∈ opens, q.name ∈ chain.names) :
    Importer.Retells l c chain opens ((l.catalog c).loadOn chain.names) := by
  intro name importer s hs ht hkept
  cases hcached : s.package? name with
  | some package => exact .of_run (Catalog.loadOn_of_kept hcached) (.found hkept (.refl _))
  | none =>
    by_cases hchain : name ∈ chain.names
    · obtain ⟨current, hlast⟩ : ∃ current, chain.names.getLast? = some current :=
        Option.isSome_iff_exists.mp (by simpa using List.ne_nil_of_mem hchain)
      refine .of_run (Catalog.loadOn_of_cycle hcached hchain hlast) (.of_report hkept
        (.of_eq rfl rfl (Nat.le_refl _)) rfl (.refl _) hkept.filed rfl (absurd hchain) fun n => ?_)
      rw [afresh, dif_pos hchain, ht.shortestPath_eq hchain hlast]
    · cases hfetch : l.fetch? name with
      | none =>
        have hsource : l.source? name = none :=
          Option.not_isSome_iff_eq_none.mp (by rw [← fetch?_isSome, hfetch]; nofun)
        refine .of_run (Catalog.loadOn_of_missing hcached hchain (supplier?_of_no_fetch hfetch)) (.of_report hkept
          (.of_eq rfl rfl (Nat.le_refl _)) rfl (.refl _) hkept.filed rfl (fun _ => rfl) fun n => ?_)
        exact afresh_of_missing hchain hsource
      | some fetch =>
        have hsupplier := supplier?_of_fetch (c := c) hfetch
        -- The imports of its file are loaded on a longer chain: fewer packages remain.
        have hmem := Catalog.mem_names_of_supplier? hsupplier
        let k : Site := ⟨chain, name, importer, opens, hopens, s.diagnostics⟩
        have hloads := l.loadOn_loads c k.chain
        have hretells (ds : List Declaration) :=
          loadOn_retells l c k.chain (k.opens ++ [⟨name, ds⟩]) (k.opens_mem_chain ds)
        rw [k.names_chain] at hloads hretells
        refine .of_run_eq (Catalog.loadOn_of_supplied hcached hchain hsupplier) ?_
        exact compiling_retells (k := k) hloads hretells hfetch hcached hchain hs ht hkept rfl
termination_by ((l.catalog c).remaining chain.names).length
decreasing_by
  rw [k.names_chain]
  exact Catalog.length_remaining_lt hmem hchain

end RecordSchema
