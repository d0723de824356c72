import RecordSchema.Proofs.Afresh.Track

namespace RecordSchema

/-- What comes of the load of a package for the last one on a chain would come of it from nothing. The declarations
`lost` are those of packages that failed. -/
inductive Retold (l : Library) (c : Capabilities) (chain : Chain) (opens : List Package) (name : PackageName)
    (importer : Option Position) (s : Store) : Except LoadError Package → Store → Prop
  | found {p : Package} {s' : Store} (kept : s'.Kept l c opens) (sources : s.sources.Extends s'.sources) :
      Retold l c chain opens name importer s (.ok p) s'
  | failed {e : LoadError} {s' : Store} (lost : List Package) (found : List Diagnostic)
      (named : name ∉ chain.names → e = .failed name) (kept : s'.Kept l c (opens ++ lost))
      (sources : s.sources.Extends s'.sources) (reported : s'.diagnostics = s.diagnostics ++ found)
      (again : ∀ n : Numbering, n.Suits l s' lost → l.afresh c n chain name importer = .error (.error found)) :
      Retold l c chain opens name importer s (.error e) s'

def Importer.Retells (l : Library) (c : Capabilities) (chain : Chain) (opens : List Package) (load : Importer) :
    Prop :=
  ∀ name p s, s.Sound c → s.OnTrail chain → s.Kept l c opens →
    (load name p).Ends s (Retold l c chain opens name p s)

namespace FileState

variable {c : Capabilities} {t : TypeTable} {f : FileState} {i : Identifier} {package : PackageName}
  {d : Definition Target}

lemma settle_eq_bind : f.settle c t i package d = ((Check.layout c t d).retell .check >>= fun layout =>
    (Attempt.ofError (f.scope.commit ⟨i, package, d.name, d.position, layout⟩)).retell .resolution >>= fun scope =>
      .ok (⟨scope, f.collector.add ⟨i, package, d.name, d.position, layout⟩, f.results⟩,
        ⟨i, package, d.name, d.position, layout⟩)) := by
  rw [settle, Check.declaration]
  rcases Check.layout c t d with (e | fault) | layout <;> rfl

lemma name_of_settle {found : FileState × Declaration} (h : f.settle c t i package d = .ok found) :
    found.2.name = d.name := by
  rw [settle_eq_bind] at h
  obtain ⟨layout, _, h⟩ := exists_of_bind_eq_ok h
  obtain ⟨scope, _, h⟩ := exists_of_bind_eq_ok h
  cases h
  rfl

lemma settle_eq_check {e : CheckError} (h : f.settle c t i package d = .error (.error (.check e))) (j : Identifier) :
    f.settle c t j package d = .error (.error (.check e)) := by
  rw [settle_eq_bind] at h ⊢
  rcases hlayout : Check.layout c t d with (e' | fault) | layout
  · rw [hlayout] at h
    exact h
  · rw [hlayout] at h
    cases h
  · rw [hlayout] at h
    simp only [Attempt.retell_ok, bind, Except.bind] at h
    cases hcommit : f.scope.commit ⟨i, package, d.name, d.position, layout⟩ <;> rw [hcommit] at h <;> cases h

end FileState

namespace Draft

variable {l : Library} {c : Capabilities} {k : Site} {s s' : Store} {w w' : Draft} {load : Importer} {e : Expr}

lemma feed_of_effect {n : Numbering} {p : Provider} {effect : Effect} (h : w.file.effect c w.types e = .ok effect) :
    w.feed c n p k.name e = w.take c n p k.name e.position effect := by
  rw [feed, h]

lemma foldlM_singleton {ε α β : Type} (f : β → α → Except ε β) (b : β) (a : α) : [a].foldlM f b = f b a := by
  rw [List.foldlM_cons]
  exact bind_pure _

namespace Tracks

lemma mono (h : w.Tracks l c k s) (hs : s.Grows s') (hunderway : w.file.Underway c k.chain s' w.product)
    (hkept : s'.Kept l c (k.opens ++ [⟨k.name, w.gathered⟩])) (hdiagnostics : s'.diagnostics = s.diagnostics) :
    w.Tracks l c k s' where
  underway := hunderway
  kept := hkept
  told := hdiagnostics.trans h.told
  part := h.part.mono hs.types
  scope := h.scope
  bound := h.bound
  gathered_subset := h.gathered_subset
  needs m hm := (h.needs m hm).imp_right fun ⟨q, hq, heq⟩ => ⟨q, hs.packages hq, heq⟩
  name_mem_needs := h.name_mem_needs

lemma numbering (h : w.Tracks l c k s) : w.Tracks l c k s.numbering := by
  have hgrows : s.Grows s.numbering := .of_eq rfl rfl (Nat.le_succ _)
  obtain ⟨hs, ht, hf, hd⟩ := h.underway
  have hunderway : w.file.Underway c k.chain s.numbering w.product :=
    ⟨hs.of_eq rfl rfl (Nat.le_succ _), ht.of_eq rfl rfl rfl, hf.mono hgrows, hd.mono hgrows⟩
  exact h.mono hgrows hunderway (h.kept.of_eq hgrows rfl rfl) rfl

lemma rejected (h : w.Tracks l c k s) {d : Diagnostic} (hx : w.file.effect c s.types e = .error (.error d)) :
    Reaches l c k w s [e] (w.tell d) (s.reporting d) where
  tracks := h.tell d
  grows := .of_eq rfl rfl (Nat.le_refl _)
  sources := .refl _
  needs := List.Subset.refl _
  gathered := List.Subset.refl _
  again n _ outer importer _ := by
    rw [foldlM_singleton, feed, ← h.effect_eq, hx]

lemma taken (h : w.Tracks l c k s) {f : FileState} {out : Outcome}
    (hx : w.file.effect c s.types e = .ok (.taken f out))
    (hunderway : f.Underway c k.chain s (out.product e.position w.product)) (hscope : f.scope.Registered w.types)
    (htypes : f.scope.types = w.file.scope.types)
    (hgathered : gathered { w with file := f, product := out.product e.position w.product } = w.gathered) :
    Reaches l c k w s [e] { w with file := f, product := out.product e.position w.product } s where
  tracks := {
    underway := hunderway
    kept := hgathered ▸ h.kept
    told := h.told
    part := h.part
    scope := hscope
    bound := by rw [hgathered, htypes, h.bound]
    gathered_subset := hgathered ▸ h.gathered_subset
    needs := h.needs
    name_mem_needs := h.name_mem_needs }
  grows := .refl s
  sources := .refl _
  needs := List.Subset.refl _
  gathered := hgathered ▸ List.Subset.refl _
  again n _ outer importer _ := by
    rw [h.effect_eq] at hx
    rw [foldlM_singleton, feed_of_effect hx, take]

lemma gathered_of_unopened (h : w.Tracks l c k s) (hunopened : w.file.scope.state = .unopened) :
    w.product = none ∧ w.gathered = [] := by
  have hproduct : w.product = none := by
    cases hproduct : w.product with
    | none => rfl
    | some entry =>
      have hclosed := (h.underway.delivered entry hproduct).2
      rw [hunopened] at hclosed
      cases hclosed
  refine ⟨hproduct, List.eq_nil_iff_forall_not_mem.mpr fun d hd => ?_⟩
  rw [gathered, hproduct] at hd
  have hopened := (h.underway.file.collected d hd).2
  rw [hunopened] at hopened
  cases hopened

lemma gathered_of_opened (h : w.Tracks l c k s) {package : PackageName}
    (hopened : w.file.scope.state = .opened package) : w.gathered = w.file.collector.declarations := by
  rw [gathered, h.underway.delivered.eq_none hopened]

variable {package : PackageName} {d : Definition Target}

lemma body_bound (h : w.Tracks l c k s) (hx : w.file.effect c w.types e = .ok (.declares package d)) :
    d.body.Bound w.types :=
  (FileState.effect_safe (h.part.closed h.underway.store.grown) h.scope h.underway.file.opened e).of_eq_ok hx _ _ rfl

lemma refused (h : w.Tracks l c k s) (hx : w.file.effect c s.types e = .ok (.declares package d)) {error : CheckError}
    (hsettle : w.file.settle c s.types ⟨s.nextIdentifier⟩ package d = .error (.error (.check error))) :
    Reaches l c k w s [e] (w.tell (.check error)) (s.numbering.reporting (.check error)) where
  tracks := h.numbering.tell _
  grows := .of_eq rfl rfl (Nat.le_succ _)
  sources := .refl _
  needs := List.Subset.refl _
  gathered := List.Subset.refl _
  again n _ outer importer _ := by
    rw [h.effect_eq] at hx
    rw [h.part.settle_eq h.underway.store.grown _ _ (h.body_bound hx)] at hsettle
    rw [foldlM_singleton, feed_of_effect hx, take, FileState.settle_eq_check hsettle]
    rfl

end Tracks

def declaring (w : Draft) (scope : Scope) (r : Declaration) : Draft :=
  { w with
    file := ⟨scope, w.file.collector.add r, w.file.results⟩
    types := ⟨w.types.declarations ++ [r]⟩ }

namespace Tracks

variable {package : PackageName} {d : Definition Target} {r : Declaration} {scope : Scope}

lemma gathered_declaring (h : w.Tracks l c k s) (hopened : w.file.scope.state = .opened r.package)
    (hscope : w.file.scope.defineType r = .ok scope) : (w.declaring scope r).gathered = w.gathered ++ [r] := by
  have hproduct : (w.declaring scope r).product = none := h.underway.delivered.eq_none hopened
  rw [gathered, hproduct, h.gathered_of_opened hopened]
  refine upsert_of_fresh fun d' hd' heq => Scope.not_mem_keys_of_defineType hscope ?_
  rw [OneToOne.keys, h.bound, List.map_map, ← heq, h.gathered_of_opened hopened]
  exact List.mem_map_of_mem hd'

lemma declaring (h : w.Tracks l c k s) (hopened : w.file.scope.state = .opened r.package)
    (hi : r.identifier = ⟨s.nextIdentifier⟩) (hscope : w.file.scope.defineType r = .ok scope)
    (hadmitted : ∀ m ∈ r.memberTypes, Admitted c w.types m.1 m.2)
    (hunderway : (w.declaring scope r).file.Underway c k.chain (s.declaring r) w.product) :
    (w.declaring scope r).Tracks l c k (s.declaring r) := by
  have hgathered := h.gathered_declaring hopened hscope
  have hgrows : s.Grows (s.declaring r) := .declaring s r
  have hmem : r ∈ w.types.declarations ++ [r] := List.mem_append_right _ (List.mem_singleton_self r)
  exact {
    underway := hunderway
    kept := hgathered ▸ h.kept.declare hi (h.fresh hscope)
    told := h.told
    part := (h.part.mono hgrows.types).declare (List.mem_append_right _ (List.mem_singleton_self r)) hadmitted
    scope := Scope.Registered.defining (h.scope.mono (List.subset_append_left _ _)) hmem hopened hscope
    bound := by
      rw [hgathered, List.map_append, ← h.bound]
      exact Scope.pairs_of_defineType hscope
    gathered_subset := by
      rw [hgathered]
      exact List.append_subset.mpr
        ⟨List.subset_append_of_subset_left _ h.gathered_subset, List.subset_append_right _ _⟩
    needs := h.needs
    name_mem_needs := h.name_mem_needs }

lemma defined (h : w.Tracks l c k s) (hx : w.file.effect c s.types e = .ok (.declares package d))
    (hopened : w.file.scope.state = .opened r.package) (hi : r.identifier = ⟨s.nextIdentifier⟩)
    (hsettle : w.file.settle c s.types ⟨s.nextIdentifier⟩ package d = .ok ((w.declaring scope r).file, r))
    (hscope : w.file.scope.defineType r = .ok scope)
    (hunderway : (w.declaring scope r).file.Underway c k.chain (s.declaring r) w.product) :
    Reaches l c k w s [e] (w.declaring scope r) (s.declaring r) := by
  rw [h.effect_eq] at hx
  have hbody := h.body_bound hx
  rw [h.part.settle_eq h.underway.store.grown _ _ hbody] at hsettle
  have hadmitted : ∀ m ∈ r.memberTypes, Admitted c w.types m.1 m.2 :=
    (FileState.settle_safe (h.part.positive h.underway.store.grown) _ _ hbody).of_eq_ok hsettle
  have hgathered := h.gathered_declaring hopened hscope
  have hname : r.name = d.name := FileState.name_of_settle hsettle
  refine ⟨h.declaring hopened hi hscope hadmitted hunderway, .declaring s r, .refl _, List.Subset.refl _,
    hgathered ▸ List.subset_append_left _ _, fun n hn outer importer _ => ?_⟩
  have hnumber : n.identifier k.name d.name = ⟨s.nextIdentifier⟩ := by
    rw [← hi, ← hname]
    refine hn.identifier ((k.name, r.name), r.identifier) ?_
    rw [entries_append, hgathered, entries_gathering]
    simp
  rw [foldlM_singleton, feed_of_effect hx, take, hnumber, hsettle]
  rfl

end Tracks

def joined (w : Draft) (y : Yield) : Draft :=
  { w with types := ⟨w.types.declarations ++ y.types.declarations⟩, needs := w.needs ++ y.needs }

namespace Tracks

variable {y : Yield}

lemma name_not_mem_needs (h : w.Tracks l c k s) (hy : y.Certified l c s) : k.name ∉ y.needs := by
  intro hmem
  obtain ⟨q, hq, heq⟩ := hy.needs _ hmem
  exact h.name_ne hq heq

lemma join (h : w.Tracks l c k s) (hy : y.Certified l c s) : (w.joined y).Tracks l c k s where
  underway := h.underway
  kept := h.kept
  told := h.told
  part := h.part.append hy.part
  scope := h.scope.mono (List.subset_append_left _ _)
  bound := h.bound
  gathered_subset := List.subset_append_of_subset_left _ h.gathered_subset
  needs m hm := (List.mem_append.mp hm).elim (h.needs m) fun hm => .inr (hy.needs m hm)
  name_mem_needs := List.mem_append_left _ h.name_mem_needs

lemma bind (h : w.Tracks l c k s) {p : Package} {qualifier : Segment} {scope : Scope} (hp : p.Registered w.types)
    (hbound : w.file.scope.bindImport qualifier p = .ok scope) :
    Tracks l c k s { w with file := { w.file with scope } } := by
  obtain ⟨hs, ht, hf, hd⟩ := h.underway
  have hfile := hf.importing (hp.mono h.part.subset) hbound
  have hscope := h.scope.importing hp hbound
  obtain ⟨qualifiers, _, rfl⟩ := Scope.exists_of_bindImport hbound
  exact ⟨⟨hs, ht, hfile, hd⟩, h.kept, h.told, h.part, hscope, h.bound, h.gathered_subset, h.needs, h.name_mem_needs⟩

end Tracks

inductive Steps (l : Library) (c : Capabilities) (k : Site) (w : Draft) (s : Store) (e : Expr) :
    FileState × Outcome → Store → Prop
  | reaches (w' : Draft) {out : Outcome} {s' : Store} (goes : out ≠ .abort)
      (product : w'.product = out.product e.position w.product) (reaches : Reaches l c k w s [e] w' s') :
      Steps l c k w s e (w'.file, out) s'
  | breaks {lost : List Package} {found : List Diagnostic} {s' : Store} (product : w.product = none)
      (breaks : Breaks l c k w s [e] lost found s') : Steps l c k w s e (w.file, .abort) s'

namespace Tracks

variable {package : PackageName} {qualifier : Segment} {p : Position}

lemma imported (h : w.Tracks l c k s) (hx : w.file.effect c s.types e = .ok (.asks package qualifier p)) {y : Yield}
    (hs : s.Grows s') (hsources : s.sources.Extends s'.sources) (h' : w'.Tracks l c k s') (hy : y.Certified l c s')
    (hname : y.package.name = package) (hreceive : w.receive package qualifier p y = .ok w')
    (hneeds : w'.needs = w.needs ++ y.needs) (hgathered : w'.gathered = w.gathered) :
    Reaches l c k w s [e] w' s' where
  tracks := h'
  grows := hs
  sources := hsources
  needs := hneeds ▸ List.subset_append_left _ _
  gathered := hgathered ▸ List.Subset.refl _
  again n hn outer importer houter := by
    have hsuits : n.Suits l s' [] := hn.mono (.refl _) (entries_subset (by simp))
    have hchain : ∀ m ∈ y.needs, m ∉ (outer ++ [(k.name, importer)]).names := by
      intro m hm hmem
      rw [Chain.names_concat, List.mem_append, List.mem_singleton] at hmem
      rcases hmem with hmem | rfl
      · exact houter m (hneeds ▸ List.mem_append_right _ hm) hmem
      · exact h'.name_not_mem_needs hy hm
    rw [h.effect_eq] at hx
    rw [foldlM_singleton, feed_of_effect hx, take, ← hname, hy.again n hsuits _ (some p) hchain, hname]
    exact hreceive

lemma failed (h : w.Tracks l c k s) (hx : w.file.effect c s.types e = .ok (.asks package qualifier p))
    {lost : List Package} {found : List Diagnostic} (hs : s.Grows s') (hsources : s.sources.Extends s'.sources)
    (hkept : s'.Kept l c (k.opens ++ [⟨k.name, w.gathered⟩] ++ lost))
    (hreported : s'.diagnostics = s.diagnostics ++ found)
    (hagain : ∀ n : Numbering, n.Suits l s' lost → l.afresh c n k.chain package (some p) = .error (.error found)) :
    Breaks l c k w s [e] ([⟨k.name, w.gathered⟩] ++ lost)
      (w.told ++ found ++ [.resolution ⟨.packageLoadFailed package, some p⟩])
      (s'.reporting (.resolution ⟨.packageLoadFailed package, some p⟩)) where
  kept := by
    rw [List.append_assoc] at hkept
    exact hkept.of_eq (.of_eq rfl rfl (Nat.le_refl _)) rfl rfl
  grows := hs.trans (.of_eq rfl rfl (Nat.le_refl _))
  sources := hsources
  gathered := entries_subset (List.subset_append_left _ _)
  reported := by
    change s'.diagnostics ++ _ = _
    rw [hreported, h.told]
    simp only [List.append_assoc]
  again n hn := by
    have hinner : n.Suits l s' lost := by
      refine hn.mono (.refl _) (entries_subset ?_)
      exact List.append_subset.mpr ⟨List.subset_append_left _ _,
        List.subset_append_of_subset_right _ (List.subset_append_right _ _)⟩
    rw [h.effect_eq] at hx
    rw [foldlM_singleton, feed_of_effect hx, take, hagain n hinner]

lemma import_steps (h : w.Tracks l c k s) (hl : load.Loads c k.chain)
    (hr : load.Retells l c k.chain (k.opens ++ [⟨k.name, w.gathered⟩])) (asks : w.file.Asks e package qualifier p)
    (hx : w.file.effect c s.types e = .ok (.asks package qualifier p)) :
    (w.file.feed c load e).Ends s (Steps l c k w s e) := by
  obtain ⟨hs, ht, hf, hd⟩ := h.underway
  obtain ⟨current, hopened⟩ := asks.opened
  obtain ⟨r, s', hran, hloaded, hretold⟩ := (hl package (some p) s hs ht).and (hr package (some p) s hs ht h.kept)
  cases hretold with
  | failed lost found _ kept sources reported again =>
    have hbreaks := h.failed hx hloaded.grows sources kept reported again
    exact .of_run (asks.feed_of_failed hran) (.breaks (hd.eq_none hopened) hbreaks)
  | @found found _ kept sources =>
    obtain ⟨hmem, hname, hdiagnostics, htrail⟩ := hloaded.found _ rfl
    obtain ⟨y, hy, rfl⟩ := kept.certified found hmem
    have hunderway : w.file.Underway c k.chain s' w.product :=
      ⟨hloaded.sound, htrail, hf.mono hloaded.grows, hd.mono hloaded.grows⟩
    have hjoined := (h.mono hloaded.grows hunderway kept hdiagnostics).join hy
    cases hbound : w.file.scope.bindImport qualifier y.package with
    | error conflict =>
      let clash : Diagnostic := .resolution ⟨.importConflict package qualifier, some p⟩
      have hreport : s'.Grows (s'.reporting clash) := .of_eq rfl rfl (Nat.le_refl _)
      have hreceive : w.receive package qualifier p y = .ok ((w.joined y).tell clash) := by
        rw [receive, hbound]
        rfl
      refine .of_run (asks.feed_of_clashed hran hbound) (.reaches ((w.joined y).tell clash) nofun rfl ?_)
      exact h.imported hx (hloaded.grows.trans hreport) sources (hjoined.tell clash) (hy.mono hreport (.refl _)) hname
        hreceive rfl rfl
    | ok scope =>
      have hreceive : w.receive package qualifier p y = .ok { w.joined y with file := { w.file with scope } } := by
        rw [receive, hbound]
        rfl
      have hregistered : y.package.Registered (w.joined y).types := hy.registered.mono (List.subset_append_right _ _)
      refine .of_run (asks.feed_of_bound hran hbound) (.reaches { w.joined y with file := _ } nofun rfl ?_)
      exact h.imported hx hloaded.grows sources (hjoined.bind hregistered hbound) hy hname hreceive rfl rfl

theorem feed_steps (h : w.Tracks l c k s) (hl : load.Loads c k.chain)
    (hr : ∀ ds, load.Retells l c k.chain (k.opens ++ [⟨k.name, ds⟩])) (e : Expr) :
    (w.file.feed c load e).Ends s (Steps l c k w s e) := by
  have hs := h.underway.store
  have hf := h.underway.file
  obtain ⟨r, s', hrun, _, hafter⟩ := h.underway.feed_ends hl e
  have hcarry := (FileState.feed_run hs hf).symm.trans hrun
  have htakes := FileState.effect_takes (e := e) hs hf
  generalize hx : w.file.effect c s.types e = x at hcarry htakes
  cases htakes with
  | refused plain _ =>
    cases hcarry
    exact .of_run hrun (.reaches (w.tell _) nofun rfl (h.rejected hx))
  | @begun name unopened =>
    cases hcarry
    obtain ⟨hproduct, hgathered⟩ := h.gathered_of_unopened unopened
    refine .of_run hrun (.reaches { w with file := _ } nofun rfl (h.taken hx hafter.1 ?_ rfl ?_))
    · exact h.scope.of_state rfl rfl (.inl (congrArg PackageState.package? unopened))
    · rw [hgathered, gathered]
      simp only [Outcome.product, hproduct]
      rfl
  | @ended name opened =>
    cases hcarry
    have hgathered := (h.gathered_of_opened opened).symm
    refine .of_run hrun (.reaches { w with file := _, product := _ } nofun rfl (h.taken hx hafter.2.1 ?_ rfl hgathered))
    exact h.scope.of_state rfl rfl (.inr (congrArg PackageState.package? opened).symm)
  | asks asks => exact h.import_steps hl (hr w.gathered) asks hx
  | @declares package d opened _ settles =>
    rw [FileState.carry] at hcarry
    generalize hsettle : w.file.settle c s.types ⟨s.nextIdentifier⟩ package d = settled at hcarry settles
    cases settles with
    | unchecked =>
      cases hcarry
      exact .of_run hrun (.reaches (w.tell _) nofun rfl (h.refused hx hsettle))
    | @settled r scope package_eq identifier_eq laid admitted bound =>
      cases hcarry
      refine .of_run hrun (.reaches (w.declaring scope r) nofun rfl ?_)
      exact h.defined hx (package_eq ▸ opened) identifier_eq hsettle bound hafter.1
  | shown =>
    cases hcarry
    refine .of_run hrun (.reaches { w with file := _ } nofun rfl (h.taken hx hafter.1 ?_ rfl rfl))
    exact h.scope.of_state rfl rfl (.inr rfl)

end Tracks

end Draft

end RecordSchema
