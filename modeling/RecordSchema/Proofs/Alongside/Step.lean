import RecordSchema.Proofs.Afresh.Load
import RecordSchema.Proofs.Alongside.Basic

namespace RecordSchema

variable {r : Relocation} {l l' : Library} {c : Capabilities} {chain chain' : Chain} {load load' : Importer}
  {s s' : Store}

namespace FileState

variable {f f' : FileState} {product product' : Product}

def Abreast (r : Relocation) (l l' : Library) (x : FileState × Outcome) (s : Store) (x' : FileState × Outcome)
    (s' : Store) : Prop :=
  x.1.relocate r = x'.1.relocate r ∧ x.2.relocate r = x'.2.relocate r ∧ s.Alongside r l l' s'

lemma Underway.effect_safe (h : f.Underway c chain s product) (e : Expr) : (f.effect c s.types e).Safe fun effect =>
    ∀ package d, effect = .declares package d → d.body.Bound s.types :=
  FileState.effect_safe h.store.grown.closed h.file.scope h.file.opened e

lemma bindImport_same (hf : f.relocate r = f'.relocate r) (qualifier : Segment) {found found' : Package}
    (hfound : found.relocate r = found'.relocate r) :
    (∃ scope scope', f.scope.bindImport qualifier found = .ok scope ∧ f'.scope.bindImport qualifier found' = .ok scope' ∧
      scope.relocate r = scope'.relocate r) ∨ ∃ conflict, f.scope.bindImport qualifier found = .error conflict ∧
        f'.scope.bindImport qualifier found' = .error conflict := by
  have hscope : f.scope.relocate r = f'.scope.relocate r := congrArg FileState.scope hf
  have hmirrors := f.scope.bindImport_mirrors (r := r) qualifier found
  rw [hscope, hfound] at hmirrors
  rcases hmirrors.same (f'.scope.bindImport_mirrors (r := r) qualifier found') with hok | ⟨e, e', he, he', hsame⟩
  · exact .inl hok
  · obtain rfl : e = e' := hsame
    exact .inr ⟨e, he, he'⟩

lemma bring_alongside (hf : f.relocate r = f'.relocate r) (package : PackageName) (qualifier : Segment) {p p' : Position}
    (hp : r.position p = r.position p')
    (hload : (load package (some p)).Both (load' package (some p')) s s' (SameLoaded r l l')) :
    (f.bring load package qualifier p).Both (f'.bring load' package qualifier p') s s' (Abreast r l l') := by
  refine hload.bind fun x t x' t' ⟨hx, ht⟩ => ?_
  cases x with
  | error e =>
    cases x' with
    | ok found' => cases hx
    | error e' =>
      have hd : Diagnostic.relocate r (.resolution ⟨.packageLoadFailed package, some p⟩) =
          Diagnostic.relocate r (.resolution ⟨.packageLoadFailed package, some p'⟩) := by
        simp [ResolveError.relocate, hp]
      exact .of_run rfl rfl ⟨hf, rfl, ht.reporting hd⟩
  | ok found =>
    cases x' with
    | error e' => cases hx
    | ok found' =>
      rcases bindImport_same hf qualifier (Except.ok.inj hx) with ⟨scope, scope', hs, hs', hsame⟩ | ⟨conflict, he, he'⟩
      · dsimp only
        rw [hs, hs']
        have hfile : FileState.relocate r { f with scope } = FileState.relocate r { f' with scope := scope' } := by
          obtain ⟨_, hcollector, hresults⟩ := FileState.mk.inj hf
          rw [FileState.relocate, FileState.relocate, hsame, hcollector, hresults]
        exact .of_run rfl rfl ⟨hfile, rfl, ht⟩
      · dsimp only
        rw [he, he']
        have hd : Diagnostic.relocate r (.resolution ⟨.importConflict package qualifier, some p⟩) =
            Diagnostic.relocate r (.resolution ⟨.importConflict package qualifier, some p'⟩) := by
          simp [ResolveError.relocate, hp]
        exact .of_run rfl rfl ⟨hf, rfl, ht.reporting hd⟩

lemma settle_same (hu : f.Underway c chain s product) (hu' : f'.Underway c chain' s' product')
    (hs : s.Alongside r l l' s') (hf : f.relocate r = f'.relocate r) (package : PackageName) {d d' : Definition Target}
    (hd : d.body.Bound s.types) (hd' : d'.body.Bound s'.types)
    (hsame : d.map r.position (Target.relocate r) = d'.map r.position (Target.relocate r)) :
    (∃ x x', f.settle c s.types ⟨s.nextIdentifier⟩ package d = .ok x ∧
      f'.settle c s'.types ⟨s'.nextIdentifier⟩ package d' = .ok x' ∧
      x.1.relocate r = x'.1.relocate r ∧ x.2.relocate r = x'.2.relocate r) ∨
    ∃ e e', f.settle c s.types ⟨s.nextIdentifier⟩ package d = .error (.error e) ∧
      f'.settle c s'.types ⟨s'.nextIdentifier⟩ package d' = .error (.error e') ∧ e.relocate r = e'.relocate r := by
  have hmirrors := f.settle_mirrors (c := c) (TypeTable.carries_relocate r s.types) ⟨s.nextIdentifier⟩ package d
  have hmirrors' := f'.settle_mirrors (c := c) (TypeTable.carries_relocate r s'.types) ⟨s'.nextIdentifier⟩ package d'
  rw [hf, hs.types, hs.nextIdentifier, hsame] at hmirrors
  rw [hs.nextIdentifier]
  have hsafe := f.settle_safe (c := c) hu.store.grown.positive ⟨s'.nextIdentifier⟩ package hd
  have hsafe' := f'.settle_safe (c := c) hu'.store.grown.positive ⟨s'.nextIdentifier⟩ package hd'
  rcases hmirrors.same hmirrors' hsafe hsafe' with ⟨x, x', hx, hx', heq⟩ | herror
  · exact .inl ⟨x, x', hx, hx', congrArg Prod.fst heq, congrArg Prod.snd heq⟩
  · exact .inr herror

theorem feed_alongside (hu : f.Underway c chain s product) (hu' : f'.Underway c chain' s' product')
    (hload : load.Alongside r l l' c chain chain' load') (hs : s.Alongside r l l' s')
    (hf : f.relocate r = f'.relocate r) {e e' : Expr} (he : e.relocate r = e'.relocate r) :
    (f.feed c load e).Both (f'.feed c load' e') s s' (Abreast r l l') := by
  have hrun : (f.feed c load e).run s = f.carry c load s (f.effect c s.types e) := feed_run hu.store hu.file
  have hrun' : (f'.feed c load' e').run s' = f'.carry c load' s' (f'.effect c s'.types e') := feed_run hu'.store hu'.file
  have hmirrors := f.effect_mirrors (c := c) (TypeTable.carries_relocate r s.types) e
  rw [hf, hs.types, he] at hmirrors
  have hsafe := hu.effect_safe e
  have hsafe' := hu'.effect_safe e'
  rcases hmirrors.same (f'.effect_mirrors (TypeTable.carries_relocate r s'.types) e') hsafe hsafe' with
    ⟨effect, effect', hx, hx', hsame⟩ | ⟨d, d', hx, hx', hsame⟩
  · have hbound := hsafe.of_eq_ok hx
    have hbound' := hsafe'.of_eq_ok hx'
    rw [hx] at hrun
    rw [hx'] at hrun'
    cases effect with
    | taken file out =>
      cases effect' with
      | declares | asks => cases hsame
      | taken file' out' =>
        obtain ⟨hfile, hout⟩ := Effect.taken.inj hsame
        exact .of_run hrun hrun' ⟨hfile, hout, hs⟩
    | declares package d =>
      cases effect' with
      | taken | asks => cases hsame
      | declares package' d' =>
        obtain ⟨rfl, hd⟩ := Effect.declares.inj hsame
        rw [carry] at hrun hrun'
        rcases settle_same hu hu' hs hf package (hbound _ _ rfl) (hbound' _ _ rfl) hd with
          ⟨x, x', hx, hx', hfile, hdeclared⟩ | ⟨e, e', hx, hx', herror⟩
        · rw [hx] at hrun
          rw [hx'] at hrun'
          exact .of_run hrun hrun' ⟨hfile, rfl, hs.declaring hdeclared⟩
        · rw [hx] at hrun
          rw [hx'] at hrun'
          exact .of_run hrun hrun' ⟨hf, rfl, hs.numbering.reporting herror⟩
    | asks package qualifier p =>
      cases effect' with
      | taken | declares => cases hsame
      | asks package' qualifier' p' =>
        obtain ⟨rfl, rfl, hp⟩ := Effect.asks.inj hsame
        rw [carry] at hrun hrun'
        refine .of_run_eq hrun hrun' (bring_alongside hf package qualifier hp ?_)
        exact hload package _ _ s s' (congrArg some hp) hu.store hu'.store hu.trail hu'.trail hs
  · rw [hx] at hrun
    rw [hx'] at hrun'
    exact .of_run hrun hrun' ⟨hf, rfl, hs.reporting hsame⟩

lemma compile_nil (f : FileState) (c : Capabilities) (load : Importer) (name : PackageName) (reading : Reading)
    (product : Product) (s : Store) : (f.compile c load name reading product []).run s = .ok (product.delivered name)
      { s with diagnostics := s.diagnostics ++ f.remains reading ++ product.misnamed name } := by
  change (f.close reading >>= fun _ => product.deliver name).run s = _
  rw [EStateM.run_bind, close_run]
  exact product.deliver_run name _

end FileState

lemma Product.delivered_same {product product' : Product} (h : product.relocate r = product'.relocate r)
    (name : PackageName) :
    (product.delivered name).map (Package.relocate r) = (product'.delivered name).map (Package.relocate r) := by
  cases product with
  | none =>
    cases product' with
    | none => rfl
    | some entry' => cases h
  | some entry =>
    cases product' with
    | none => cases h
    | some entry' =>
      have hpackage : entry.1.relocate r = entry'.1.relocate r := congrArg Prod.fst (Option.some.inj h)
      have hname : entry.1.name = entry'.1.name := (Package.mk.inj hpackage).1
      rw [delivered, delivered, hname]
      split
      · exact congrArg Except.ok hpackage
      · rfl

namespace FileState

theorem compile_alongside {name : PackageName} {reading reading' : Reading}
    (hl : load.Loads c chain) (hl' : load'.Loads c chain') (hload : load.Alongside r l l' c chain chain' load')
    (hreading : reading.relocate r = reading'.relocate r) {rest rest' : List Expr}
    (hrest : rest.map (Expr.relocate r) = rest'.map (Expr.relocate r)) {f f' : FileState} {product product' : Product}
    {s s' : Store} (hu : f.Underway c chain s product) (hu' : f'.Underway c chain' s' product')
    (hs : s.Alongside r l l' s') (hf : f.relocate r = f'.relocate r) (hproduct : product.relocate r = product'.relocate r) :
    (f.compile c load name reading product rest).Both (f'.compile c load' name reading' product' rest') s s'
      (SameLoaded r l l') := by
  induction rest generalizing rest' f f' product product' s s' with
  | nil =>
    obtain rfl : rest' = [] := List.map_eq_nil_iff.mp hrest.symm
    have hremains : (f.remains reading).map (Diagnostic.relocate r) =
        (f'.remains reading').map (Diagnostic.relocate r) := by
      rw [← remains_relocate, hf, hreading, remains_relocate]
    have hmisnamed : (product.misnamed name).map (Diagnostic.relocate r) =
        (product'.misnamed name).map (Diagnostic.relocate r) := by
      rw [← Product.misnamed_relocate, hproduct, Product.misnamed_relocate]
    refine .of_run (compile_nil ..) (compile_nil ..) ⟨Product.delivered_same hproduct name, ?_⟩
    exact (hs.told hremains).told hmisnamed
  | cons e rest ih =>
    obtain ⟨e', rest', rfl, he, hrest⟩ := List.map_eq_cons_iff.mp hrest.symm
    obtain ⟨⟨g, out⟩, t, ⟨g', out'⟩, t', hrun, hrun', hg, hout, ht⟩ := feed_alongside hu hu' hload hs hf he.symm
    have hafter := ((hu.feed_ends hl e).elim hrun).2
    have hafter' := ((hu'.feed_ends hl' e').elim hrun').2
    cases out with
    | nothing =>
      cases out' with
      | abort | finished => cases hout
      | nothing =>
        refine .of_run_eq (compile_cons_nothing hrun) (compile_cons_nothing hrun') ?_
        exact ih hrest.symm hafter.1 hafter'.1 ht hg hproduct
    | abort =>
      cases out' with
      | nothing | finished => cases hout
      | abort =>
        obtain ⟨rfl, _⟩ := hafter
        obtain ⟨rfl, _⟩ := hafter'
        exact .of_run (compile_cons_abort hrun) (compile_cons_abort hrun') ⟨rfl, ht⟩
    | finished package =>
      cases out' with
      | nothing | abort => cases hout
      | finished package' =>
        obtain ⟨rfl, hu, _⟩ := hafter
        obtain ⟨rfl, hu', _⟩ := hafter'
        have hpackage : package.relocate r = package'.relocate r := Outcome.finished.inj hout
        have hposition : r.position e.position = r.position e'.position := by
          rw [← Expr.position_relocate, ← he, Expr.position_relocate]
        refine .of_run_eq (compile_cons_finished hrun) (compile_cons_finished hrun') ?_
        refine ih hrest.symm hu hu' ht hg ?_
        exact congrArg some (Prod.ext hpackage hposition)

end FileState

end RecordSchema
