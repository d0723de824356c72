import RecordSchema.Proofs.Afresh.History
import RecordSchema.Proofs.Insertion.Accepted
import RecordSchema.Proofs.Load.Circular

/-! One more declaration in a package changes nothing for the others. -/

namespace RecordSchema

def Declaration.Same (r : Relocation) (d d' : Declaration) : Prop :=
  d'.relocate .nowhere = (d.relocate r).relocate .nowhere

@[mk_iff]
structure Reading.Gains (k : Nat) (type : TypeName) (x x' : Reading) : Prop where
  alike : List.Forall₂ Expr.Alike x.exprs (x'.exprs.eraseIdx k)
  declares : x'.exprs[k]?.bind Expr.declared? = some type
  fresh : ∀ e ∈ x.exprs, e.declared? ≠ some type
  error : x.error = none → x'.error = none

namespace Reading.Gains

variable {k : Nat} {type : TypeName} {x x' : Reading}

instance : Decidable (x.Gains k type x') :=
  decidable_of_iff _ (Reading.gains_iff k type x x').symm

lemma relocate (h : x.Gains k type x') (r : Relocation) : (x.relocate r).Gains k type (x'.relocate r) where
  alike := by
    have hmoved : List.Forall₂ (fun e e' => (e.relocate r).Alike (e'.relocate r)) x.exprs (x'.exprs.eraseIdx k) :=
      h.alike.imp fun e e' he => ((e.relocate_alike r).trans he).trans (e'.relocate_alike r).symm
    rwa [Reading.relocate_exprs, Reading.relocate_exprs, List.eraseIdx_map, List.forall₂_map_left_iff,
      List.forall₂_map_right_iff]
  declares := by
    rw [← h.declares, Reading.relocate_exprs, List.getElem?_map]
    cases x'.exprs[k]? <;> simp
  fresh := by simpa using h.fresh
  error := by simpa using h.error

lemma exists_split (h : x.Gains k type x') : ∃ before after e d, x.exprs = before ++ after ∧
    x'.exprs = x'.exprs.take k ++ e :: x'.exprs.drop (k + 1) ∧ List.Forall₂ Expr.Alike before (x'.exprs.take k) ∧
    List.Forall₂ Expr.Alike after (x'.exprs.drop (k + 1)) ∧ x'.exprs[k]? = some e ∧
    e.toStatement = .ok (.define d) ∧ d.name = type := by
  obtain ⟨e, he, hdeclared⟩ := Option.bind_eq_some_iff.mp h.declares
  obtain ⟨d, hd, hname⟩ := Expr.declared?_eq_some_iff.mp hdeclared
  have halike := h.alike
  rw [List.eraseIdx_eq_take_drop_succ] at halike
  refine ⟨_, _, e, d, (List.take_append_drop _ _).symm, ?_, List.forall₂_take_append _ _ _ halike,
    List.forall₂_drop_append _ _ _ halike, he, hd, hname⟩
  conv_lhs => rw [← List.take_append_drop k x'.exprs, List.drop_eq_getElem?_toList_append, he]
  rfl

end Reading.Gains

lemma FileState.remains_eq_nil_iff {f : FileState} {reading : Reading} :
    f.remains reading = [] ↔ reading.error = none ∧ ∃ package, f.scope.state = .closed package := by
  rw [remains, Scope.finish]
  cases reading.error <;> cases f.scope.state <;> simp

variable {n : Numbering} {i : Identifier} {name : PackageName} {c : Capabilities} {load load' : Provider}

lemma Draft.exists_of_finish {w : Draft} {reading : Reading} {y : Yield} (h : w.finish name reading = .ok y) :
    w.reports name reading = [] ∧ ∃ package p, w.product = some (package, p) ∧ y = ⟨package, w.types, w.needs⟩ := by
  rw [finish] at h
  split at h
  · next package p hreports hproduct =>
    cases h
    exact ⟨hreports, package, p, hproduct, rfl⟩
  · cases h

lemma Draft.told_of_finish {w : Draft} {reading : Reading} {y : Yield} (h : w.finish name reading = .ok y) :
    w.told = [] := by
  have hreports := (exists_of_finish h).1
  rw [reports, List.append_assoc, List.append_eq_nil_iff] at hreports
  exact hreports.1

namespace Draft.Gains

lemma initial (n : Numbering) (i : Identifier) (name : PackageName) (needs : List PackageName) :
    Draft.Gains n i name { needs } { needs } where
  file := ⟨⟨rfl, rfl, .nil, rfl⟩, rfl, rfl⟩
  numbered := ⟨⟨by rintro entry ⟨⟩, by rintro q ⟨⟩⟩, by rintro d ⟨⟩⟩
  product := .none
  types := rfl
  told_eq := rfl

lemma finish {w w' : Draft} (h : w.Gains n i name w') {reading reading' : Reading}
    (herror : reading.error = none → reading'.error = none) {y : Yield} (hy : w.finish name reading = .ok y) :
    ∃ y', w'.finish name reading' = .ok y' ∧ y.Gains n i y' := by
  obtain ⟨hreports, package, p, hproduct, rfl⟩ := exists_of_finish hy
  rw [reports, List.append_eq_nil_iff, List.append_eq_nil_iff] at hreports
  obtain ⟨⟨htold, hremains⟩, hmisnamed⟩ := hreports
  rw [hproduct] at hmisnamed
  have hname := Product.name_eq_of_misnamed hmisnamed
  have hgains := h.product
  rw [hproduct] at hgains
  generalize hproduct' : w'.product = product' at hgains
  cases hgains with
  | @some _ package' _ p' gains numbered =>
    have hname' : package'.name = name := gains.name_eq.trans hname
    obtain ⟨hlexed, q, hclosed⟩ := FileState.remains_eq_nil_iff.mp hremains
    have hremains' : w'.file.remains reading' = [] :=
      FileState.remains_eq_nil_iff.mpr ⟨herror hlexed, q, h.file.scope.state_eq.trans hclosed⟩
    have hreports' : w'.reports name reading' = [] := by
      rw [reports, h.told_eq, htold, hremains', hproduct', Product.misnamed, if_pos hname']
      rfl
    refine ⟨_, finish_eq_ok hreports' hproduct', gains, fun d hd => ?_, h.types⟩
    rw [hname']
    exact numbered d hd

theorem foldlM_insert (hload : load.Gains n i load') {before before' after after' : List Expr} {e : Expr}
    {d : Definition Mention} (hbefore : List.Forall₂ Expr.Alike before before')
    (hafter : List.Forall₂ Expr.Alike after after')
    (hfresh : ∀ e ∈ before ++ after, ∀ d, e.toStatement = .ok (.define d) → n.identifier name d.name ≠ i)
    (hd : e.toStatement = .ok (.define d)) (hi : n.identifier name d.name = i) {w w' w₁ : Draft}
    (haccepted : ∀ v, before'.foldlM (Draft.feed c n load' name) w' = .ok v → v.told = [] →
      (v.feed c n load' name e).Blameless fun v₁ => v₁.told = [])
    (h : w.Gains n i name w') (hw : (before ++ after).foldlM (Draft.feed c n load name) w = .ok w₁) (hquiet : w₁.told = []) :
    ((before' ++ e :: after').foldlM (Draft.feed c n load' name) w').Blameless (w₁.Gains n i name) := by
  rw [List.foldlM_append] at hw ⊢
  obtain ⟨v, hv, hw⟩ := exists_of_bind_eq_ok hw
  have hquiet' := told_of_foldlM hw hquiet
  have hfirst := foldlM hload hbefore (fun e he => hfresh e (List.mem_append_left _ he)) h hv hquiet'
  generalize hv' : before'.foldlM (Draft.feed c n load' name) w' = x at hfirst
  cases hfirst with
  | fault fault => exact .fault fault
  | @ok v' hgained =>
    have hinserted := haccepted v' hv' (hgained.told_eq.trans hquiet')
    change Attempt.Blameless _ ((e :: after').foldlM (Draft.feed c n load' name) v')
    rw [List.foldlM_cons]
    generalize hv₁ : v'.feed c n load' name e = x at hinserted
    cases hinserted with
    | fault fault => exact .fault fault
    | ok hquiet₁ =>
      exact (hgained.insert hd hi hv₁ hquiet₁).foldlM hload hafter (fun e he => hfresh e (List.mem_append_right _ he))
        hw hquiet

end Draft.Gains

namespace Provider.Gains

variable {text text' : String} {y : Yield}

lemma compileAfresh (hload : load.Gains n i load') (hfresh : ∀ type, n.identifier name type ≠ i)
    (hy : RecordSchema.compileAfresh c n load name text = .ok y) :
    (RecordSchema.compileAfresh c n load' name text).Blameless (y.Gains n i) := by
  obtain ⟨w, hw, hfinish⟩ := exists_of_bind_eq_ok hy
  have halike : List.Forall₂ Expr.Alike (Expr.read (n.file name) text).exprs (Expr.read (n.file name) text).exprs :=
    List.forall₂_same.mpr fun _ _ => rfl
  have hrest := Draft.Gains.foldlM hload halike (fun _ _ d _ => hfresh d.name) (.initial n i name [name]) hw
    (Draft.told_of_finish hfinish)
  refine hrest.bind fun w' hw' => ?_
  obtain ⟨y', hy', hgains⟩ := hw'.finish id hfinish
  rw [hy']
  exact .ok hgains

lemma compileAfresh_insert {k : Nat} {type : TypeName} (hload : load.Gains n (n.identifier name type) load')
    (hgains : (Expr.read (n.file name) text).Gains k type (Expr.read (n.file name) text'))
    (hfresh : ∀ other, other ≠ type → n.identifier name other ≠ n.identifier name type)
    (haccepted : ∀ e d w, (Expr.read (n.file name) text').exprs[k]? = some e → e.toStatement = .ok (.define d) →
      ((Expr.read (n.file name) text').exprs.take k).foldlM (Draft.feed c n load' name) { needs := [name] } = .ok w →
        w.told = [] → (w.feed c n load' name e).Blameless fun w₁ => w₁.told = [])
    (hy : RecordSchema.compileAfresh c n load name text = .ok y) :
    (RecordSchema.compileAfresh c n load' name text').Blameless (y.Gains n (n.identifier name type)) := by
  obtain ⟨w, hw, hfinish⟩ := exists_of_bind_eq_ok hy
  obtain ⟨before, after, e, d, hexprs, hexprs', hbefore, hafter, he, hd, hname⟩ := hgains.exists_split
  have hothers : ∀ e ∈ before ++ after, ∀ d, e.toStatement = .ok (.define d) →
      n.identifier name d.name ≠ n.identifier name type :=
    fun e he d hd => hfresh d.name fun heq =>
      hgains.fresh e (hexprs ▸ he) (Expr.declared?_eq_some_iff.mpr ⟨d, hd, heq⟩)
  rw [hexprs] at hw
  have hrest := Draft.Gains.foldlM_insert hload hbefore hafter hothers hd (hname ▸ rfl)
    (fun v hv hquiet => haccepted e d v he hd hv hquiet) (.initial n _ name [name]) hw (Draft.told_of_finish hfinish)
  rw [← hexprs'] at hrest
  refine hrest.bind fun w' hw' => ?_
  obtain ⟨y', hy', hgained⟩ := hw'.finish hgains.error hfinish
  rw [hy']
  exact .ok hgained

end Provider.Gains

namespace Yield.Gains

variable {r : Relocation} {y y' : Yield}

lemma forall₂_declarations {p : PackageName} {type : TypeName} (h : (y.relocate r).Gains n (n.identifier p type) y')
    (hn : (fun key : PackageName × TypeName => n.identifier key.1 key.2).Injective) :
    List.Forall₂ (Declaration.Same r) y.package.declarations
      (y'.package.declarations.filter fun d => ¬ (y'.package.name = p ∧ d.name = type)) := by
  have hothers : (y'.package.declarations.filter fun d => ¬ (y'.package.name = p ∧ d.name = type)) =
      y'.package.declarations.filter fun d => d.identifier ≠ n.identifier p type := by
    refine List.filter_congr fun d hd => ?_
    rw [h.numbered d hd, decide_eq_decide, not_iff_not]
    exact ⟨fun ⟨hp, htype⟩ => by rw [hp, htype], fun heq => Prod.mk.inj (hn heq)⟩
  have hsame := h.package.declarations
  rw [AlikeBut, ← List.forall₂_eq_eq_eq, List.forall₂_map_left_iff, List.forall₂_map_right_iff, Yield.relocate_package,
    Package.relocate_declarations, List.forall₂_map_right_iff] at hsame
  rw [hothers]
  exact hsame.flip

lemma exists_same {d : Declaration} (h : (y.relocate r).Gains n i y') (hd : d ∈ y.types.declarations) :
    ∃ d' ∈ y'.types.declarations, d.Same r d' := by
  obtain ⟨d', hd', _, hsame⟩ := h.types.exists_mem (List.mem_map_of_mem hd)
  exact ⟨d', hd', hsame⟩

end Yield.Gains

namespace Library

variable {l l' : Library} {p : PackageName} {k : Nat} {type : TypeName}

/-- The sources differ in the text of one package only, which has one more declaration. -/
structure Gains (l l' : Library) (p : PackageName) (k : Nat) (type : TypeName) : Prop where
  others : ∀ q, q ≠ p → l'.source? q = l.source? q
  text : ∃ text text', l.source? p = some (.ok text) ∧ l'.source? p = some (.ok text') ∧
    (Expr.read default text).Gains k type (Expr.read default text')

theorem Gains.afresh_gains (h : l.Gains l' p k type) (haccepts : l'.AcceptsAt c p k) (hfile : n.file.Injective)
    (hidentifier : (fun key : PackageName × TypeName => n.identifier key.1 key.2).Injective) (chain chain' : Chain)
    (hchain : chain'.names = chain.names) :
    Provider.Gains n (n.identifier p type) (l.afresh c n chain) (l'.afresh c n chain') := by
  intro name q q' y hy
  obtain ⟨hname, text, hsource, hcompile⟩ := exists_text_of_afresh hy
  have hname' : name ∉ chain'.names := hchain ▸ hname
  -- Fewer packages remain for the imports of its file.
  have hmem := mem_names_of_source? c hsource
  have hload := afresh_gains h haccepts hfile hidentifier (chain ++ [(name, q)]) (chain' ++ [(name, q')])
    (by rw [Chain.names_concat, Chain.names_concat, hchain])
  by_cases hp : name = p
  · subst hp
    obtain ⟨_, text', htext, hsource', hgains⟩ := h.text
    cases hsource.symm.trans htext
    rw [afresh_of_text hname' hsource']
    let ρ : Renaming := ⟨fun _ => n.file name, id, Function.injective_id⟩
    have hmoved := hgains.relocate ρ
    rw [← Expr.read_rename, ← Expr.read_rename] at hmoved
    refine hload.compileAfresh_insert hmoved (fun other hne heq => hne (Prod.mk.inj (hidentifier heq)).2) ?_ hcompile
    intro e d w he hd hw hquiet
    exact haccepts.feed hfile hidentifier hsource' he hd hw hquiet
  · rw [afresh_of_text hname' ((h.others name hp).trans hsource)]
    exact hload.compileAfresh (fun other heq => hp (Prod.mk.inj (hidentifier heq)).1) hcompile
termination_by ((l.catalog c).remaining chain.names).length
decreasing_by
  rw [Chain.names_concat]
  exact Catalog.length_remaining_lt hmem hname

lemma exists_certified_of_load {s : Store} {q : Package} (hrun : ((l.catalog c).load name none).run {} = .ok (.ok q) s) :
    s.Settled l c ∧ ∃ y : Yield, y.Certified l c s ∧ y.package = q ∧
      ∀ n : Numbering, n.Suits l s [] → l.afresh c n [] name none = .ok y := by
  have hinitial := Store.Settled.initial l c
  have hsettled := (load_settles hinitial name none).elim hrun
  obtain ⟨hmem, rfl, _⟩ := ((load_ends hinitial.idle name none).elim hrun).1.found q rfl
  obtain ⟨y, hy, rfl⟩ := hsettled.kept.certified q hmem
  exact ⟨hsettled, y, hy, rfl, fun n hn => hy.again n hn [] none fun _ _ => List.not_mem_nil⟩

/-- Adding a declaration to a package disturbs none of the others. If it is accepted at its place, and its name is not
declared otherwise, then a load that succeeds without it succeeds with it, and all other declarations of the package that
is loaded stay as they are, up to their places and to new numbers. The numbers stand for the same things as before: all
declarations that those of the package rest on stay as they are, too. -/
theorem load_of_gains (h : l.Gains l' p k type) (haccepts : l'.AcceptsAt c p k) {q : Package} {s : Store}
    (hrun : ((l.catalog c).load name none).run {} = .ok (.ok q) s) :
    ∃ q' s', ((l'.catalog c).load name none).run {} = .ok (.ok q') s' ∧ q'.name = q.name ∧ ∃ ρ : Renaming,
      List.Forall₂ (Declaration.Same ρ) q.declarations
        (q'.declarations.filter fun d => ¬ (q'.name = p ∧ d.name = type)) ∧
      ∃ t : TypeTable, t.PartOf s.types ∧ q.declarations ⊆ t.declarations ∧
        ∀ d ∈ t.declarations, ∃ d', s'.types.find? (ρ.identifier d.identifier) = some d' ∧ d.Same ρ d' := by
  have hinitial : ({} : Store).Settled l' c := ⟨⟨.initial, .initial⟩, .initial l' c⟩
  obtain ⟨hsettled, y, hy, rfl, hyield⟩ := exists_certified_of_load hrun
  obtain ⟨r, s', hrun', lost, found, hgives⟩ := load_gives hinitial name
  -- Numbers of the first load go over into those of the second one.
  obtain ⟨n, hn, hfile, hidentifier⟩ := hsettled.kept.exists_numbering
  obtain ⟨ρ, hinjective, hn'⟩ := hgives.kept.exists_renaming hfile hidentifier
  have hidentifier' := ρ.identifier_injective.comp hidentifier
  have hmoved := (l.afresh_mirrors (r := ρ) c n [] name none).eq_ok (hyield n hn)
  have hgained := h.afresh_gains haccepts (hinjective.comp hfile) hidentifier' [] [] rfl name none none _ hmoved
  have hagain := hgives.again _ hn'
  generalize hx : l'.afresh c (n.rename ρ) [] name none = x at hgained hagain
  cases hagain with
  | error found => cases hgained
  | ok y' =>
    cases hgained with
    | ok hgains =>
      obtain ⟨hsettled', y'', hy', _, hyield'⟩ := exists_certified_of_load hrun'
      cases hx.symm.trans (hyield' _ (hn'.mono (.refl _) (entries_subset (by simp))))
      refine ⟨y'.package, s', hrun', hgains.package.name_eq, ρ, hgains.forall₂_declarations hidentifier', y.types, hy.part,
        fun d hd => (hy.registered d hd).1, fun d hd => ?_⟩
      obtain ⟨d', hd', hsame⟩ := hgains.exists_same hd
      have hfind := hsettled'.idle.sound.grown.find?_eq d' (hy'.part.subset hd')
      rw [Declaration.identifier_eq_of_nowhere hsame] at hfind
      exact ⟨d', hfind, hsame⟩

def importing (text : String) : Library :=
  .texts [(secondOfTwo, text), (firstOfTwo, "(package-begin a) (import b as q) (record A [(field y q.B)]) (package-end)")]

def oneRecord : String :=
  "(package-begin b) (record B [(field x (float 32))]) (package-end)"

def twoRecords : String :=
  "(package-begin b) (record C []) (record B [(field x (float 32))]) (package-end)"

def insertedName : TypeName := ⟨"C", by decide +kernel⟩

lemma importing_gains : (importing oneRecord).Gains (importing twoRecords) secondOfTwo 1 insertedName where
  others q hq := by
    have hother : (q == secondOfTwo) = false := beq_false_of_ne hq
    simp [source?, entries, importing, path, List.lookup_cons, hother]
  text := ⟨oneRecord, twoRecords, by decide +kernel, by decide +kernel, by decide +kernel⟩

lemma importing_accepts : (importing twoRecords).AcceptsAt {} secondOfTwo 1 := by
  let l := importing twoRecords
  have hserve : ((l.catalog {}).serve []).run {} = .ok () {} := rfl
  have hmoments : ((l.open? [] secondOfTwo none {}).bind fun m₀ => (l.advance? {} m₀).bind fun m₁ =>
      (l.advance? {} m₁).map fun m₂ => (m₁.chain.names, m₁.store.diagnostics.length, m₂.store.diagnostics.length)) =
        some ([secondOfTwo], 0, 0) := by
    decide +kernel
  obtain ⟨m₀, h₀, hmoments⟩ := Option.bind_eq_some_iff.mp hmoments
  obtain ⟨m₁, h₁, hmoments⟩ := Option.bind_eq_some_iff.mp hmoments
  obtain ⟨m₂, h₂, hfacts⟩ := Option.map_eq_some_iff.mp hmoments
  simp only [Prod.mk.injEq] at hfacts
  obtain ⟨hnames, hlength, hlength'⟩ := hfacts
  have hplace : m₁.reading.exprs.drop 1 = m₁.rest := by
    refine drop_of_advance? ?_ h₁
    obtain ⟨_, _, _, _, _, _, _, _, rfl⟩ := open?_eq_some h₀
    rfl
  exact .of_advance? hserve (.next (.first h₀) h₁) (by rw [hnames]; rfl) hplace h₂ (hlength'.trans hlength.symm)

lemma importing_keeps_layouts : ∃ q s q' s', (((importing oneRecord).catalog {}).load firstOfTwo none).run {} = .ok (.ok q) s ∧
    (((importing twoRecords).catalog {}).load firstOfTwo none).run {} = .ok (.ok q') s' ∧
    q.declarations.map (fun d => (d.identifier.value, d.bits)) = [(1, 32)] ∧ ∃ ρ : Renaming,
      List.Forall₂ (Declaration.Same ρ) q.declarations
        (q'.declarations.filter fun d => ¬ (q'.name = secondOfTwo ∧ d.name = insertedName)) ∧
      ∃ t : TypeTable, t.PartOf s.types ∧ q.declarations ⊆ t.declarations ∧
        ∀ d ∈ t.declarations, ∃ d', s'.types.find? (ρ.identifier d.identifier) = some d' ∧ d.Same ρ d' := by
  have hload : (((((importing oneRecord).catalog {}).load firstOfTwo none).result? {}).bind fun out =>
      out.1.toOption.map fun q => q.declarations.map fun d => (d.identifier.value, d.bits)) = some [(1, 32)] := by
    decide +kernel
  obtain ⟨⟨r, s⟩, hrun, hload⟩ := Option.bind_eq_some_iff.mp hload
  obtain ⟨q, hq, hbits⟩ := Option.map_eq_some_iff.mp hload
  cases r with
  | error e => cases hq
  | ok found =>
    cases hq
    have hrun := Run.run_of_result? hrun
    obtain ⟨q', s', hrun', _, hsame⟩ := load_of_gains importing_gains importing_accepts hrun
    exact ⟨q, s, q', s', hrun, hrun', hbits, hsame⟩

end Library

end RecordSchema
