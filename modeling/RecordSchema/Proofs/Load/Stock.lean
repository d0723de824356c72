import RecordSchema.Proofs.Load.Backed
import RecordSchema.Proofs.Relocation.Parsing
import RecordSchema.Proofs.Renaming.Basic

/-! What has been loaded rests on what was loaded before it, and nothing rests on itself. -/

namespace RecordSchema

variable {c : Capabilities} {l : Library} {E : List Package → Package → Prop} {name other : PackageName}
  {importer : Option Position} {load : Importer} {f : FileState} {files : List FileState} {s s' : Store}
  {earlier : List Package} {package : Package}

namespace Store

structure AtRest (s : Store) : Prop where
  loading : s.loading = []
  imports : s.imports = .empty

lemma AtRest.of_eq (h : s.AtRest) (hloading : s'.loading = s.loading) (himports : s'.imports = s.imports) : s'.AtRest :=
  ⟨hloading.trans h.loading, himports.trans h.imports⟩

lemma AtRest.leaving (s : Store) : (s.leaving []).AtRest :=
  ⟨rfl, rfl⟩

def Stocked (E : List Package → Package → Prop) (s : Store) : Prop :=
  ∀ earlier package, earlier ++ [package] <+: s.packages → (∀ p ∈ earlier, p.name ≠ package.name) ∧ E earlier package

lemma Step.stocked (h : Step l E s s') (hs : s.Stocked E) : s'.Stocked E := by
  cases h with
  | aside aside =>
    rw [Stocked, aside.packages]
    exact hs
  | declared => exact hs
  | @kept kept fresh evidence =>
    intro earlier package hentered
    rcases List.prefix_concat_iff.mp hentered with heq | hentered
    · obtain ⟨hbefore, hlast⟩ := List.append_inj' heq rfl
      cases List.singleton_inj.mp hlast
      rw [hbefore]
      exact ⟨package?_eq_none_iff.mp fresh, evidence⟩
    · exact hs earlier package hentered

lemma Steps.stocked (h : s.Steps l E s') (hs : s.Stocked E) : s'.Stocked E := by
  induction h with
  | refl => exact hs
  | tail _ step ih => exact step.stocked ih

lemma Stocked.mono {E' : List Package → Package → Prop} (h : s.Stocked E) (hE : ∀ ps p, E ps p → E' ps p) :
    s.Stocked E' := by
  intro earlier package hentered
  obtain ⟨hfresh, hevidence⟩ := h earlier package hentered
  exact ⟨hfresh, hE _ _ hevidence⟩

lemma Stocked.package?_eq (h : s.Stocked E) (hp : package ∈ s.packages) : s.package? package.name = some package := by
  obtain ⟨earlier, later, hsplit⟩ := List.append_of_mem hp
  have hentered : earlier ++ [package] <+: s.packages := ⟨later, by rw [hsplit, List.append_assoc, List.singleton_append]⟩
  obtain ⟨hfresh, _⟩ := h earlier package hentered
  have hnone : earlier.find? (·.name = package.name) = none := by
    simpa only [List.find?_eq_none, decide_eq_true_eq] using hfresh
  rw [package?, hsplit, List.find?_append, hnone]
  simp

def rank (s : Store) (name : PackageName) : Nat :=
  s.packages.findIdx (·.name = name)

lemma rank_of_entered (h : earlier ++ [package] <+: s.packages) (hfresh : ∀ p ∈ earlier, p.name ≠ package.name) :
    s.rank package.name = earlier.length := by
  obtain ⟨later, hlater⟩ := h
  have hnone : ¬ earlier.findIdx (·.name = package.name) < earlier.length := by
    rw [List.findIdx_lt_length]
    rintro ⟨p, hp, heq⟩
    exact hfresh p hp (of_decide_eq_true heq)
  rw [rank, ← hlater, List.append_assoc, List.findIdx_append, if_neg hnone]
  simp [List.findIdx_cons]

lemma rank_lt_of_mem (h : earlier <+: s.packages) {found : Package} (hfound : found ∈ earlier) :
    s.rank found.name < earlier.length := by
  obtain ⟨later, hlater⟩ := h
  have hlt : earlier.findIdx (·.name = found.name) < earlier.length :=
    List.findIdx_lt_length_of_exists ⟨found, hfound, decide_eq_true rfl⟩
  rwa [rank, ← hlater, List.findIdx_append, if_pos hlt]

end Store

lemma FileState.Fed.atRest {e : Expr} {r : FileState × Outcome} (h : Fed c load f e s r s') (hs : s.AtRest)
    (hload : ∀ {package p r s'}, (load package (some p)).run s = .ok r s' → s'.AtRest) : s'.AtRest := by
  cases h with
  | rejected | begun | ended | refused | defined | shown => exact hs.of_eq rfl rfl
  | imported _ ran => exact hload ran
  | clashed _ ran => exact (hload ran).of_eq rfl rfl
  | failed _ ran => exact (hload ran).of_eq rfl rfl

namespace Library

def Imports (l : Library) (name other : PackageName) : Prop :=
  ∃ text file e qualifier p, l.source? name = some (.ok text) ∧ e ∈ (Expr.read file text).exprs ∧
    e.toStatement = .ok (.importPackage other qualifier p)

lemma Imports.exists_expr {text : String} (h : l.Imports name other) (hsource : l.source? name = some (.ok text))
    (file : FileId) : ∃ e ∈ (Expr.read file text).exprs, ∃ qualifier p,
      e.toStatement = .ok (.importPackage other qualifier p) := by
  obtain ⟨text', file', e, qualifier, p, hsource', hmem, hstatement⟩ := h
  cases hsource.symm.trans hsource'
  let r : Renaming := ⟨fun _ => file, id, Function.injective_id⟩
  have hread : Expr.read file text = (Expr.read file' text).relocate r := Expr.read_rename r file' text
  have hmirrors := Expr.toStatement_mirrors r e
  rw [hstatement] at hmirrors
  refine ⟨e.relocate r, ?_, qualifier, p.rename r, ?_⟩
  · rw [hread]
    exact List.mem_map_of_mem hmem
  · generalize (e.relocate r).toStatement = outcome at hmirrors
    cases hmirrors
    rfl

lemma Backed.exists_of_imports (h : l.Backed c earlier package) (hi : l.Imports package.name other) :
    ∃ found ∈ earlier, found.name = other := by
  obtain ⟨source, _, _, _, _, _, accepted, _, known⟩ := h
  obtain ⟨e, hmem, qualifier, p, hstatement⟩ := hi.exists_expr source _
  have hlogged : Except.ok (Statement.importPackage other qualifier p) ∈ List.map Expr.toStatement _ :=
    List.mem_map.mpr ⟨e, hmem, hstatement⟩
  rw [accepted] at hlogged
  obtain ⟨a, ha, heq⟩ := List.mem_map.mp hlogged
  exact known a ha other qualifier p (Except.ok.inj heq)

structure InStock (l : Library) (c : Capabilities) (s : Store) (name : PackageName) (package : Package) : Prop where
  name_eq : package.name = name
  declared : ∀ d ∈ package.declarations, d.package = name ∧ package.find? d.name = some d ∧
    s.types.find? d.identifier = some d
  backed : ∃ earlier, earlier ++ [package] <+: s.packages ∧ l.Backed c earlier package
  imported : ∀ other, l.Imports name other → (s.package? other).isSome ∧ s.rank other < s.rank name

lemma inStock_of_stocked (hs : s.Sound c) (h : s.Stocked (l.Backed c)) (hp : s.package? name = some package) :
    l.InStock c s name package := by
  have hname : package.name = name := by simpa using List.find?_some hp
  have hmem : package ∈ s.packages := List.mem_of_find?_eq_some hp
  obtain ⟨earlier, later, hsplit⟩ := List.append_of_mem hmem
  have hentered : earlier ++ [package] <+: s.packages := ⟨later, by rw [hsplit, List.append_assoc, List.singleton_append]⟩
  obtain ⟨hfresh, hbacked⟩ := h earlier package hentered
  have hbefore : earlier <+: s.packages := (List.prefix_append _ _).trans hentered
  refine ⟨hname, fun d hd => ?_, ⟨earlier, hentered, hbacked⟩, fun other hother => ?_⟩
  · obtain ⟨hd', hpackage⟩ := hs.registered package hmem d hd
    obtain ⟨_, _, _, _, _, _, _, holds, _⟩ := hbacked
    refine ⟨hpackage.trans hname, ?_, hs.grown.find?_eq d hd'⟩
    exact (find?_eq_some_iff_of_nodup holds.nodup).mpr ⟨hd, rfl⟩
  · subst hname
    obtain ⟨found, hfound, rfl⟩ := hbacked.exists_of_imports hother
    constructor
    · exact List.find?_isSome.mpr ⟨found, hbefore.subset hfound, decide_eq_true rfl⟩
    · rw [Store.rank_of_entered hentered hfresh]
      exact Store.rank_lt_of_mem hbefore hfound

lemma atRest_of_load {r : Except LoadError Package} (hs : s.Idle c) (hrest : s.AtRest)
    (hrun : ((l.catalog c).load name importer).run s = .ok r s') : s'.AtRest := by
  rw [run_load_on hs.trail] at hrun
  cases answers_of_loadOn hrun with
  | kept => exact hrest
  | circular _ mem => cases mem
  | unavailable | failed => exact .leaving _
  | @entered _ _ s' => exact (Store.AtRest.leaving s').of_eq rfl rfl

lemma Desk.atRest (h : l.Desk c files s) : s.AtRest := by
  induction h with
  | empty => exact ⟨rfl, rfl⟩
  | loaded desk ran ih => exact atRest_of_load desk.ready.1 ih ran
  | drained _ ih => exact ih.of_eq rfl rfl
  | opened _ ih => exact ih
  | fed desk ran ih =>
    have hready := desk.ready.2 _ (List.mem_append_right _ List.mem_cons_self)
    exact ((hready.feed_ends (load_loads l c []) _).elim ran).atRest ih (atRest_of_load desk.ready.1 ih)
  | ended _ _ ran ih =>
    rcases FileState.finish_run ran with rfl | ⟨d, rfl⟩
    · exact ih
    · exact ih.of_eq rfl rfl
  | emptied _ ih => exact ih

lemma Desk.stocked (h : l.Desk c files s) : s.Stocked (l.Backed c) := by
  have hsteps : ({} : Store).Steps l (l.Backed c) s := by
    apply h.steps
    intro files s name importer r s' hdesk hrun
    rw [run_load_on hdesk.ready.1.trail] at hrun
    exact (hdesk.invariant_passes name importer).steps_of_loadOn .first hrun
  apply hsteps.stocked
  intro earlier package hentered
  simpa using hentered.length_le

lemma rank_le_of_leads (h : ∀ name p, s.package? name = some p → l.InStock c s name p)
    (hleads : Relation.ReflTransGen l.Imports name other) (hname : (s.package? name).isSome) :
    (s.package? other).isSome ∧ s.rank other ≤ s.rank name := by
  induction hleads with
  | refl => exact ⟨hname, Nat.le_refl _⟩
  | tail _ himports ih =>
    obtain ⟨hknown, hle⟩ := ih
    obtain ⟨p, hp⟩ := Option.isSome_iff_exists.mp hknown
    obtain ⟨hother, hlt⟩ := (h _ p hp).imported _ himports
    exact ⟨hother, by omega⟩

/-- Whenever no load is going on, each known package has come from a source taken through without a diagnostic, and
all that it imports was known before. No package is known that leads into a circle, and whatever is asked for next
leaves no trace of the way to it. -/
theorem desk_in_stock (h : l.Desk c files s) : (∀ name p, s.package? name = some p → l.InStock c s name p) ∧
    (∀ name other, Relation.ReflTransGen l.Imports name other → Relation.TransGen l.Imports other other →
      s.package? name = none) ∧
    ∀ name importer, ∃ r s', ((l.catalog c).load name importer).run s = .ok r s' ∧ s'.AtRest := by
  obtain ⟨hidle, _⟩ := h.ready
  have hstock : ∀ name p, s.package? name = some p → l.InStock c s name p :=
    fun _ _ => inStock_of_stocked hidle.sound h.stocked
  refine ⟨hstock, fun name other hleads hcircle => ?_, fun name importer => ?_⟩
  · by_contra hne
    obtain ⟨hother, _⟩ := rank_le_of_leads hstock hleads (Option.isSome_iff_ne_none.mpr hne)
    -- The first import of the circle goes down in rank, and the others lead no further up.
    obtain ⟨next, himports, hback⟩ := Relation.TransGen.head'_iff.mp hcircle
    obtain ⟨p, hp⟩ := Option.isSome_iff_exists.mp hother
    obtain ⟨hnext, hlt⟩ := (hstock other p hp).imported next himports
    obtain ⟨_, hle⟩ := rank_le_of_leads hstock hback hnext
    omega
  · obtain ⟨r, s', hrun, _⟩ := load_loads l c [] name importer s hidle.sound hidle.trail
    exact ⟨r, s', hrun, atRest_of_load hidle h.atRest hrun⟩

def twoInARow : Library :=
  .texts [(firstOfTwo, "(package-begin a) (import b as q) (record A [(field x q.B)]) (package-end)"),
    (secondOfTwo, "(package-begin b) (record B [(field x (integer unsigned 8))]) (package-end)")]

lemma two_in_a_row_in_stock : ∃ files s p, twoInARow.Desk {} files s ∧ s.package? firstOfTwo = some p ∧
    twoInARow.InStock {} s firstOfTwo p ∧ s.rank secondOfTwo = 0 ∧ s.rank firstOfTwo = 1 := by
  have hload : (((twoInARow.catalog {}).load firstOfTwo none).result? {}).map (fun out =>
      ((out.2.package? firstOfTwo).isSome, out.2.rank secondOfTwo, out.2.rank firstOfTwo)) = some (true, 0, 1) := by
    decide +kernel
  obtain ⟨⟨r, s⟩, hrun, hresult⟩ := Option.map_eq_some_iff.mp hload
  simp only [Prod.mk.injEq] at hresult
  obtain ⟨hknown, hranks⟩ := hresult
  obtain ⟨p, hp⟩ := Option.isSome_iff_exists.mp hknown
  have hdesk : twoInARow.Desk {} [] s := .loaded .empty (Run.run_of_result? hrun)
  exact ⟨[], s, p, hdesk, hp, (desk_in_stock hdesk).1 firstOfTwo p hp, hranks⟩

end Library

end RecordSchema
