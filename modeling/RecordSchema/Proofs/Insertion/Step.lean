import RecordSchema.Proofs.Afresh.Agree
import RecordSchema.Proofs.Insertion.Effect

namespace RecordSchema

variable {c : Capabilities} {n : Numbering} {i : Identifier} {name : PackageName} {load load' : Provider} {e e' : Expr}

lemma FileState.exists_define_of_effect {f : FileState} {t : TypeTable} {package : PackageName} {d : Definition Target}
    (h : f.effect c t e = .ok (.declares package d)) :
    ∃ d₀, e.toStatement = .ok (.define d₀) ∧ d.name = d₀.name := by
  obtain ⟨statement, hstatement, hcomes⟩ := exists_comesTo h
  cases hcomes with
  | defines resolved => exact ⟨_, hstatement, Definition.name_of_resolve resolved⟩

namespace Draft

variable {w w₁ : Draft}

lemma told_tell_ne_nil (w : Draft) (d : Diagnostic) : (w.tell d).told ≠ [] := by
  simp [tell]

lemma exists_of_heed {α : Type} {x : Attempt Diagnostic α} {k : α → Draft} (h : w.heed x k = .ok w₁)
    (hquiet : w₁.told = []) : ∃ a, x = .ok a ∧ w₁ = k a := by
  rcases x with (d | fault) | a
  · cases h
    exact absurd hquiet (told_tell_ne_nil w d)
  · cases h
  · exact ⟨a, rfl, (Except.ok.inj h).symm⟩

lemma exists_effect_of_feed (h : w.feed c n load name e = .ok w₁) (hquiet : w₁.told = []) :
    ∃ effect, w.file.effect c w.types e = .ok effect ∧ w.take c n load name e.position effect = .ok w₁ := by
  rw [feed] at h
  split at h
  · next effect heffect => exact ⟨effect, heffect, h⟩
  · cases h
    exact absurd hquiet (told_tell_ne_nil w _)
  · cases h

lemma told_of_feed (h : w.feed c n load name e = .ok w₁) (hquiet : w₁.told = []) : w.told = [] := by
  obtain ⟨effect, _, h⟩ := exists_effect_of_feed h hquiet
  cases effect with
  | taken file out =>
    cases h
    exact hquiet
  | declares package d =>
    obtain ⟨_, _, rfl⟩ := exists_of_heed h hquiet
    exact hquiet
  | asks package qualifier p =>
    obtain ⟨y, _, h⟩ := take_of_asks h
    obtain ⟨_, _, rfl⟩ := exists_of_heed h hquiet
    exact hquiet

lemma told_of_foldlM : ∀ {exprs : List Expr} {w : Draft}, exprs.foldlM (feed c n load name) w = .ok w₁ →
    w₁.told = [] → w.told = []
  | [], w, h, hquiet => by
    cases h
    exact hquiet
  | e :: rest, w, h, hquiet => by
    rw [List.foldlM_cons] at h
    obtain ⟨v, hv, h⟩ := exists_of_bind_eq_ok h
    exact told_of_feed hv (told_of_foldlM h hquiet)

end Draft

inductive Product.Gains (n : Numbering) (i : Identifier) (name : PackageName) : Product → Product → Prop
  | none : Gains n i name none none
  | some {q q' : Package} {p p' : Position} (gains : q.Gains i q')
      (numbered : ∀ d ∈ q'.declarations, d.identifier = n.identifier name d.name) : Gains n i name (some (q, p)) (some (q', p'))

structure Draft.Gains (n : Numbering) (i : Identifier) (name : PackageName) (w w' : Draft) : Prop where
  file : w.file.Gains i w'.file
  numbered : w'.file.Numbered n name
  product : w.product.Gains n i name w'.product
  types : AlikeBut i w.types.declarations w'.types.declarations
  told_eq : w'.told = w.told

structure Yield.Gains (n : Numbering) (i : Identifier) (y y' : Yield) : Prop where
  package : y.package.Gains i y'.package
  numbered : y'.package.Numbered n
  types : AlikeBut i y.types.declarations y'.types.declarations

def Provider.Gains (n : Numbering) (i : Identifier) (load load' : Provider) : Prop :=
  ∀ name p p' y, load name p = .ok y → (load' name p').Blameless (y.Gains n i)

lemma Outcome.Gains.product {out out' : Outcome} {product product' : Product} (h : out.Gains n i name out')
    (hproduct : product.Gains n i name product') (p p' : Position) :
    (out.product p product).Gains n i name (out'.product p' product') := by
  cases h with
  | nothing => exact hproduct
  | finished gains numbered => exact .some gains numbered

lemma Scope.Gains.bindImport {s s' scope : Scope} {q q' : Package} {qualifier : Segment} (h : s.Gains i s')
    (hn : s'.Numbered n name) (hq : q.Gains i q') (hnq : q'.Numbered n) (hscope : s.bindImport qualifier q = .ok scope) :
    ∃ scope', s'.bindImport qualifier q' = .ok scope' ∧ scope.Gains i scope' ∧ scope'.Numbered n name := by
  obtain ⟨qualifiers, hinsert, rfl⟩ := exists_of_bindImport hscope
  have hbound : s'.bindImport qualifier q' = .ok { s' with qualifiers, packages := s'.packages ++ [q'] } := by
    rw [Scope.bindImport, h.qualifiers_eq, hq.name_eq, hinsert]
    rfl
  refine ⟨_, hbound, ⟨h.state_eq, rfl, ?_, h.types⟩, ⟨hn.types, fun q hq => ?_⟩⟩
  · exact List.rel_append h.packages (.cons hq .nil)
  · rcases List.mem_append.mp hq with hq | hq
    · exact hn.packages q hq
    · rw [List.mem_singleton.mp hq]
      exact hnq

namespace Draft.Gains

variable {w w' w₁ w₁' : Draft}

lemma receive (h : w.Gains n i name w') {package : PackageName} {qualifier : Segment} {p p' : Position} {y y' : Yield}
    (hy : y.Gains n i y') (hx : w.receive package qualifier p y = .ok w₁) (hquiet : w₁.told = []) :
    (w'.receive package qualifier p' y').Blameless (w₁.Gains n i name) := by
  obtain ⟨scope, hscope, rfl⟩ := exists_of_heed hx hquiet
  obtain ⟨scope', hscope', hgains, hnumbered⟩ :=
    h.file.scope.bindImport h.numbered.scope hy.package hy.numbered (Attempt.eq_ok_of_mapError hscope)
  rw [Draft.receive]
  simp only [hscope', Except.mapError, Attempt.ofError, heed]
  exact .ok ⟨⟨hgains, h.file.opened, h.file.collected⟩, ⟨hnumbered, h.numbered.collected⟩, h.product,
    h.types.append hy.types, h.told_eq⟩

lemma take (h : w.Gains n i name w') (hload : load.Gains n i load') {effect effect' : Effect}
    (heffect : effect.Gains n i name effect')
    (hfresh : ∀ package d, effect = .declares package d → n.identifier name d.name ≠ i) {p p' : Position}
    (hx : w.take c n load name p effect = .ok w₁) (hquiet : w₁.told = []) :
    (w'.take c n load' name p' effect').Blameless (w₁.Gains n i name) := by
  cases heffect with
  | taken file numbered outcome =>
    cases hx
    exact .ok ⟨file, numbered, outcome.product h.product p p', h.types, h.told_eq⟩
  | @declares package d d' alike =>
    obtain ⟨⟨f₁, r⟩, hsettle, rfl⟩ := exists_of_heed hx hquiet
    have hsettled := h.file.settle h.numbered h.types alike (hfresh package d rfl) hsettle
    rw [Draft.take]
    generalize w'.file.settle c w'.types (n.identifier name d'.name) package d' = x' at hsettled
    cases hsettled with
    | fault fault => exact .fault fault
    | ok hfound =>
      obtain ⟨hfile, hnumbered, hr, hi⟩ := hfound
      exact .ok ⟨hfile, hnumbered, h.product, h.types.append (.singleton hr hi), h.told_eq⟩
  | @asks package qualifier q q' =>
    obtain ⟨y, hy, hx⟩ := take_of_asks hx
    have hloaded := hload package (some q) (some q') y hy
    rw [Draft.take]
    generalize load' package (some q') = x' at hloaded
    cases hloaded with
    | fault fault => exact .fault fault
    | ok hgains => exact h.receive hgains hx hquiet

theorem feed (h : w.Gains n i name w') (hload : load.Gains n i load') (he : e.Alike e')
    (hfresh : ∀ d, e.toStatement = .ok (.define d) → n.identifier name d.name ≠ i)
    (hx : w.feed c n load name e = .ok w₁) (hquiet : w₁.told = []) :
    (w'.feed c n load' name e').Blameless (w₁.Gains n i name) := by
  obtain ⟨effect, heffect, hx⟩ := exists_effect_of_feed hx hquiet
  have hfresh' : ∀ package d, effect = .declares package d → n.identifier name d.name ≠ i := by
    rintro package d rfl
    obtain ⟨d₀, hd₀, hname⟩ := FileState.exists_define_of_effect heffect
    rw [hname]
    exact hfresh d₀ hd₀
  have heffect' := h.file.effect h.numbered h.types he hfresh heffect
  rw [Draft.feed]
  generalize w'.file.effect c w'.types e' = x' at heffect'
  cases heffect' with
  | fault fault => exact .fault fault
  | ok hgains => exact h.take hload hgains hfresh' hx hquiet

theorem foldlM (hload : load.Gains n i load') {exprs exprs' : List Expr} (halike : List.Forall₂ Expr.Alike exprs exprs')
    (hfresh : ∀ e ∈ exprs, ∀ d, e.toStatement = .ok (.define d) → n.identifier name d.name ≠ i) :
    ∀ {w w' : Draft}, w.Gains n i name w' → exprs.foldlM (Draft.feed c n load name) w = .ok w₁ → w₁.told = [] →
      (exprs'.foldlM (Draft.feed c n load' name) w').Blameless (w₁.Gains n i name) := by
  induction halike with
  | nil =>
    rintro w w' h ⟨⟩ _
    exact .ok h
  | @cons e e' rest rest' he _ ih =>
    intro w w' h hx hquiet
    rw [List.foldlM_cons] at hx ⊢
    obtain ⟨v, hv, hrest⟩ := exists_of_bind_eq_ok hx
    have hstep := h.feed hload he (hfresh e List.mem_cons_self) hv (told_of_foldlM hrest hquiet)
    exact hstep.bind fun v' hv' => ih (fun e he => hfresh e (List.mem_cons_of_mem _ he)) hv' hrest hquiet

theorem insert (h : w.Gains n i name w') {d : Definition Mention} (hs : e.toStatement = .ok (.define d))
    (hi : n.identifier name d.name = i) (hx : w'.feed c n load' name e = .ok w₁') (hquiet : w₁'.told = []) :
    w.Gains n i name w₁' := by
  obtain ⟨effect, heffect, hx⟩ := exists_effect_of_feed hx hquiet
  rw [FileState.effect_eq hs] at heffect
  obtain ⟨⟨package, d'⟩, hd', heffect⟩ := exists_of_bind_eq_ok heffect
  cases heffect
  have hname : d'.name = d.name := Definition.name_of_resolve (Attempt.eq_ok_of_retell hd')
  obtain ⟨⟨f₁, r⟩, hsettle, rfl⟩ := exists_of_heed hx hquiet
  obtain ⟨r₁, hr, hsettle⟩ := exists_of_bind_eq_ok hsettle
  obtain ⟨scope, hcommit, hsettle⟩ := exists_of_bind_eq_ok hsettle
  cases hsettle
  have hscope : w'.file.scope.defineType r = .ok scope := Attempt.eq_ok_of_mapError (Attempt.eq_ok_of_retell hcommit)
  obtain ⟨hidentifier, hrname⟩ := Check.label_of_declaration (Attempt.eq_ok_of_retell hr)
  have hnumber : r.identifier = n.identifier name r.name := by rw [hidentifier, hrname]
  have hri : r.identifier = i := by rw [hidentifier, hname, hi]
  have hsame : ∀ e ∈ w'.file.collector.declarations, e.name = r.name → e.identifier = i := by
    intro e he heq
    rw [h.numbered.collected e he, heq, ← hnumber, hri]
  have hpairs := Scope.pairs_of_defineType hscope
  obtain ⟨types, _, rfl⟩ := Scope.exists_of_defineType hscope
  have htypes : types.pairs.filter (·.2 ≠ i) = w.file.scope.types.pairs := by
    rw [hpairs, List.filter_append, h.file.scope.types]
    simp [hri]
  refine ⟨⟨⟨h.file.scope.state_eq, h.file.scope.qualifiers_eq, h.file.scope.packages, htypes⟩, h.file.opened,
    h.file.collected.upsert_new hri hsame⟩, ⟨⟨fun entry he => ?_, h.numbered.scope.packages⟩, fun e he => ?_⟩, h.product,
    h.types.concat_new hri, h.told_eq⟩
  · rw [hpairs] at he
    rcases List.mem_append.mp he with he | he
    · exact h.numbered.scope.types entry he
    · rw [List.mem_singleton.mp he]
      exact hnumber
  · rcases mem_upsert he with rfl | he
    · exact hnumber
    · exact h.numbered.collected e he

end Draft.Gains

end RecordSchema
