import RecordSchema.Proofs.Insertion.Scope

namespace RecordSchema

section

variable {α κ : Type} [DecidableEq κ] {key : α → κ} {p : α → Bool} {x : α}

lemma filter_upsert (hx : p x = true) : ∀ {ys : List α}, (∀ y ∈ ys, key y = key x → p y = true) →
    (upsert key x ys).filter p = upsert key x (ys.filter p)
  | [], _ => List.filter_cons_of_pos hx
  | y :: ys, h => by
    have hys := filter_upsert hx fun z hz => h z (List.mem_cons_of_mem y hz)
    rw [upsert]
    split
    · next hkey =>
      rw [List.filter_cons_of_pos hx, List.filter_cons_of_pos (h y List.mem_cons_self hkey), upsert, if_pos hkey]
    · next hkey =>
      rw [List.filter_cons, List.filter_cons, hys]
      split
      · rw [upsert, if_neg hkey]
      · rfl

lemma filter_upsert_of_dropped (hx : p x = false) : ∀ {ys : List α}, (∀ y ∈ ys, key y = key x → p y = false) →
    (upsert key x ys).filter p = ys.filter p
  | [], _ => by rw [upsert, List.filter_cons, hx]; rfl
  | y :: ys, h => by
    have hys := filter_upsert_of_dropped hx fun z hz => h z (List.mem_cons_of_mem y hz)
    rw [upsert]
    split
    · next hkey => simp [hx, h y List.mem_cons_self hkey]
    · rw [List.filter_cons, List.filter_cons, hys]

end

variable {c : Capabilities} {n : Numbering} {i : Identifier} {name : PackageName} {t t' : TypeTable}

namespace AlikeBut

variable {ds ds' : List Declaration} {d d' : Declaration}

lemma upsert (h : AlikeBut i ds ds') (hd : d'.relocate .nowhere = d.relocate .nowhere) (hi : d'.identifier ≠ i)
    (hsame : ∀ e ∈ ds', e.name = d'.name → e.identifier ≠ i) :
    AlikeBut i (RecordSchema.upsert Declaration.name d ds) (RecordSchema.upsert Declaration.name d' ds') := by
  have hmoved (d : Declaration) (ds : List Declaration) :
      RecordSchema.upsert Declaration.name (d.relocate .nowhere) (ds.map (Declaration.relocate .nowhere)) =
        (RecordSchema.upsert Declaration.name d ds).map (Declaration.relocate .nowhere) :=
    upsert_map (fun _ => rfl) d ds
  have hkept : ∀ e ∈ ds', e.name = d'.name → decide (e.identifier ≠ i) = true :=
    fun e he heq => decide_eq_true (hsame e he heq)
  rw [AlikeBut, filter_upsert (by simp [hi]) hkept, ← hmoved, ← hmoved, hd, h]

lemma upsert_new (h : AlikeBut i ds ds') (hi : d.identifier = i)
    (hsame : ∀ e ∈ ds', e.name = d.name → e.identifier = i) :
    AlikeBut i ds (RecordSchema.upsert Declaration.name d ds') := by
  rw [AlikeBut, filter_upsert_of_dropped (by simp [hi]) fun e he heq => by simp [hsame e he heq]]
  exact h

end AlikeBut

namespace FileState

structure Gains (i : Identifier) (f f' : FileState) : Prop where
  scope : f.scope.Gains i f'.scope
  opened : f'.collector.opened = f.collector.opened
  collected : AlikeBut i f.collector.declarations f'.collector.declarations

structure Numbered (n : Numbering) (name : PackageName) (f : FileState) : Prop where
  scope : f.scope.Numbered n name
  collected : ∀ d ∈ f.collector.declarations, d.identifier = n.identifier name d.name

end FileState

inductive Outcome.Gains (n : Numbering) (i : Identifier) (name : PackageName) : Outcome → Outcome → Prop
  | nothing : Gains n i name .nothing .nothing
  | finished {q q' : Package} (gains : q.Gains i q')
      (numbered : ∀ d ∈ q'.declarations, d.identifier = n.identifier name d.name) : Gains n i name (.finished q) (.finished q')

inductive Effect.Gains (n : Numbering) (i : Identifier) (name : PackageName) : Effect → Effect → Prop
  | taken {f f' : FileState} {out out' : Outcome} (file : f.Gains i f') (numbered : f'.Numbered n name)
      (outcome : out.Gains n i name out') : Gains n i name (.taken f out) (.taken f' out')
  | declares {package : PackageName} {d d' : Definition Target}
      (alike : d'.map Relocation.nowhere.position (Target.relocate .nowhere) =
        d.map Relocation.nowhere.position (Target.relocate .nowhere)) :
      Gains n i name (.declares package d) (.declares package d')
  | asks {package : PackageName} {qualifier : Segment} {p p' : Position} :
      Gains n i name (.asks package qualifier p) (.asks package qualifier p')

lemma Attempt.eq_ok_of_mapError {ι ε α : Type} {x : Except ι α} {k : ι → ε} {a : α}
    (h : Attempt.ofError (x.mapError k) = .ok a) : x = .ok a := by
  cases x <;> cases h
  rfl

namespace AlikeBut

variable (ht : AlikeBut i t.declarations t'.declarations)
include ht

lemma check_type {type type' : TypeExpr Target} {placement : Placement} {found : DataType}
    (halike : type'.map Relocation.nowhere.position (Target.relocate .nowhere) =
      type.map Relocation.nowhere.position (Target.relocate .nowhere))
    (hx : type.check c t placement = .ok found) : (type'.check c t' placement).Blameless fun found' =>
      found'.relocate .nowhere = found.relocate .nowhere := by
  have hmirrors' := type'.check_mirrors (c := c) (TypeTable.carries_relocate .nowhere t') placement
  rw [halike] at hmirrors'
  exact (type.check_mirrors ht.carries placement).meet hmirrors' hx

lemma evaluate_size {size size' : SizeExpr Target} {found : Nat}
    (halike : size'.map Relocation.nowhere.position (Target.relocate .nowhere) =
      size.map Relocation.nowhere.position (Target.relocate .nowhere))
    (hx : size.evaluate c t = .ok found) : (size'.evaluate c t').Blameless fun found' => found' = found := by
  have hmirrors' := size'.evaluate_mirrors (c := c) (TypeTable.carries_relocate .nowhere t')
  rw [halike] at hmirrors'
  exact (size.evaluate_mirrors ht.carries).meet hmirrors' hx

lemma check_declaration {d d' : Definition Target} {j : Identifier} {package : PackageName} {r : Declaration}
    (halike : d'.map Relocation.nowhere.position (Target.relocate .nowhere) =
      d.map Relocation.nowhere.position (Target.relocate .nowhere))
    (hx : Check.declaration c t j package d = .ok r) : (Check.declaration c t' j package d').Blameless fun r' =>
      r'.relocate .nowhere = r.relocate .nowhere := by
  have hmirrors' := Check.declaration_mirrors (c := c) (TypeTable.carries_relocate .nowhere t') j package d'
  rw [halike] at hmirrors'
  exact (Check.declaration_mirrors ht.carries j package d).meet hmirrors' hx

end AlikeBut

namespace FileState.Gains

variable {f f' : FileState}

lemma package (h : f.Gains i f') {p : Position} {package : PackageName} (hopened : f.scope.state = .opened package) :
    f'.package p = .ok package := by
  rw [FileState.package, Scope.requirePackage, Scope.current?, h.scope.state_eq, hopened]
  rfl

lemma results (h : f.Gains i f') (hn : f'.Numbered n name) (results results' : List CommandResult) :
    (Effect.taken { f with results } .nothing).Gains n i name (.taken { f' with results := results' } .nothing) :=
  .taken ⟨h.scope, h.opened, h.collected⟩ ⟨hn.scope, hn.collected⟩ .nothing

lemma conflict_eq (h : f.Gains i f') (package : PackageName) (qualifier : Segment) :
    ((f'.scope.imported? qualifier).isSome || (f'.scope.qualifierOf? package).isSome) =
      ((f.scope.imported? qualifier).isSome || (f.scope.qualifierOf? package).isSome) := by
  have himported := h.scope.imported? qualifier
  rw [Scope.qualifierOf?, Scope.qualifierOf?, h.scope.qualifiers_eq]
  generalize f.scope.imported? qualifier = x at himported
  generalize f'.scope.imported? qualifier = x' at himported
  cases himported <;> rfl

section

variable (h : f.Gains i f') (hn : f'.Numbered n name) (ht : AlikeBut i t.declarations t'.declarations)
include h hn ht

lemma resolve_type {type type' : TypeExpr Mention} {found : TypeExpr Target}
    (halike : type'.map Relocation.nowhere.position id = type.map Relocation.nowhere.position id)
    (hx : type.resolve t f.scope = .ok found) : (type'.resolve t' f'.scope).Blameless fun found' =>
      found'.map Relocation.nowhere.position (Target.relocate .nowhere) =
        found.map Relocation.nowhere.position (Target.relocate .nowhere) := by
  have hmirrors' := type'.resolve_mirrors (TypeTable.carries_relocate .nowhere t') f'.scope
  rw [halike] at hmirrors'
  exact (type.resolve_mirrors ht.carries f'.scope).meet hmirrors' (type.resolve_follows (h.scope.within hn.scope) _ hx)

lemma resolve_size {size size' : SizeExpr Mention} {found : SizeExpr Target}
    (halike : size'.map Relocation.nowhere.position id = size.map Relocation.nowhere.position id)
    (hx : size.resolve t f.scope = .ok found) : (size'.resolve t' f'.scope).Blameless fun found' =>
      found'.map Relocation.nowhere.position (Target.relocate .nowhere) =
        found.map Relocation.nowhere.position (Target.relocate .nowhere) := by
  have hmirrors' := size'.resolve_mirrors (TypeTable.carries_relocate .nowhere t') f'.scope
  rw [halike] at hmirrors'
  exact (size.resolve_mirrors ht.carries f'.scope).meet hmirrors' (size.resolve_follows (h.scope.within hn.scope) _ hx)

lemma resolve_definition {d d' : Definition Mention} {found : PackageName × Definition Target}
    (halike : d'.map Relocation.nowhere.position id = d.map Relocation.nowhere.position id)
    (hfresh : n.identifier name d.name ≠ i) (hx : d.resolve t f.scope = .ok found) :
    (d'.resolve t' f'.scope).Blameless fun found' => found'.1 = found.1 ∧
      found'.2.map Relocation.nowhere.position (Target.relocate .nowhere) =
        found.2.map Relocation.nowhere.position (Target.relocate .nowhere) := by
  have hmirrors' := d'.resolve_mirrors (TypeTable.carries_relocate .nowhere t') f'.scope
  rw [halike] at hmirrors'
  have hfollows := Definition.resolve_follows (t := t) (h.scope.within hn.scope) (h.scope.type?_eq_none hn.scope hfresh)
  exact ((d.resolve_mirrors ht.carries f'.scope).meet hmirrors' (hfollows _ hx)).mono fun _ heq => Prod.mk.inj heq

end

theorem statementEffect (h : f.Gains i f') (hn : f'.Numbered n name) (ht : AlikeBut i t.declarations t'.declarations)
    {statement statement' : Statement} (hs : statement'.relocate .nowhere = statement.relocate .nowhere)
    (hfresh : ∀ d, statement = .define d → n.identifier name d.name ≠ i) {x : Effect}
    (hx : f.statementEffect c t statement = .ok x) :
    (f'.statementEffect c t' statement').Blameless (x.Gains n i name) := by
  cases comesTo_of_statementEffect hx with
  | begins unopened =>
    cases statement' <;> cases hs
    rw [FileState.statementEffect, h.scope.state_eq, unopened]
    refine .ok (.taken ⟨⟨rfl, h.scope.qualifiers_eq, h.scope.packages, h.scope.types⟩, rfl, .nil⟩
      ⟨⟨hn.scope.types, hn.scope.packages⟩, ?_⟩ .nothing)
    rintro d ⟨⟩
  | @ends package _ opened collected =>
    cases statement' <;> cases hs
    have hcollected : f'.collector.opened = some package := h.opened.trans collected
    rw [FileState.statementEffect, h.package opened]
    simp only [bind, Except.bind, Collector.finish, if_pos hcollected]
    refine .ok (.taken ⟨⟨rfl, h.scope.qualifiers_eq, h.scope.packages, h.scope.types⟩, rfl, .nil⟩
      ⟨⟨hn.scope.types, hn.scope.packages⟩, ?_⟩ (.finished ⟨rfl, h.collected⟩ hn.collected))
    rintro d ⟨⟩
  | imports opened free =>
    cases statement' <;> cases hs
    rw [FileState.statementEffect, h.package opened]
    simp only [bind, Except.bind, h.conflict_eq, free]
    exact .ok .asks
  | defines resolved =>
    cases statement' with
    | define d' =>
      have hresolve := h.resolve_definition hn ht (Statement.define.inj hs) (hfresh _ rfl) resolved
      refine (hresolve.retell _).bind ?_
      rintro ⟨package', found'⟩ ⟨rfl, halike⟩
      exact .ok (.declares halike)
    | packageBegin | packageEnd | importPackage | showType | showSize => cases hs
  | showsType opened resolved checked =>
    cases statement' with
    | showType type' p' =>
      rw [FileState.statementEffect, h.package opened]
      have hresolve := h.resolve_type hn ht (Statement.showType.inj hs).1 resolved
      refine (hresolve.retell _).bind fun found' halike => ?_
      exact ((ht.check_type halike checked).retell _).bind fun _ _ => .ok (h.results hn _ _)
    | packageBegin | packageEnd | importPackage | define | showSize => cases hs
  | showsSize opened resolved checked =>
    cases statement' with
    | showSize size' p' =>
      rw [FileState.statementEffect, h.package opened]
      have hresolve := h.resolve_size hn ht (Statement.showSize.inj hs).1 resolved
      refine (hresolve.retell _).bind fun found' halike => ?_
      exact ((ht.evaluate_size halike checked).retell _).bind fun _ _ => .ok (h.results hn _ _)
    | packageBegin | packageEnd | importPackage | define | showType => cases hs

theorem effect (h : f.Gains i f') (hn : f'.Numbered n name) (ht : AlikeBut i t.declarations t'.declarations) {e e' : Expr}
    (he : e.Alike e') (hfresh : ∀ d, e.toStatement = .ok (.define d) → n.identifier name d.name ≠ i) {x : Effect}
    (hx : f.effect c t e = .ok x) : (f'.effect c t' e').Blameless (x.Gains n i name) := by
  obtain ⟨statement, hstatement, hx⟩ := exists_of_bind_eq_ok hx
  cases hs : e.toStatement with
  | error error =>
    rw [hs] at hstatement
    cases hstatement
  | ok found =>
    rw [hs] at hstatement
    cases hstatement
    obtain ⟨statement', hs', halike⟩ := he.toStatement hs
    rw [effect_eq hs']
    exact h.statementEffect hn ht halike (fun d hd => hfresh d (hd ▸ hs)) hx

theorem settle (h : f.Gains i f') (hn : f'.Numbered n name) (ht : AlikeBut i t.declarations t'.declarations)
    {package : PackageName} {d d' : Definition Target}
    (halike : d'.map Relocation.nowhere.position (Target.relocate .nowhere) =
      d.map Relocation.nowhere.position (Target.relocate .nowhere))
    (hfresh : n.identifier name d.name ≠ i) {f₁ : FileState} {r : Declaration}
    (hx : f.settle c t (n.identifier name d.name) package d = .ok (f₁, r)) :
    (f'.settle c t' (n.identifier name d'.name) package d').Blameless fun found =>
      f₁.Gains i found.1 ∧ found.1.Numbered n name ∧ found.2.relocate .nowhere = r.relocate .nowhere ∧
        found.2.identifier ≠ i := by
  have hname : d'.name = d.name := (Definition.mk.inj halike).1
  obtain ⟨r₁, hr, hx⟩ := exists_of_bind_eq_ok hx
  obtain ⟨scope, hcommit, hx⟩ := exists_of_bind_eq_ok hx
  cases hx
  have hchecked := Attempt.eq_ok_of_retell hr
  have hscope : f.scope.defineType r = .ok scope := Attempt.eq_ok_of_mapError (Attempt.eq_ok_of_retell hcommit)
  have hdeclared := ht.check_declaration halike hchecked
  obtain ⟨hidentifier, hrname⟩ := Check.label_of_declaration hchecked
  rw [hname]
  refine (hdeclared.retell _).bind fun r' hr' => ?_
  have hnumber : r'.identifier = n.identifier name r'.name := by
    rw [Declaration.name_eq_of_nowhere hr', Declaration.identifier_eq_of_nowhere hr', hidentifier, hrname]
  have hi : r'.identifier ≠ i := by
    rw [Declaration.identifier_eq_of_nowhere hr', hidentifier]
    exact hfresh
  obtain ⟨scope', hscope', hgains, hnumbered⟩ := h.scope.defineType hn.scope hr' hnumber hi hscope
  have hsame : ∀ e ∈ f'.collector.declarations, e.name = r'.name → e.identifier ≠ i := by
    intro e he heq
    rw [hn.collected e he, heq, ← hnumber]
    exact hi
  simp only [Scope.commit, hscope']
  refine .ok ⟨⟨hgains, h.opened, h.collected.upsert hr' hi hsame⟩, ⟨hnumbered, fun e he => ?_⟩, hr', hi⟩
  rcases mem_upsert he with rfl | he
  · exact hnumber
  · exact hn.collected e he

end FileState.Gains

end RecordSchema
