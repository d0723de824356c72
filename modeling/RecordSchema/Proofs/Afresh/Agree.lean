import RecordSchema.Proofs.Afresh.Basic

namespace RecordSchema

def Provider.Agrees (load load' : Provider) : Prop :=
  ∀ name p p' y y', load name p = .ok y → load' name p' = .ok y' → y = y'

variable {c : Capabilities} {n : Numbering} {load load' : Provider} {name : PackageName}

namespace Draft

variable {w w₁ w₂ : Draft}

lemma take_of_asks {package : PackageName} {qualifier : Segment} {p q : Position}
    (h : w.take c n load name q (.asks package qualifier p) = .ok w₁) :
    ∃ y, load package (some p) = .ok y ∧ w.receive package qualifier p y = .ok w₁ := by
  rw [take] at h
  split at h
  · next y hy => exact ⟨y, hy, h⟩
  · cases h
  · cases h

lemma take_agree (hload : load.Agrees load') {p : Position} {effect : Effect}
    (h : w.take c n load name p effect = .ok w₁) (h' : w.take c n load' name p effect = .ok w₂) : w₁ = w₂ := by
  cases effect with
  | asks package qualifier q =>
    obtain ⟨y, hy, h⟩ := take_of_asks h
    obtain ⟨y', hy', h'⟩ := take_of_asks h'
    cases hload _ _ _ _ _ hy hy'
    exact Except.ok.inj (h.symm.trans h')
  | taken | declares => exact Except.ok.inj (h.symm.trans h')

lemma feed_agree (hload : load.Agrees load') {e : Expr} (h : w.feed c n load name e = .ok w₁)
    (h' : w.feed c n load' name e = .ok w₂) : w₁ = w₂ := by
  rw [feed] at h h'
  cases hx : w.file.effect c w.types e with
  | ok effect =>
    rw [hx] at h h'
    exact take_agree hload h h'
  | error failure =>
    rw [hx] at h h'
    cases failure with
    | error d => exact Except.ok.inj (h.symm.trans h')
    | fault fault => cases h

lemma foldlM_agree (hload : load.Agrees load') : ∀ {exprs : List Expr} {w : Draft},
    exprs.foldlM (feed c n load name) w = .ok w₁ → exprs.foldlM (feed c n load' name) w = .ok w₂ → w₁ = w₂
  | [], w, h, h' => Except.ok.inj (h.symm.trans h')
  | e :: rest, w, h, h' => by
    rw [List.foldlM_cons] at h h'
    obtain ⟨v, hv, h⟩ := exists_of_bind_eq_ok h
    obtain ⟨v', hv', h'⟩ := exists_of_bind_eq_ok h'
    cases feed_agree hload hv hv'
    exact foldlM_agree hload h h'

end Draft

lemma compileAfresh_agree (hload : load.Agrees load') {text : String} {y y' : Yield}
    (h : compileAfresh c n load name text = .ok y) (h' : compileAfresh c n load' name text = .ok y') : y = y' := by
  obtain ⟨w, hw, h⟩ := exists_of_bind_eq_ok h
  obtain ⟨w', hw', h'⟩ := exists_of_bind_eq_ok h'
  cases Draft.foldlM_agree hload hw hw'
  exact Except.ok.inj (h.symm.trans h')

namespace Library

variable {l : Library} {chain : Chain} {importer : Option Position} {y : Yield}

lemma exists_text_of_afresh (h : l.afresh c n chain name importer = .ok y) :
    name ∉ chain.names ∧ ∃ text, l.source? name = some (.ok text) ∧
      compileAfresh c n (l.afresh c n (chain ++ [(name, importer)])) name text = .ok y := by
  rw [afresh] at h
  split at h
  · cases h
  · next hname =>
    split at h
    · cases h
    · cases h
    · next text hsource => exact ⟨hname, text, hsource, h⟩

theorem afresh_agrees (l : Library) (c : Capabilities) (n : Numbering) (chain chain' : Chain) :
    Provider.Agrees (l.afresh c n chain) (l.afresh c n chain') := by
  intro name p p' y y' h h'
  obtain ⟨hname, text, hsource, h⟩ := exists_text_of_afresh h
  obtain ⟨_, text', hsource', h'⟩ := exists_text_of_afresh h'
  cases hsource.symm.trans hsource'
  -- Fewer packages remain for the imports of its file.
  have hmem := mem_names_of_source? c hsource
  exact compileAfresh_agree (afresh_agrees l c n (chain ++ [(name, p)]) (chain' ++ [(name, p')])) h h'
termination_by ((l.catalog c).remaining chain.names).length
decreasing_by
  rw [Chain.names_concat]
  exact Catalog.length_remaining_lt hmem hname

end Library

end RecordSchema
