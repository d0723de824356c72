import RecordSchema.Proofs.Load.Desk
import RecordSchema.Proofs.Resolution.Faithful

/-! A path through members is accepted exactly if it can be followed to its end, and then the same type is found at its
end when it is followed again. -/

namespace RecordSchema

namespace TypeTable

variable (t : TypeTable)

inductive Enters : Declaration → List FieldName → Declaration → Prop
  | here {d : Declaration} : Enters d [] d
  | member {d e last : Declaration} {field : FieldName} {target : Target} {bits : Nat} {path : List FieldName}
      (declared : d.memberType? field = some (.declared target bits)) (found : t.find? target.identifier = some e)
      (rest : Enters e path last) : Enters d (field :: path) last

def EndsIn (d : Declaration) (path : List FieldName) (type : DataType) : Prop :=
  ∃ before field e, path = before ++ [field] ∧ t.Enters d before e ∧ e.memberType? field = some type

/-- The path cannot be followed to its end: a declaration that it comes to lacks the next member, or it would have to go
on through a member whose type is not a declared one. -/
inductive Breaks (d : Declaration) (path : List FieldName) : ResolveProblem → Prop
  | lacking {e : Declaration} {before after : List FieldName} {field : FieldName}
      (path_eq : path = before ++ field :: after) (enters : t.Enters d before e) (lacks : e.memberType? field = none) :
      Breaks d path (.fieldNonexistent e.package e.name field)
  | undeclared {e : Declaration} {before after : List FieldName} {field next : FieldName} {type : DataType}
      (path_eq : path = before ++ field :: next :: after) (enters : t.Enters d before e)
      (member : e.memberType? field = some type) (plain : type.identifier? = none) :
      Breaks d path (.pathNotNominal next type.render)

variable {t} {d : Declaration} {field : FieldName} {path : List FieldName} {type : DataType} {problem : ResolveProblem}

lemma EndsIn.ne_nil (h : t.EndsIn d path type) : path ≠ [] := by
  obtain ⟨before, last, e, rfl, _⟩ := h
  exact List.append_ne_nil_of_right_ne_nil _ (List.cons_ne_nil _ _)

lemma Breaks.ne_nil (h : t.Breaks d path problem) : path ≠ [] := by
  rcases h with ⟨rfl, _, _⟩ | ⟨rfl, _, _, _⟩ <;> exact List.append_ne_nil_of_right_ne_nil _ (List.cons_ne_nil _ _)

lemma endsIn_cons_iff : t.EndsIn d (field :: path) type ↔ (path = [] ∧ d.memberType? field = some type) ∨
    ∃ target bits e, d.memberType? field = some (.declared target bits) ∧ t.find? target.identifier = some e ∧
      t.EndsIn e path type := by
  constructor
  · rintro ⟨before, last, e, hpath, henters, hlast⟩
    cases henters with
    | here =>
      obtain ⟨rfl, rfl⟩ := List.cons.inj hpath
      exact .inl ⟨rfl, hlast⟩
    | member declared found rest =>
      obtain ⟨rfl, rfl⟩ := List.cons.inj hpath
      exact .inr ⟨_, _, _, declared, found, _, last, e, rfl, rest, hlast⟩
  · rintro (⟨rfl, hlast⟩ | ⟨target, bits, e, hdeclared, hfound, before, last, e', rfl, henters, hlast⟩)
    · exact ⟨[], field, d, rfl, .here, hlast⟩
    · exact ⟨field :: before, last, e', rfl, .member hdeclared hfound henters, hlast⟩

lemma breaks_cons_iff : t.Breaks d (field :: path) problem ↔
    (d.memberType? field = none ∧ problem = .fieldNonexistent d.package d.name field) ∨
    (∃ next rest type, path = next :: rest ∧ d.memberType? field = some type ∧ type.identifier? = none ∧
      problem = .pathNotNominal next type.render) ∨
    ∃ target bits e, d.memberType? field = some (.declared target bits) ∧ t.find? target.identifier = some e ∧
      t.Breaks e path problem := by
  constructor
  · rintro (⟨hpath, henters, hlacks⟩ | ⟨hpath, henters, hmember, hplain⟩)
    · cases henters with
      | here =>
        obtain ⟨rfl, rfl⟩ := List.cons.inj hpath
        exact .inl ⟨hlacks, rfl⟩
      | member declared found rest =>
        obtain ⟨rfl, rfl⟩ := List.cons.inj hpath
        exact .inr (.inr ⟨_, _, _, declared, found, .lacking rfl rest hlacks⟩)
    · cases henters with
      | here =>
        obtain ⟨rfl, rfl⟩ := List.cons.inj hpath
        exact .inr (.inl ⟨_, _, _, rfl, hmember, hplain, rfl⟩)
      | member declared found rest =>
        obtain ⟨rfl, rfl⟩ := List.cons.inj hpath
        exact .inr (.inr ⟨_, _, _, declared, found, .undeclared rfl rest hmember hplain⟩)
  · rintro (⟨hlacks, rfl⟩ | ⟨_, _, type, rfl, hmember, hplain, rfl⟩ | ⟨target, bits, e, hdeclared, hfound, hbreaks⟩)
    · exact .lacking rfl .here hlacks
    · exact .undeclared rfl .here hmember hplain
    · cases hbreaks with
      | lacking hpath henters hlacks =>
        exact .lacking (congrArg (field :: ·) hpath) (.member hdeclared hfound henters) hlacks
      | undeclared hpath henters hmember hplain =>
        exact .undeclared (congrArg (field :: ·) hpath) (.member hdeclared hfound henters) hmember hplain

lemma leads_iff_exists_endsIn : ∀ (path : List FieldName) (d : Declaration), path ≠ [] →
    (t.Leads d path ↔ ∃ type, t.EndsIn d path type)
  | [], _, hne => absurd rfl hne
  | [field], d, _ => by
    simp only [Leads, endsIn_cons_iff, true_and]
    constructor
    · rintro ⟨type, hm⟩
      exact ⟨type, .inl hm⟩
    · rintro ⟨type, hm | ⟨_, _, _, _, _, hends⟩⟩
      · exact ⟨type, hm⟩
      · exact absurd rfl hends.ne_nil
  | field :: next :: rest, d, _ => by
    rw [Leads]
    constructor
    · rintro ⟨target, bits, e, hm, he, hleads⟩
      obtain ⟨type, hends⟩ := (leads_iff_exists_endsIn (next :: rest) e (List.cons_ne_nil _ _)).mp hleads
      exact ⟨type, endsIn_cons_iff.mpr (.inr ⟨target, bits, e, hm, he, hends⟩)⟩
    · rintro ⟨type, hends⟩
      obtain ⟨hnil, _⟩ | ⟨target, bits, e, hm, he, hends⟩ := endsIn_cons_iff.mp hends
      · cases hnil
      · exact ⟨target, bits, e, hm, he,
          (leads_iff_exists_endsIn (next :: rest) e (List.cons_ne_nil _ _)).mpr ⟨type, hends⟩⟩

lemma checkPath_eq_error_iff (ht : t.Closed) (p : Position) {failure : Failure ResolveError} :
    ∀ (path : List FieldName) (d : Declaration), d ∈ t.declarations → (t.checkPath p d path = .error failure ↔
      ∃ problem, t.Breaks d path problem ∧ failure = .error ⟨problem, some p⟩)
  | [], d, _ => by
    have hnone : ∀ problem, ¬t.Breaks d [] problem := fun _ hbreaks => hbreaks.ne_nil rfl
    simp [checkPath, hnone]
  | field :: rest, d, hd => by
    unfold checkPath
    simp only [breaks_cons_iff]
    cases hm : d.memberType? field with
    | none => simp [eq_comm]
    | some type =>
      cases rest with
      | nil =>
        have hnone : ∀ e problem, ¬t.Breaks e [] problem := fun _ _ hbreaks => hbreaks.ne_nil rfl
        simp [hnone]
      | cons next rest =>
        cases type with
        | declared target bits =>
          obtain ⟨e, he⟩ := ht.member d hd field target bits hm
          have hrest : (Attempt.ofFault (t.get target.identifier) >>= fun e => t.checkPath p e (next :: rest)) =
              t.checkPath p e (next :: rest) := by
            rw [get_eq_ok_iff.mpr he]
            rfl
          simp only [hrest, checkPath_eq_error_iff ht p (next :: rest) e (mem_of_find? he).1]
          simp [DataType.identifier?, he]
        | _ => simp [DataType.identifier?, eq_comm]

lemma walk_of_endsIn (ht : t.Closed) : ∀ (path : List FieldName) (d : Declaration), d ∈ t.declarations →
    t.EndsIn d path type → t.walk d.toType path = .ok type
  | [], _, _, hends => absurd rfl hends.ne_nil
  | field :: rest, d, hd, hends => by
    rw [walk_cons d.toType field rest rfl (ht.find?_eq d hd)]
    obtain ⟨rfl, hm⟩ | ⟨target, bits, e, hm, he, hends⟩ := endsIn_cons_iff.mp hends
    · rw [hm]
      rfl
    · obtain ⟨hmem, hid⟩ := mem_of_find? he
      have hrest := walk_of_endsIn ht rest e hmem hends
      obtain ⟨next, rest, rfl⟩ := List.exists_cons_of_ne_nil hends.ne_nil
      rw [walk_cons e.toType next rest rfl (ht.find?_eq e hmem)] at hrest
      rw [hm]
      exact (walk_cons (.declared target bits) next rest (congrArg some hid.symm) (ht.find?_eq e hmem)).trans hrest

end TypeTable

namespace Library

variable {l : Library} {c : Capabilities} {s : Store} {target : Target} {d : Declaration} {path : List FieldName}

/-- Whatever the sources say, a path that is not empty is accepted exactly if it has an end, where the last member on it
is then found; and it is rejected exactly for its break. -/
theorem paths_followed_of_present (h : l.Present c s) (registered : s.types.find? target.identifier = some d)
    (nonempty : path ≠ []) (p : Position) :
    (s.types.checkPathFrom target path p = .ok () ↔ ∃ type, s.types.EndsIn d path type) ∧
      (∀ type, s.types.EndsIn d path type → ∀ placement mp,
        (TypeExpr.typeOf target mp path p).check c s.types placement = .ok type) ∧
      ∀ failure, s.types.checkPathFrom target path p = .error failure ↔
        ∃ problem, s.types.Breaks d path problem ∧ failure = .error ⟨problem, some p⟩ := by
  have hclosed : s.types.Closed := h.sound.grown.closed
  have hd : d ∈ s.types.declarations := (TypeTable.mem_of_find? registered).1
  have hget : s.types.get target.identifier = .ok d := TypeTable.get_eq_ok_iff.mpr registered
  have hcheck : s.types.checkPathFrom target path p = s.types.checkPath p d path := by
    rw [TypeTable.checkPathFrom, hget]
    rfl
  rw [hcheck]
  refine ⟨?_, fun type hends placement mp => ?_, fun failure => TypeTable.checkPath_eq_error_iff hclosed p path d hd⟩
  · rw [TypeTable.checkPath_eq_ok_iff, TypeTable.leads_iff_exists_endsIn path d nonempty]
  · rw [TypeExpr.check, hget]
    exact congrArg Attempt.ofFault (TypeTable.walk_of_endsIn hclosed path d hd hends)

def layeredRecords : Library :=
  .texts [(nestedName, "(package-begin n) (record A [(field part (integer unsigned 8))]) (union U [(case only A)])" ++
    "(record B [(field whole U)])")]

def layeredPath : List FieldName :=
  [⟨"whole", by decide +kernel⟩, ⟨"only", by decide +kernel⟩, ⟨"part", by decide +kernel⟩]

lemma layered_path_followed : ∃ s d type, layeredRecords.Present {} s ∧ s.types.find? d.target.identifier = some d ∧
    s.types.EndsIn d layeredPath type ∧ ∀ p : Position,
      (s.types.checkPathFrom d.target layeredPath p = .ok () ↔ ∃ type, s.types.EndsIn d layeredPath type) ∧
        (∀ type, s.types.EndsIn d layeredPath type → ∀ placement mp,
          (TypeExpr.typeOf d.target mp layeredPath p).check {} s.types placement = .ok type) ∧
        ∀ failure, s.types.checkPathFrom d.target layeredPath p = .error failure ↔
          ∃ problem, s.types.Breaks d layeredPath problem ∧ failure = .error ⟨problem, some p⟩ := by
  have hmoments : (((((layeredRecords.open? [] nestedName none {}).bind (layeredRecords.advance? {})).bind
      (layeredRecords.advance? {})).bind (layeredRecords.advance? {})).bind (layeredRecords.advance? {})).map (fun m =>
        (m.store.types.find? ⟨2⟩).map fun d => (m.store.types.checkPathFrom d.target layeredPath default).toBool) =
          some (some true) := by
    decide +kernel
  obtain ⟨m, hm, hfacts⟩ := Option.map_eq_some_iff.mp hmoments
  obtain ⟨m₃, hm, h₄⟩ := Option.bind_eq_some_iff.mp hm
  obtain ⟨m₂, hm, h₃⟩ := Option.bind_eq_some_iff.mp hm
  obtain ⟨m₁, hm, h₂⟩ := Option.bind_eq_some_iff.mp hm
  obtain ⟨m₀, h₀, h₁⟩ := Option.bind_eq_some_iff.mp hm
  obtain ⟨d, hd, haccepted⟩ := Option.map_eq_some_iff.mp hfacts
  have hpasses : layeredRecords.Passes {} nestedName none {} m :=
    ((((Passes.first h₀).next h₁).next h₂).next h₃).next h₄
  have hpresent : layeredRecords.Present {} m.store := .visited (.during .empty hpasses)
  have hregistered : m.store.types.find? d.target.identifier = some d := by
    obtain ⟨_, hidentifier⟩ := TypeTable.mem_of_find? hd
    rwa [Declaration.target, hidentifier]
  have hok : m.store.types.checkPathFrom d.target layeredPath default = .ok () := by
    cases hcheck : m.store.types.checkPathFrom d.target layeredPath default with
    | ok _ => rfl
    | error _ =>
      rw [hcheck] at haccepted
      cases haccepted
  have hnonempty : layeredPath ≠ [] := List.cons_ne_nil _ _
  obtain ⟨type, hends⟩ := (paths_followed_of_present hpresent hregistered hnonempty default).1.mp hok
  exact ⟨m.store, d, type, hpresent, hregistered, hends, paths_followed_of_present hpresent hregistered hnonempty⟩

end Library

end RecordSchema
