import RecordSchema.Compile.Evaluate
import RecordSchema.Proofs.Layout.Cover
import RecordSchema.Proofs.Outcome

namespace RecordSchema

namespace TypeTable

structure Closed (t : TypeTable) : Prop where
  find?_eq : ∀ d ∈ t.declarations, t.find? d.identifier = some d
  member : ∀ d ∈ t.declarations, ∀ name target bits, d.memberType? name = some (.declared target bits) →
    ∃ e, t.find? target.identifier = some e

def Registers (t : TypeTable) (target : Target) : Prop :=
  ∃ d, t.find? target.identifier = some d ∧ d.package = target.package ∧ d.name = target.name

lemma mem_of_find? {t : TypeTable} {i : Identifier} {d : Declaration} (h : t.find? i = some d) :
    d ∈ t.declarations ∧ d.identifier = i :=
  ⟨List.mem_of_find?_eq_some h, by simpa using List.find?_some h⟩

lemma get_eq_ok_iff {t : TypeTable} {i : Identifier} {d : Declaration} :
    t.get i = .ok d ↔ t.find? i = some d := by
  unfold get
  cases t.find? i <;> simp

lemma walk_cons {t : TypeTable} {d : Declaration} (type : DataType) (field : FieldName)
    (rest : List FieldName) (hi : type.identifier? = some d.identifier)
    (hd : t.find? d.identifier = some d) :
    t.walk type (field :: rest) =
      match d.memberType? field with
      | none => .error (.pathMisses field)
      | some type => t.walk type rest := by
  rw [walk, hi]
  simp only [get_eq_ok_iff.mpr hd]
  rfl

lemma checkPath_safe {t : TypeTable} (ht : t.Closed) (p : Position) :
    ∀ (path : List FieldName) (d : Declaration), d ∈ t.declarations →
      (t.checkPath p d path).Safe fun _ => ∃ type, t.walk d.toType path = .ok type
  | [], d, _ => by
    rw [checkPath]
    exact .ok ⟨d.toType, rfl⟩
  | field :: rest, d, hd => by
    have hwalk := walk_cons d.toType field rest rfl (ht.find?_eq d hd)
    unfold checkPath
    cases hm : d.memberType? field with
    | none => exact .error _
    | some type =>
      rw [hm] at hwalk
      cases rest with
      | nil => exact .ok ⟨type, hwalk⟩
      | cons next rest =>
        cases type with
        | declared target bits =>
          obtain ⟨e, he⟩ := ht.member d hd field target bits hm
          obtain ⟨hmem, hid⟩ := mem_of_find? he
          refine (Attempt.Safe.ofFault (P := (· = e)) (get_eq_ok_iff.mpr he) rfl).bind ?_
          rintro _ rfl
          have hfrom := walk_cons (.declared target bits) next rest
            (congrArg some hid.symm) (ht.find?_eq _ hmem)
          have hto := walk_cons (Declaration.toType _) next rest rfl
            (ht.find?_eq _ hmem)
          refine (checkPath_safe ht p (next :: rest) _ hmem).mono fun _ ⟨found, hfound⟩ => ⟨found, ?_⟩
          exact hwalk.trans (hfrom.trans (hto.symm.trans hfound))
        | _ => exact .error _

lemma checkPathFrom_safe {t : TypeTable} (ht : t.Closed) {target : Target} (h : t.Registers target)
    (path : List FieldName) (p : Position) :
    (t.checkPathFrom target path p).Safe fun _ =>
      ∃ d type, t.find? target.identifier = some d ∧ t.walk d.toType path = .ok type := by
  obtain ⟨d, hd, _⟩ := h
  refine (Attempt.Safe.ofFault (P := (· = d)) (get_eq_ok_iff.mpr hd) rfl).bind ?_
  rintro _ rfl
  exact (checkPath_safe ht p path _ (mem_of_find? hd).1).mono fun _ ⟨type, hw⟩ => ⟨_, type, hd, hw⟩

end TypeTable

variable (t : TypeTable)

mutual

def TypeExpr.Bound : TypeExpr Target → Prop
  | .integer _ bits _ => bits.Bound
  | .float bits _ => bits.Bound
  | .vector element count _ => element.Bound ∧ count.Bound
  | .matrix element width height _ => element.Bound ∧ width.Bound ∧ height.Bound
  | .booleanSet octets _ _ => octets.Bound
  | .string octets _ _ => octets.Bound
  | .reference target _ => t.Registers target
  | .typeOf target _ path _ => t.Registers target ∧
      ∃ d type, t.find? target.identifier = some d ∧ t.walk d.toType path = .ok type

def SizeExpr.Bound : SizeExpr Target → Prop
  | .constant _ _ => True
  | .inOctets of _ => of.Bound
  | .inBits of _ => of.Bound

end

def RecordItem.Bound : RecordItem Target → Prop
  | .field _ type _ => type.Bound t
  | .padding octets _ => octets.Bound t

def PackedItem.Bound : PackedItem Target → Prop
  | .field _ type _ => type.Bound t
  | .padding bits _ => bits.Bound t

def Body.Bound : Body Target → Prop
  | .record items => ∀ item ∈ items, item.Bound t
  | .packed items => ∀ item ∈ items, item.Bound t
  | .union cases => ∀ c ∈ cases, c.type.Bound t

def Package.Registered (p : Package) : Prop :=
  ∀ d ∈ p.declarations, d ∈ t.declarations ∧ d.package = p.name

def PackageState.package? : PackageState → Option PackageName
  | .unopened => none
  | .opened package => some package
  | .closed package => some package

structure Scope.Registered (s : Scope) : Prop where
  types : ∀ entry ∈ s.types.pairs, ∃ d ∈ t.declarations,
    d.identifier = entry.2 ∧ d.name = entry.1 ∧ s.state.package? = some d.package
  packages : ∀ p ∈ s.packages, p.Registered t

lemma OneToOne.value?_eq_some_iff {κ ν : Type} [DecidableEq κ] {m : OneToOne κ ν} {k : κ} {v : ν} :
    m.value? k = some v ↔ (k, v) ∈ m.pairs := by
  have hfind := fun entry : κ × ν => find?_eq_some_iff_of_nodup (x := entry) (k := k) m.keys_nodup
  rw [value?, Option.map_eq_some_iff]
  constructor
  · rintro ⟨⟨k', v'⟩, hentry, rfl⟩
    obtain ⟨hmem, rfl⟩ := (hfind _).mp hentry
    exact hmem
  · intro hmem
    exact ⟨(k, v), (hfind _).mpr ⟨hmem, rfl⟩, rfl⟩

namespace Scope

variable {t} {s : Scope}

lemma mem_packages_of_imported? {qualifier : Segment} {package : Package}
    (h : s.imported? qualifier = some package) : package ∈ s.packages := by
  obtain ⟨name, _, hf⟩ := Option.bind_eq_some_iff.mp h
  exact List.mem_of_find?_eq_some hf

lemma type?_eq_some_iff {name : TypeName} {i : Identifier} : s.type? name = some i ↔ (name, i) ∈ s.types.pairs :=
  OneToOne.value?_eq_some_iff

lemma package?_of_requirePackage {p : Position} {package : PackageName}
    (h : s.requirePackage p = .ok package) : s.state = .opened package := by
  unfold requirePackage current? at h
  split at h
  · next hs =>
    cases h
    split at hs <;> simp_all
  · cases h

lemma find_registers (ht : t.Closed) (hs : s.Registered t) {m : Mention} {p : Position} {target : Target}
    (h : s.find m p = .ok target) : t.Registers target := by
  unfold find at h
  split at h
  · obtain ⟨package, hp, h⟩ := exists_of_bind_eq_ok h
    split at h
    · next i hi =>
      cases h
      obtain ⟨d, hd, rfl, hn, hpackage⟩ := hs.types _ (type?_eq_some_iff.mp hi)
      rw [package?_of_requirePackage hp] at hpackage
      exact ⟨d, ht.find?_eq d hd, (Option.some.inj hpackage).symm, hn⟩
    · cases h
  · split at h
    · cases h
    · next package hq =>
      split at h
      · next d hd =>
        cases h
        obtain ⟨hmem, hpackage⟩ := hs.packages _ (mem_packages_of_imported? hq) d (List.mem_of_find?_eq_some hd)
        exact ⟨d, ht.find?_eq d hmem, hpackage, by simpa using List.find?_some hd⟩
      · cases h

end Scope

variable {t} {s : Scope}

mutual

theorem TypeExpr.resolve_safe (ht : t.Closed) (hs : s.Registered t) :
    ∀ type : TypeExpr Mention, (type.resolve t s).Safe (TypeExpr.Bound t)
  | .integer _ bits _ => (SizeExpr.resolve_safe ht hs bits).bind fun _ h => .ok h
  | .float bits _ => (SizeExpr.resolve_safe ht hs bits).bind fun _ h => .ok h
  | .vector element count _ =>
    (TypeExpr.resolve_safe ht hs element).bind fun _ he =>
      (SizeExpr.resolve_safe ht hs count).bind fun _ hc => .ok ⟨he, hc⟩
  | .matrix element width height _ =>
    (TypeExpr.resolve_safe ht hs element).bind fun _ he =>
      (SizeExpr.resolve_safe ht hs width).bind fun _ hw =>
        (SizeExpr.resolve_safe ht hs height).bind fun _ hh => .ok ⟨he, hw, hh⟩
  | .booleanSet octets _ _ => (SizeExpr.resolve_safe ht hs octets).bind fun _ h => .ok h
  | .string octets _ _ => (SizeExpr.resolve_safe ht hs octets).bind fun _ h => .ok h
  | .reference _ _ => (Attempt.Safe.ofError fun _ h => Scope.find_registers ht hs h).bind fun _ h => .ok h
  | .typeOf _ _ path p =>
    (Attempt.Safe.ofError fun _ h => Scope.find_registers ht hs h).bind fun _ h =>
      (TypeTable.checkPathFrom_safe ht h path p).bind fun _ hpath => .ok ⟨h, hpath⟩

theorem SizeExpr.resolve_safe (ht : t.Closed) (hs : s.Registered t) :
    ∀ size : SizeExpr Mention, (size.resolve t s).Safe (SizeExpr.Bound t)
  | .constant _ _ => .ok trivial
  | .inOctets of _ => (TypeExpr.resolve_safe ht hs of).bind fun _ h => .ok h
  | .inBits of _ => (TypeExpr.resolve_safe ht hs of).bind fun _ h => .ok h

end

lemma Body.resolve_safe (ht : t.Closed) (hs : s.Registered t) (b : Body Mention) :
    (b.resolve t s).Safe (Body.Bound t) := by
  cases b with
  | record items =>
    refine (Attempt.Safe.mapM (P := RecordItem.Bound t) fun item _ => ?_).bind fun _ h => .ok h
    cases item with
    | field name type p => exact (type.resolve_safe ht hs).bind fun _ h => .ok h
    | padding octets p => exact (octets.resolve_safe ht hs).bind fun _ h => .ok h
  | packed items =>
    refine (Attempt.Safe.mapM (P := PackedItem.Bound t) fun item _ => ?_).bind fun _ h => .ok h
    cases item with
    | field name type p => exact (type.resolve_safe ht hs).bind fun _ h => .ok h
    | padding bits p => exact (bits.resolve_safe ht hs).bind fun _ h => .ok h
  | union cases =>
    refine (Attempt.Safe.mapM (P := fun c : CaseItem Target => c.type.Bound t) fun c _ => ?_).bind
      fun _ h => .ok h
    exact (c.type.resolve_safe ht hs).bind fun _ h => .ok h

lemma Definition.resolve_safe (ht : t.Closed) (hs : s.Registered t) (d : Definition Mention) :
    (d.resolve t s).Safe fun r => s.state = .opened r.1 ∧ r.2.body.Bound t ∧
      s.type? r.2.name = none := by
  refine (Attempt.Safe.ofError (P := fun package => s.state = .opened package) fun _ h =>
    Scope.package?_of_requirePackage h).bind fun package hp => ?_
  split
  · exact .error _
  · next hfree =>
    refine (d.body.resolve_safe ht hs).bind fun body hb => .ok ⟨hp, hb, ?_⟩
    simpa using hfree

lemma Definition.name_of_resolve {d : Definition Mention} {package : PackageName} {found : Definition Target}
    (h : d.resolve t s = .ok (package, found)) : found.name = d.name := by
  obtain ⟨_, _, h⟩ := exists_of_bind_eq_ok h
  split at h
  · cases h
  · obtain ⟨_, _, h⟩ := exists_of_bind_eq_ok h
    cases h
    rfl

end RecordSchema
