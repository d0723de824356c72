import RecordSchema.Proofs.Resolution.Bound
import RecordSchema.Proofs.Schema.Mapped
import Mathlib.Data.List.Forall2

namespace RecordSchema

namespace TypeTable

variable (t : TypeTable)

/-- Every name on the path is that of a member, and all members before the last are of declared types. -/
def Leads : Declaration → List FieldName → Prop
  | _, [] => True
  | d, [field] => ∃ type, d.memberType? field = some type
  | d, field :: next :: rest => ∃ target bits e, d.memberType? field = some (.declared target bits) ∧
      t.find? target.identifier = some e ∧ Leads e (next :: rest)

variable {t}

lemma get_bind_eq_ok_iff {ε α : Type} {i : Identifier} {k : Declaration → Attempt ε α} {a : α} :
    (Attempt.ofFault (t.get i) >>= k) = .ok a ↔ ∃ d, t.find? i = some d ∧ k d = .ok a := by
  constructor
  · intro h
    obtain ⟨d, hd, hk⟩ := exists_of_bind_eq_ok h
    refine ⟨d, get_eq_ok_iff.mp ?_, hk⟩
    cases hget : t.get i with
    | ok e =>
      rw [hget] at hd
      cases hd
      rfl
    | error fault =>
      rw [hget] at hd
      cases hd
  · rintro ⟨d, hd, hk⟩
    rw [get_eq_ok_iff.mpr hd]
    exact hk

lemma checkPath_eq_ok_iff (p : Position) : ∀ (path : List FieldName) (d : Declaration),
    t.checkPath p d path = .ok () ↔ t.Leads d path
  | [], d => by simp [checkPath, Leads]
  | [field], d => by
    unfold checkPath
    cases hm : d.memberType? field <;> simp [Leads, hm]
  | field :: next :: rest, d => by
    unfold checkPath
    cases hm : d.memberType? field with
    | none => simp [Leads, hm]
    | some type =>
      cases type with
      | declared target bits =>
        simp only [get_bind_eq_ok_iff, checkPath_eq_ok_iff p (next :: rest), Leads, hm, Option.some.injEq,
          DataType.declared.injEq]
        constructor
        · rintro ⟨e, he, hleads⟩
          exact ⟨target, bits, e, ⟨rfl, rfl⟩, he, hleads⟩
        · rintro ⟨_, _, e, ⟨rfl, rfl⟩, he, hleads⟩
          exact ⟨e, he, hleads⟩
      | _ => simp [Leads, hm]

end TypeTable

namespace Scope

variable {s : Scope} {name : TypeName} {p : Position} {target : Target}

lemma requirePackage_eq_ok_iff {package : PackageName} :
    s.requirePackage p = .ok package ↔ s.state = .opened package := by
  rw [requirePackage, current?]
  cases s.state <;> simp

lemma find_plain_eq_ok_iff : s.find ⟨none, name⟩ p = .ok target ↔
    ∃ package i, s.state = .opened package ∧ s.type? name = some i ∧ target = ⟨i, package, name⟩ := by
  constructor
  · intro h
    obtain ⟨package, hpackage, h⟩ := exists_of_bind_eq_ok h
    dsimp only at h
    split at h
    · next i hi =>
      cases h
      exact ⟨package, i, requirePackage_eq_ok_iff.mp hpackage, hi, rfl⟩
    · cases h
  · rintro ⟨package, i, hstate, hi, rfl⟩
    rw [find, requirePackage_eq_ok_iff.mpr hstate]
    simp only [hi]
    rfl

lemma find_qualified_eq_ok_iff {qualifier : Segment} : s.find ⟨some qualifier, name⟩ p = .ok target ↔
    ∃ found d, s.imported? qualifier = some found ∧ found.find? name = some d ∧
      target = ⟨d.identifier, found.name, name⟩ := by
  rw [find]
  dsimp only
  cases s.imported? qualifier with
  | none => simp
  | some found =>
    cases hfind : found.find? name with
    | none => simp [hfind]
    | some d => simp [hfind, eq_comm]

end Scope

structure Scope.Reads (s : Scope) (t : TypeTable) (M : Mention → Declaration → Prop) : Prop where
  find_iff : ∀ m p target, s.find m p = .ok target ↔ ∃ d, M m d ∧ target = d.target
  name_eq : ∀ m d, M m d → d.name = m.name
  registered : ∀ m d, M m d → t.find? d.identifier = some d

def TypeTable.Binds (t : TypeTable) (M : Mention → Declaration → Prop) (use : Mention × List FieldName)
    (found : Target × List FieldName) : Prop :=
  ∃ d, M use.1 d ∧ t.Leads d use.2 ∧ found = (d.target, use.2)

variable {t : TypeTable} {s : Scope} {M : Mention → Declaration → Prop}

lemma TypeTable.Binds.of_forall₂ {uses : List (Mention × List FieldName)} {found : List (Target × List FieldName)}
    (h : List.Forall₂ (t.Binds M) uses found) : ∀ use ∈ uses, ∃ d, M use.1 d ∧ t.Leads d use.2 := by
  induction h with
  | nil => rintro use ⟨⟩
  | cons hbinds _ ih =>
    obtain ⟨d, hd, hleads, _⟩ := hbinds
    exact List.forall_mem_cons.mpr ⟨⟨d, hd, hleads⟩, ih⟩

namespace Scope.Reads

lemma find_bind_eq_ok_iff {α : Type} (h : s.Reads t M) {m : Mention} {p : Position} {k : Target → Attempt ResolveError α}
    {a : α} : (Attempt.ofError (s.find m p) >>= k) = .ok a ↔ ∃ d, M m d ∧ k d.target = .ok a := by
  constructor
  · intro hbind
    obtain ⟨target, htarget, hk⟩ := exists_of_bind_eq_ok hbind
    cases hfind : s.find m p with
    | ok found =>
      rw [hfind] at htarget
      cases htarget
      obtain ⟨d, hd, rfl⟩ := (h.find_iff m p target).mp hfind
      exact ⟨d, hd, hk⟩
    | error error =>
      rw [hfind] at htarget
      cases htarget
  · rintro ⟨d, hd, hk⟩
    rw [(h.find_iff m p d.target).mpr ⟨d, hd, rfl⟩]
    exact hk

lemma checkPathFrom_bind_eq_ok_iff {α : Type} (h : s.Reads t M) {m : Mention} {d : Declaration} (hd : M m d)
    {path : List FieldName} {p : Position} {k : Unit → Attempt ResolveError α} {a : α} :
    (t.checkPathFrom d.target path p >>= k) = .ok a ↔ t.Leads d path ∧ k () = .ok a := by
  have hcheck : t.checkPathFrom d.target path p = t.checkPath p d path := by
    have hget : t.get d.target.identifier = .ok d := TypeTable.get_eq_ok_iff.mpr (h.registered m d hd)
    rw [TypeTable.checkPathFrom, hget]
    rfl
  rw [hcheck, ← TypeTable.checkPath_eq_ok_iff p]
  constructor
  · intro hbind
    obtain ⟨⟨⟩, hpath, hk⟩ := exists_of_bind_eq_ok hbind
    exact ⟨hpath, hk⟩
  · rintro ⟨hpath, hk⟩
    rw [hpath]
    exact hk

end Scope.Reads

mutual

lemma TypeExpr.resolve_sound (h : s.Reads t M) :
    ∀ (type : TypeExpr Mention) {r : TypeExpr Target}, type.resolve t s = .ok r →
      r.map id Target.name = type.map id Mention.name ∧ List.Forall₂ (t.Binds M) type.uses r.uses
  | .integer kind bits p, r, hr => by
    rw [TypeExpr.resolve] at hr
    obtain ⟨bits', hbits, hr⟩ := exists_of_bind_eq_ok hr
    cases hr
    obtain ⟨hmap, huses⟩ := SizeExpr.resolve_sound h bits hbits
    exact ⟨by rw [TypeExpr.map, TypeExpr.map, hmap], huses⟩
  | .float bits p, r, hr => by
    rw [TypeExpr.resolve] at hr
    obtain ⟨bits', hbits, hr⟩ := exists_of_bind_eq_ok hr
    cases hr
    obtain ⟨hmap, huses⟩ := SizeExpr.resolve_sound h bits hbits
    exact ⟨by rw [TypeExpr.map, TypeExpr.map, hmap], huses⟩
  | .vector element count p, r, hr => by
    rw [TypeExpr.resolve] at hr
    obtain ⟨element', helement, hr⟩ := exists_of_bind_eq_ok hr
    obtain ⟨count', hcount, hr⟩ := exists_of_bind_eq_ok hr
    cases hr
    obtain ⟨hmap, huses⟩ := TypeExpr.resolve_sound h element helement
    obtain ⟨hmap', huses'⟩ := SizeExpr.resolve_sound h count hcount
    exact ⟨by rw [TypeExpr.map, TypeExpr.map, hmap, hmap'], List.rel_append huses huses'⟩
  | .matrix element width height p, r, hr => by
    rw [TypeExpr.resolve] at hr
    obtain ⟨element', helement, hr⟩ := exists_of_bind_eq_ok hr
    obtain ⟨width', hwidth, hr⟩ := exists_of_bind_eq_ok hr
    obtain ⟨height', hheight, hr⟩ := exists_of_bind_eq_ok hr
    cases hr
    obtain ⟨hmap, huses⟩ := TypeExpr.resolve_sound h element helement
    obtain ⟨hmap', huses'⟩ := SizeExpr.resolve_sound h width hwidth
    obtain ⟨hmap'', huses''⟩ := SizeExpr.resolve_sound h height hheight
    exact ⟨by rw [TypeExpr.map, TypeExpr.map, hmap, hmap', hmap''], List.rel_append huses (List.rel_append huses' huses'')⟩
  | .booleanSet octets flags p, r, hr => by
    rw [TypeExpr.resolve] at hr
    obtain ⟨octets', hoctets, hr⟩ := exists_of_bind_eq_ok hr
    cases hr
    obtain ⟨hmap, huses⟩ := SizeExpr.resolve_sound h octets hoctets
    exact ⟨by rw [TypeExpr.map, TypeExpr.map, hmap], huses⟩
  | .string octets encoding p, r, hr => by
    rw [TypeExpr.resolve] at hr
    obtain ⟨octets', hoctets, hr⟩ := exists_of_bind_eq_ok hr
    cases hr
    obtain ⟨hmap, huses⟩ := SizeExpr.resolve_sound h octets hoctets
    exact ⟨by rw [TypeExpr.map, TypeExpr.map, hmap], huses⟩
  | .reference mention p, r, hr => by
    rw [TypeExpr.resolve] at hr
    obtain ⟨d, hd, hr⟩ := h.find_bind_eq_ok_iff.mp hr
    cases hr
    exact ⟨congrArg (TypeExpr.reference · p) (h.name_eq mention d hd), .cons ⟨d, hd, trivial, rfl⟩ .nil⟩
  | .typeOf mention mp path p, r, hr => by
    rw [TypeExpr.resolve] at hr
    obtain ⟨d, hd, hr⟩ := h.find_bind_eq_ok_iff.mp hr
    obtain ⟨hleads, hr⟩ := (h.checkPathFrom_bind_eq_ok_iff hd).mp hr
    cases hr
    exact ⟨congrArg (TypeExpr.typeOf · mp path p) (h.name_eq mention d hd), .cons ⟨d, hd, hleads, rfl⟩ .nil⟩

lemma SizeExpr.resolve_sound (h : s.Reads t M) :
    ∀ (size : SizeExpr Mention) {r : SizeExpr Target}, size.resolve t s = .ok r →
      r.map id Target.name = size.map id Mention.name ∧ List.Forall₂ (t.Binds M) size.uses r.uses
  | .constant value p, r, hr => by
    rw [SizeExpr.resolve] at hr
    cases hr
    exact ⟨rfl, .nil⟩
  | .inOctets of p, r, hr => by
    rw [SizeExpr.resolve] at hr
    obtain ⟨of', hof, hr⟩ := exists_of_bind_eq_ok hr
    cases hr
    obtain ⟨hmap, huses⟩ := TypeExpr.resolve_sound h of hof
    exact ⟨by rw [SizeExpr.map, SizeExpr.map, hmap], huses⟩
  | .inBits of p, r, hr => by
    rw [SizeExpr.resolve] at hr
    obtain ⟨of', hof, hr⟩ := exists_of_bind_eq_ok hr
    cases hr
    obtain ⟨hmap, huses⟩ := TypeExpr.resolve_sound h of hof
    exact ⟨by rw [SizeExpr.map, SizeExpr.map, hmap], huses⟩

end

mutual

lemma TypeExpr.resolve_complete (h : s.Reads t M) : ∀ type : TypeExpr Mention,
    (∀ use ∈ type.uses, ∃ d, M use.1 d ∧ t.Leads d use.2) → ∃ r, type.resolve t s = .ok r
  | .integer kind bits p, huses => by
    obtain ⟨bits', hbits⟩ := SizeExpr.resolve_complete h bits huses
    exact ⟨.integer kind bits' p, by rw [TypeExpr.resolve, hbits]; rfl⟩
  | .float bits p, huses => by
    obtain ⟨bits', hbits⟩ := SizeExpr.resolve_complete h bits huses
    exact ⟨.float bits' p, by rw [TypeExpr.resolve, hbits]; rfl⟩
  | .vector element count p, huses => by
    obtain ⟨helement, hcount⟩ := List.forall_mem_append.mp huses
    obtain ⟨element', helement⟩ := TypeExpr.resolve_complete h element helement
    obtain ⟨count', hcount⟩ := SizeExpr.resolve_complete h count hcount
    exact ⟨.vector element' count' p, by rw [TypeExpr.resolve, helement, hcount]; rfl⟩
  | .matrix element width height p, huses => by
    obtain ⟨helement, huses⟩ := List.forall_mem_append.mp huses
    obtain ⟨hwidth, hheight⟩ := List.forall_mem_append.mp huses
    obtain ⟨element', helement⟩ := TypeExpr.resolve_complete h element helement
    obtain ⟨width', hwidth⟩ := SizeExpr.resolve_complete h width hwidth
    obtain ⟨height', hheight⟩ := SizeExpr.resolve_complete h height hheight
    exact ⟨.matrix element' width' height' p, by rw [TypeExpr.resolve, helement, hwidth, hheight]; rfl⟩
  | .booleanSet octets flags p, huses => by
    obtain ⟨octets', hoctets⟩ := SizeExpr.resolve_complete h octets huses
    exact ⟨.booleanSet octets' flags p, by rw [TypeExpr.resolve, hoctets]; rfl⟩
  | .string octets encoding p, huses => by
    obtain ⟨octets', hoctets⟩ := SizeExpr.resolve_complete h octets huses
    exact ⟨.string octets' encoding p, by rw [TypeExpr.resolve, hoctets]; rfl⟩
  | .reference mention p, huses => by
    obtain ⟨d, hd, _⟩ := huses (mention, []) List.mem_cons_self
    exact ⟨.reference d.target p, h.find_bind_eq_ok_iff.mpr ⟨d, hd, rfl⟩⟩
  | .typeOf mention mp path p, huses => by
    obtain ⟨d, hd, hleads⟩ := huses (mention, path) List.mem_cons_self
    exact ⟨.typeOf d.target mp path p,
      h.find_bind_eq_ok_iff.mpr ⟨d, hd, (h.checkPathFrom_bind_eq_ok_iff hd).mpr ⟨hleads, rfl⟩⟩⟩

lemma SizeExpr.resolve_complete (h : s.Reads t M) : ∀ size : SizeExpr Mention,
    (∀ use ∈ size.uses, ∃ d, M use.1 d ∧ t.Leads d use.2) → ∃ r, size.resolve t s = .ok r
  | .constant value p, _ => ⟨.constant value p, rfl⟩
  | .inOctets of p, huses => by
    obtain ⟨of', hof⟩ := TypeExpr.resolve_complete h of huses
    exact ⟨.inOctets of' p, by rw [SizeExpr.resolve, hof]; rfl⟩
  | .inBits of p, huses => by
    obtain ⟨of', hof⟩ := TypeExpr.resolve_complete h of huses
    exact ⟨.inBits of' p, by rw [SizeExpr.resolve, hof]; rfl⟩

end

end RecordSchema
