import RecordSchema.Proofs.Relocation.Basic
import RecordSchema.Proofs.Relocation.Mirror
import Mathlib.Data.List.Nodup

namespace RecordSchema

namespace OneToOne

variable {κ ν μ : Type} (g : ν → μ) (hg : g.Injective)

lemma ext_pairs {m n : OneToOne κ ν} (h : m.pairs = n.pairs) : m = n := by
  cases m; cases n; cases h; rfl

@[simps] def mapValues (m : OneToOne κ ν) : OneToOne κ μ where
  pairs := m.pairs.map fun entry => (entry.1, g entry.2)
  keys_nodup := by
    rw [List.map_map]
    exact m.keys_nodup
  values_nodup := by
    have hvalues := List.Nodup.map hg m.values_nodup
    rw [List.map_map] at hvalues ⊢
    exact hvalues

@[simp] lemma keys_mapValues (m : OneToOne κ ν) : (m.mapValues g hg).keys = m.keys := by
  rw [keys, mapValues_pairs, List.map_map]
  rfl

lemma values_mapValues (m : OneToOne κ ν) : (m.mapValues g hg).values = m.values.map g := by
  rw [values, mapValues_pairs, List.map_map, values, List.map_map]
  rfl

@[simp] lemma value?_mapValues [DecidableEq κ] (m : OneToOne κ ν) (k : κ) :
    (m.mapValues g hg).value? k = (m.value? k).map g := by
  rw [value?, mapValues_pairs, find?_map_of_eq (p := fun entry => entry.1 = k) (fun _ => rfl), value?, Option.map_map,
    Option.map_map]
  rfl

lemma insert_mapValues [DecidableEq κ] [DecidableEq ν] [DecidableEq μ] (m : OneToOne κ ν) (k : κ) (v : ν) :
    Mirrors id (mapValues g hg) (m.insert k v) ((m.mapValues g hg).insert k (g v)) := by
  have hmem : g v ∈ (m.mapValues g hg).values ↔ v ∈ m.values := by
    rw [values_mapValues]
    exact List.mem_map_of_injective hg
  by_cases hk : k ∈ m.keys
  · have hkey : m.insert k v = .error .key := dif_pos hk
    have hkey' : (m.mapValues g hg).insert k (g v) = .error .key := dif_pos (by rwa [keys_mapValues])
    rw [hkey, hkey']
    exact .error _
  · have hk' : k ∉ (m.mapValues g hg).keys := by rwa [keys_mapValues]
    by_cases hv : v ∈ m.values
    · rw [insert, insert, dif_neg hk, dif_neg hk', dif_pos hv, dif_pos (hmem.mpr hv)]
      exact .error _
    · obtain ⟨n, hn, hpairs⟩ := exists_insert_of_fresh hk hv
      obtain ⟨n', hn', hpairs'⟩ := exists_insert_of_fresh hk' fun h => hv (hmem.mp h)
      have heq : n' = n.mapValues g hg := by
        refine ext_pairs ?_
        rw [hpairs', mapValues_pairs, mapValues_pairs, hpairs, List.map_append]
        rfl
      rw [hn, hn', heq]
      exact .ok n

end OneToOne

variable (r : Relocation)

@[simps] def Scope.relocate (s : Scope) : Scope where
  state := s.state
  qualifiers := s.qualifiers
  packages := s.packages.map (.relocate r)
  types := s.types.mapValues r.identifier r.identifier_injective

namespace Scope

variable (s : Scope)

@[simp] lemma current?_relocate : (s.relocate r).current? = s.current? := rfl

@[simp] lemma imported?_relocate (qualifier : Segment) :
    (s.relocate r).imported? qualifier = (s.imported? qualifier).map (.relocate r) := by
  rw [imported?, imported?, relocate_qualifiers]
  cases s.qualifiers.value? qualifier with
  | none => rfl
  | some name => exact find?_map_of_eq (fun _ => rfl) _

@[simp] lemma qualifierOf?_relocate (package : PackageName) :
    (s.relocate r).qualifierOf? package = s.qualifierOf? package :=
  rfl

@[simp] lemma type?_relocate (name : TypeName) : (s.relocate r).type? name = (s.type? name).map r.identifier :=
  OneToOne.value?_mapValues _ r.identifier_injective _ _

lemma requirePackage_mirrors (p : Position) :
    Mirrors (.relocate r) id (s.requirePackage p) ((s.relocate r).requirePackage (r.position p)) := by
  rw [requirePackage, requirePackage, current?_relocate]
  cases s.current? with
  | some package => exact .ok package
  | none => exact .error (⟨.noCurrentPackage, some p⟩ : ResolveError)

lemma nonexistent_mirrors (m : Mention) (candidates : List Mention) (p : Position) :
    Mirrors (.relocate r) (Target.relocate r) (.error (nonexistent m candidates p))
      (.error (nonexistent m candidates (r.position p))) :=
  .error (nonexistent m candidates p)

lemma find_mirrors (m : Mention) (p : Position) :
    Mirrors (.relocate r) (.relocate r) (s.find m p) ((s.relocate r).find m (r.position p)) := by
  rw [find, find]
  cases m.qualifier with
  | none =>
    refine (s.requirePackage_mirrors r p).bind fun package => ?_
    rw [type?_relocate, relocate_types, OneToOne.keys_mapValues]
    cases s.type? m.name with
    | some i => exact .ok (⟨i, package, m.name⟩ : Target)
    | none => exact nonexistent_mirrors r m _ p
  | some qualifier =>
    dsimp only
    rw [imported?_relocate]
    cases s.imported? qualifier with
    | none => exact .error (⟨.importNonexistent qualifier, some p⟩ : ResolveError)
    | some package =>
      dsimp only [Option.map_some]
      rw [Package.find?_relocate]
      cases package.find? m.name with
      | some d => exact .ok (⟨d.identifier, package.name, m.name⟩ : Target)
      | none =>
        dsimp only [Option.map_none]
        rw [Package.relocate_declarations, List.map_map]
        exact nonexistent_mirrors r m _ p

end Scope

namespace TypeTable

def Carries (t t' : TypeTable) : Prop :=
  ∀ i d, t.find? i = some d → t'.find? (r.identifier i) = some (d.relocate r)

variable {r} {t t' : TypeTable}

lemma carries_relocate (r : Relocation) (t : TypeTable) : t.Carries r (t.relocate r) := by
  intro i d h
  rw [find?_relocate, h]
  rfl

lemma Carries.get (h : t.Carries r t') {i : Identifier} {d : Declaration} (hd : t.get i = .ok d) :
    t'.get (r.identifier i) = .ok (d.relocate r) := by
  rw [TypeTable.get] at hd ⊢
  split at hd
  · next e he =>
    cases hd
    rw [h i d he]
  · cases hd

lemma Carries.get_mirrors (h : t.Carries r t') {ε : Type} (E : ε → ε) (i : Identifier) :
    Attempt.Mirrors E (.relocate r) (Attempt.ofFault (t.get i)) (Attempt.ofFault (t'.get (r.identifier i))) :=
  .ofFault fun _ => h.get

lemma pathNotNominal_mirrors (field : FieldName) (type : DataType) (p : Position) :
    let error (type : DataType) (p : Position) : ResolveError := ⟨.pathNotNominal field type.render, some p⟩
    Attempt.Mirrors (.relocate r) (id : Unit → Unit) (.error (.error (error type p)))
      (.error (.error (error (type.relocate r) (r.position p)))) := by
  intro error
  simp only [error, DataType.render_relocate]
  exact .error (⟨.pathNotNominal field type.render, some p⟩ : ResolveError)

lemma Carries.checkPath_mirrors (h : t.Carries r t') (p : Position) : ∀ (path : List FieldName) (d : Declaration),
    Attempt.Mirrors (.relocate r) id (t.checkPath p d path) (t'.checkPath (r.position p) (d.relocate r) path)
  | [], d => by
    rw [checkPath, checkPath]
    exact .ok ()
  | field :: rest, d => by
    unfold checkPath
    rw [Declaration.memberType?_relocate]
    cases d.memberType? field with
    | none => exact .error (⟨.fieldNonexistent d.package d.name field, some p⟩ : ResolveError)
    | some type =>
      cases rest with
      | nil => exact .ok ()
      | cons next rest =>
        cases type with
        | declared target bits =>
          exact (h.get_mirrors _ target.identifier).bind fun d => h.checkPath_mirrors p (next :: rest) d
        | _ => exact pathNotNominal_mirrors next _ p

lemma Carries.checkPathFrom_mirrors (h : t.Carries r t') (target : Target) (path : List FieldName) (p : Position) :
    Attempt.Mirrors (.relocate r) id (t.checkPathFrom target path p)
      (t'.checkPathFrom (target.relocate r) path (r.position p)) :=
  (h.get_mirrors _ target.identifier).bind fun d => h.checkPath_mirrors p path d

end TypeTable

variable {r} {t t' : TypeTable}

mutual

lemma TypeExpr.resolve_mirrors (h : t.Carries r t') (s : Scope) : ∀ type : TypeExpr Mention,
    Attempt.Mirrors (.relocate r) (.map r.position (.relocate r)) (type.resolve t s) ((type.map r.position id).resolve t' (s.relocate r))
  | .integer kind bits p => (SizeExpr.resolve_mirrors h s bits).bind fun bits => .ok (TypeExpr.integer kind bits p)
  | .float bits p => (SizeExpr.resolve_mirrors h s bits).bind fun bits => .ok (TypeExpr.float bits p)
  | .vector element count p =>
    (TypeExpr.resolve_mirrors h s element).bind fun element => (SizeExpr.resolve_mirrors h s count).bind fun count =>
      .ok (TypeExpr.vector element count p)
  | .matrix element width height p =>
    (TypeExpr.resolve_mirrors h s element).bind fun element => (SizeExpr.resolve_mirrors h s width).bind fun width =>
      (SizeExpr.resolve_mirrors h s height).bind fun height => .ok (TypeExpr.matrix element width height p)
  | .booleanSet octets flags p =>
    (SizeExpr.resolve_mirrors h s octets).bind fun octets => .ok (TypeExpr.booleanSet octets flags p)
  | .string octets encoding p =>
    (SizeExpr.resolve_mirrors h s octets).bind fun octets => .ok (TypeExpr.string octets encoding p)
  | .reference mention p =>
    (Attempt.Mirrors.ofError (s.find_mirrors r mention p)).bind fun target => .ok (TypeExpr.reference target p)
  | .typeOf mention mp path p =>
    (Attempt.Mirrors.ofError (s.find_mirrors r mention mp)).bind fun target =>
      (h.checkPathFrom_mirrors target path p).bind fun _ => .ok (TypeExpr.typeOf target mp path p)

lemma SizeExpr.resolve_mirrors (h : t.Carries r t') (s : Scope) : ∀ size : SizeExpr Mention,
    Attempt.Mirrors (.relocate r) (.map r.position (.relocate r)) (size.resolve t s) ((size.map r.position id).resolve t' (s.relocate r))
  | .constant value p => .ok (SizeExpr.constant value p)
  | .inOctets of p => (TypeExpr.resolve_mirrors h s of).bind fun of => .ok (SizeExpr.inOctets of p)
  | .inBits of p => (TypeExpr.resolve_mirrors h s of).bind fun of => .ok (SizeExpr.inBits of p)

end

variable (h : t.Carries r t') (s : Scope)
include h

lemma RecordItem.resolve_mirrors (item : RecordItem Mention) : Attempt.Mirrors (.relocate r) (.map r.position (.relocate r))
    (item.resolve t s) ((item.map r.position id).resolve t' (s.relocate r)) := by
  cases item with
  | field name type p => exact (type.resolve_mirrors h s).bind fun type => .ok (RecordItem.field name type p)
  | padding octets p => exact (octets.resolve_mirrors h s).bind fun octets => .ok (RecordItem.padding octets p)

lemma PackedItem.resolve_mirrors (item : PackedItem Mention) : Attempt.Mirrors (.relocate r) (.map r.position (.relocate r))
    (item.resolve t s) ((item.map r.position id).resolve t' (s.relocate r)) := by
  cases item with
  | field name type p => exact (type.resolve_mirrors h s).bind fun type => .ok (PackedItem.field name type p)
  | padding bits p => exact (bits.resolve_mirrors h s).bind fun bits => .ok (PackedItem.padding bits p)

lemma CaseItem.resolve_mirrors (item : CaseItem Mention) : Attempt.Mirrors (.relocate r) (.map r.position (.relocate r))
    (item.resolve t s) ((item.map r.position id).resolve t' (s.relocate r)) :=
  (item.type.resolve_mirrors h s).bind fun type => .ok (⟨item.name, type, item.position⟩ : CaseItem Target)

lemma Body.resolve_mirrors (body : Body Mention) : Attempt.Mirrors (.relocate r) (.map r.position (.relocate r))
    (body.resolve t s) ((body.map r.position id).resolve t' (s.relocate r)) := by
  cases body with
  | record items =>
    exact (Attempt.Mirrors.mapM (RecordItem.resolve_mirrors h s)).bind fun items => .ok (Body.record items)
  | packed items =>
    exact (Attempt.Mirrors.mapM (PackedItem.resolve_mirrors h s)).bind fun items => .ok (Body.packed items)
  | union cases =>
    exact (Attempt.Mirrors.mapM (CaseItem.resolve_mirrors h s)).bind fun cases => .ok (Body.union cases)

theorem Definition.resolve_mirrors (d : Definition Mention) :
    Attempt.Mirrors (.relocate r) (Prod.map id (.map r.position (.relocate r))) (d.resolve t s)
      ((d.map r.position id).resolve t' (s.relocate r)) := by
  refine (Attempt.Mirrors.ofError (s.requirePackage_mirrors r d.position)).bind fun package => ?_
  rw [Definition.map_name, Scope.type?_relocate, Option.isSome_map]
  split
  · exact .error (⟨.typeDuplicate d.name, some d.position⟩ : ResolveError)
  · exact (d.body.resolve_mirrors h s).bind fun body => .ok (package, (⟨d.name, body, d.position⟩ : Definition Target))

end RecordSchema
