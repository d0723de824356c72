import RecordSchema.Compile.File
import RecordSchema.Proofs.Table.Grown

namespace RecordSchema

variable {c : Capabilities} {s s' : Store}

namespace Store

structure Sound (c : Capabilities) (s : Store) : Prop where
  grown : s.types.Grown c
  below : ∀ d ∈ s.types.declarations, d.identifier.value < s.nextIdentifier
  registered : ∀ p ∈ s.packages, p.Registered s.types

structure Grows (s s' : Store) : Prop where
  types : s.types.declarations ⊆ s'.types.declarations
  packages : s.packages ⊆ s'.packages
  nextIdentifier : s.nextIdentifier ≤ s'.nextIdentifier

namespace Grows

lemma of_eq (htypes : s'.types = s.types) (hpackages : s'.packages = s.packages)
    (hnext : s.nextIdentifier ≤ s'.nextIdentifier) : s.Grows s' where
  types := by rw [htypes]; exact List.Subset.refl _
  packages := by rw [hpackages]; exact List.Subset.refl _
  nextIdentifier := hnext

lemma refl (s : Store) : s.Grows s :=
  of_eq rfl rfl (Nat.le_refl _)

lemma trans {s'' : Store} (h : s.Grows s') (h' : s'.Grows s'') : s.Grows s'' where
  types := List.Subset.trans h.types h'.types
  packages := List.Subset.trans h.packages h'.packages
  nextIdentifier := Nat.le_trans h.nextIdentifier h'.nextIdentifier

end Grows

namespace Sound

lemma initial : ({} : Store).Sound c where
  grown := .empty
  below := by rintro d ⟨⟩
  registered := by rintro p ⟨⟩

lemma of_eq (h : s.Sound c) (htypes : s'.types = s.types) (hpackages : s'.packages = s.packages)
    (hnext : s.nextIdentifier ≤ s'.nextIdentifier) : s'.Sound c where
  grown := htypes ▸ h.grown
  below d hd := Nat.lt_of_lt_of_le (h.below d (htypes ▸ hd)) hnext
  registered p hp := by
    rw [htypes]
    exact h.registered p (hpackages ▸ hp)

lemma keep {package : Package} (h : s.Sound c) (hp : package.Registered s.types) :
    ({ s with packages := s.packages ++ [package] } : Store).Sound c where
  grown := h.grown
  below := h.below
  registered p hmem := by
    rcases List.mem_append.mp hmem with hmem | hmem
    · exact h.registered p hmem
    · exact List.mem_singleton.mp hmem ▸ hp

lemma register {d : Declaration} (h : s.Sound c) (hi : d.identifier = ⟨s.nextIdentifier⟩)
    (laid : d.layout.Laid c.packedTotals) (admitted : ∀ m ∈ d.memberTypes, Admitted c s.types m.1 m.2) :
    ({ s with nextIdentifier := s.nextIdentifier + 1, types := ⟨s.types.declarations ++ [d]⟩ } : Store).Sound c where
  grown := by
    refine .put h.grown (fun e he => ?_) laid admitted
    rw [hi]
    exact h.below e he
  below e he := by
    rcases List.mem_append.mp he with he | he
    · exact Nat.lt_succ_of_lt (h.below e he)
    · rw [List.mem_singleton.mp he, hi]
      exact Nat.lt_succ_self _
  registered p hp e he := by
    obtain ⟨hmem, hpackage⟩ := h.registered p hp e he
    exact ⟨List.mem_append_left _ hmem, hpackage⟩

end Sound

end Store

lemma Package.Registered.mono {p : Package} {t t' : TypeTable} (h : p.Registered t)
    (ht : t.declarations ⊆ t'.declarations) : p.Registered t' := fun d hd =>
  ⟨ht (h d hd).1, (h d hd).2⟩

lemma Scope.Registered.mono {scope : Scope} {t t' : TypeTable} (h : scope.Registered t)
    (ht : t.declarations ⊆ t'.declarations) : scope.Registered t' where
  types entry he := by
    obtain ⟨d, hd, hrest⟩ := h.types entry he
    exact ⟨d, ht hd, hrest⟩
  packages p hp := (h.packages p hp).mono ht

namespace Scope

variable {scope scope' : Scope} {qualifier : Segment} {p : Package} {d : Declaration} {t : TypeTable}

lemma exists_of_bindImport (h : scope.bindImport qualifier p = .ok scope') :
    ∃ qualifiers, scope.qualifiers.insert qualifier p.name = .ok qualifiers ∧
      scope' = { scope with qualifiers, packages := scope.packages ++ [p] } := by
  obtain ⟨qualifiers, hqualifiers, heq⟩ := exists_of_bind_eq_ok h
  cases heq
  exact ⟨qualifiers, hqualifiers, rfl⟩

lemma exists_bindImport_of_fresh (hqualifier : qualifier ∉ scope.qualifiers.keys)
    (hpackage : p.name ∉ scope.qualifiers.values) : ∃ scope', scope.bindImport qualifier p = .ok scope' := by
  obtain ⟨qualifiers, hinsert, _⟩ := OneToOne.exists_insert_of_fresh hqualifier hpackage
  refine ⟨{ scope with qualifiers, packages := scope.packages ++ [p] }, ?_⟩
  rw [bindImport, hinsert]
  rfl

lemma exists_of_defineType (h : scope.defineType d = .ok scope') :
    ∃ types, scope.types.insert d.name d.identifier = .ok types ∧ scope' = { scope with types } := by
  obtain ⟨types, htypes, heq⟩ := exists_of_bind_eq_ok h
  cases heq
  exact ⟨types, htypes, rfl⟩

lemma pairs_of_defineType (h : scope.defineType d = .ok scope') :
    scope'.types.pairs = scope.types.pairs ++ [(d.name, d.identifier)] := by
  obtain ⟨types, htypes, rfl⟩ := exists_of_defineType h
  exact OneToOne.pairs_insert htypes

lemma not_mem_keys_of_defineType (h : scope.defineType d = .ok scope') : d.name ∉ scope.types.keys := by
  obtain ⟨types, htypes, _⟩ := exists_of_defineType h
  exact OneToOne.not_mem_keys_of_insert htypes

namespace Registered

lemma of_state (h : scope.Registered t) (htypes : scope'.types = scope.types)
    (hpackages : scope'.packages = scope.packages)
    (hstate : scope.state.package? = none ∨ scope'.state.package? = scope.state.package?) : scope'.Registered t where
  types entry he := by
    obtain ⟨d, hd, hi, hn, hpackage⟩ := h.types entry (htypes ▸ he)
    refine ⟨d, hd, hi, hn, ?_⟩
    rcases hstate with hnone | hstate
    · rw [hnone] at hpackage
      cases hpackage
    · rw [hstate, hpackage]
  packages p hp := h.packages p (hpackages ▸ hp)

lemma importing (h : scope.Registered t) (hp : p.Registered t) (hscope : scope.bindImport qualifier p = .ok scope') :
    scope'.Registered t := by
  obtain ⟨qualifiers, _, rfl⟩ := exists_of_bindImport hscope
  refine ⟨h.types, fun q hq => ?_⟩
  rcases List.mem_append.mp hq with hq | hq
  · exact h.packages q hq
  · exact List.mem_singleton.mp hq ▸ hp

lemma defining (h : scope.Registered t) (hd : d ∈ t.declarations) (hstate : scope.state = .opened d.package)
    (hscope : scope.defineType d = .ok scope') : scope'.Registered t := by
  have hpairs := pairs_of_defineType hscope
  obtain ⟨types, _, rfl⟩ := exists_of_defineType hscope
  refine ⟨fun entry he => ?_, h.packages⟩
  rw [hpairs] at he
  rcases List.mem_append.mp he with he | he
  · exact h.types entry he
  · refine ⟨d, hd, ?_⟩
    rw [List.mem_singleton.mp he]
    exact ⟨rfl, rfl, congrArg PackageState.package? hstate⟩

end Registered

end Scope

namespace FileState

variable {f : FileState}

structure Sound (s : Store) (f : FileState) : Prop where
  scope : f.scope.Registered s.types
  opened : f.collector.opened = f.scope.current?
  collected : ∀ d ∈ f.collector.declarations, d ∈ s.types.declarations ∧ f.scope.state = .opened d.package

def Delivered (s : Store) (f : FileState) (product : Product) : Prop :=
  ∀ entry ∈ product, entry.1.Registered s.types ∧ f.scope.state = .closed entry.1.name

lemma Sound.initial : ({} : FileState).Sound s where
  scope := ⟨by rintro entry ⟨⟩, by rintro p ⟨⟩⟩
  opened := rfl
  collected := by rintro d ⟨⟩

lemma Sound.mono (h : f.Sound s) (hs : s.Grows s') : f.Sound s' where
  scope := h.scope.mono hs.types
  opened := h.opened
  collected d hd := ⟨hs.types (h.collected d hd).1, (h.collected d hd).2⟩

lemma Delivered.mono {product : Product} (h : f.Delivered s product) (hs : s.Grows s') :
    f.Delivered s' product := fun entry he =>
  ⟨(h entry he).1.mono hs.types, (h entry he).2⟩

lemma Delivered.eq_none {product : Product} {package : PackageName} (h : f.Delivered s product)
    (ho : f.scope.state = .opened package) : product = none := by
  cases product with
  | none => rfl
  | some entry =>
    have hclosed := (h entry rfl).2
    rw [ho] at hclosed
    cases hclosed

end FileState

end RecordSchema
