import RecordSchema.Proofs.Afresh.Kept
import RecordSchema.Proofs.Afresh.Renamed
import Mathlib.Data.Countable.Basic
import Mathlib.Data.Set.Finite.Basic
import Mathlib.Logic.Equiv.List

namespace RecordSchema

instance countableChar : Countable Char :=
  ⟨Char.toNat, fun _ _ h => Char.ext (UInt32.toNat_inj.mp h)⟩

instance (g : NameGrammar) : Countable (Name g) :=
  Function.Injective.countable (f := fun n : Name g => n.text.toList) fun _ _ h => Name.ext_text (String.ext h)

instance : Countable PackageName :=
  Function.Injective.countable (f := PackageName.segments) fun _ _ => PackageName.ext_segments

instance : Countable FileId :=
  ⟨FileId.index, fun ⟨_⟩ ⟨_⟩ h => congrArg FileId.mk h⟩

instance : Countable Identifier :=
  ⟨Identifier.value, fun ⟨_⟩ ⟨_⟩ h => congrArg Identifier.mk h⟩

instance : Infinite FileId :=
  .of_injective FileId.mk fun _ _ h => (FileId.mk.inj h)

instance : Infinite Identifier :=
  .of_injective Identifier.mk fun _ _ h => (Identifier.mk.inj h)

lemma exists_injective_extension {α β : Type} [Countable α] [Infinite β] {R : α → β → Prop}
    (hR : ∀ {a b a' b'}, R a b → R a' b' → (a = a' ↔ b = b')) (hfinite : {b | ∃ a, R a b}.Finite) :
    ∃ f : α → β, f.Injective ∧ ∀ a b, R a b → f a = b := by
  classical
  obtain ⟨code, hcode⟩ := exists_injective_nat α
  have hinfinite := hfinite.infinite_compl.to_subtype
  let free := Infinite.natEmbedding ({b | ∃ a, R a b}ᶜ : Set β)
  let f (a : α) : β := if h : ∃ b, R a b then h.choose else free (code a)
  have hmatched (a : α) (b : β) (h : R a b) : f a = b := by
    have hex : ∃ b, R a b := ⟨b, h⟩
    simp only [f, dif_pos hex]
    exact (hR hex.choose_spec h).mp rfl
  have hfree (a : α) (h : ¬ ∃ b, R a b) : f a = free (code a) := dif_neg h
  refine ⟨f, fun a a' heq => ?_, hmatched⟩
  by_cases h : ∃ b, R a b <;> by_cases h' : ∃ b, R a' b
  · obtain ⟨b, hb⟩ := h
    obtain ⟨b', hb'⟩ := h'
    rw [hmatched a b hb, hmatched a' b' hb'] at heq
    exact (hR hb hb').mpr heq
  · obtain ⟨b, hb⟩ := h
    rw [hmatched a b hb, hfree a' h'] at heq
    exact absurd ⟨a, heq ▸ hb⟩ (free (code a')).2
  · obtain ⟨b', hb'⟩ := h'
    rw [hfree a h, hmatched a' b' hb'] at heq
    exact absurd ⟨a', heq ▸ hb'⟩ (free (code a)).2
  · rw [hfree a h, hfree a' h'] at heq
    exact hcode (free.injective (Subtype.ext heq))

variable {l : Library} {c : Capabilities} {s t : Store} {ps qs : List Package}

namespace Store.Kept

lemma file_iff (h : s.Kept l c ps) {p q : PackageName} {k k' : FileId} (hp : s.sources.lookup? (l.path p) = some k)
    (hq : s.sources.lookup? (l.path q) = some k') : p = q ↔ k = k' := by
  constructor
  · rintro rfl
    exact Option.some.inj (hp.symm.trans hq)
  · rintro rfl
    obtain ⟨_, hfile, _⟩ := h.filed.exists_file? hp
    obtain ⟨_, hfile', _⟩ := h.filed.exists_file? hq
    have hpath := congrArg SourceFile.path (Option.some.inj (hfile.symm.trans hfile'))
    exact l.path_injective (congrArg Path.ofText hpath)

lemma finite_files (s : Store) (l : Library) : {k | ∃ p, s.sources.lookup? (l.path p) = some k}.Finite := by
  refine (List.finite_toSet ((List.range s.sources.files.length).map FileId.mk)).subset ?_
  rintro k ⟨p, hp⟩
  obtain ⟨f, hf, _⟩ := SourceRegistry.lookup?_eq_some hp
  obtain ⟨hlt, _⟩ := List.getElem?_eq_some_iff.mp hf
  exact List.mem_map.mpr ⟨k.index, List.mem_range.mpr hlt, rfl⟩

lemma finite_identifiers (ps : List Package) : {i | ∃ key, (key, i) ∈ entries ps}.Finite := by
  refine (List.finite_toSet ((entries ps).map Prod.snd)).subset ?_
  rintro i ⟨key, hkey⟩
  exact List.mem_map_of_mem (f := Prod.snd) hkey

lemma exists_numbering (h : s.Kept l c ps) : ∃ n : Numbering, n.Suits l s ps ∧ n.file.Injective ∧
    (fun key : PackageName × TypeName => n.identifier key.1 key.2).Injective := by
  obtain ⟨file, hfile, hfiles⟩ := exists_injective_extension h.file_iff (finite_files s l)
  obtain ⟨identifier, hidentifier, hidentifiers⟩ := exists_injective_extension
    (R := fun key i => (key, i) ∈ entries (s.packages ++ ps)) (fun ha hb => h.distinct.same _ ha _ hb)
    (finite_identifiers _)
  refine ⟨⟨file, fun name type => identifier (name, type)⟩, ⟨hfiles, fun e he => ?_⟩, hfile, hidentifier⟩
  exact hidentifiers e.1 e.2 he

lemma exists_renaming (h : t.Kept l c qs) {n : Numbering} (hfile : n.file.Injective)
    (hidentifier : (fun key : PackageName × TypeName => n.identifier key.1 key.2).Injective) :
    ∃ r : Renaming, r.file.Injective ∧ (n.rename r).Suits l t qs := by
  obtain ⟨file, hinjective, hfiles⟩ := exists_injective_extension
    (R := fun k k' => ∃ p, n.file p = k ∧ t.sources.lookup? (l.path p) = some k')
    (fun ⟨p, hp, hk⟩ ⟨q, hq, hk'⟩ => by rw [← hp, ← hq, hfile.eq_iff, h.file_iff hk hk'])
    ((finite_files t l).subset fun k' ⟨_, p, _, hp⟩ => ⟨p, hp⟩)
  obtain ⟨identifier, hidentifiers, hmatched⟩ := exists_injective_extension
    (R := fun i i' => ∃ key : PackageName × TypeName,
      n.identifier key.1 key.2 = i ∧ (key, i') ∈ entries (t.packages ++ qs))
    (fun ⟨key, hi, hkey⟩ ⟨key', hi', hkey'⟩ => by
      rw [← hi, ← hi', hidentifier.eq_iff, ← h.distinct.same _ hkey _ hkey'])
    ((finite_identifiers _).subset fun i' ⟨_, key, _, hkey⟩ => ⟨key, hkey⟩)
  refine ⟨⟨file, identifier, hidentifiers⟩, hinjective, fun p k hk => ?_, fun e he => ?_⟩
  · exact hfiles _ _ ⟨p, rfl, hk⟩
  · exact hmatched _ _ ⟨e.1, rfl, he⟩

end Store.Kept

end RecordSchema
