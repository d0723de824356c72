import RecordSchema.Proofs.Afresh.Basic
import RecordSchema.Proofs.Afresh.Part

namespace RecordSchema

def entries (ps : List Package) : List ((PackageName × TypeName) × Identifier) :=
  ps.flatMap fun q => q.declarations.map fun d => ((q.name, d.name), d.identifier)

lemma mem_entries {ps : List Package} {e : (PackageName × TypeName) × Identifier} :
    e ∈ entries ps ↔ ∃ q ∈ ps, ∃ d ∈ q.declarations, ((q.name, d.name), d.identifier) = e := by
  simp only [entries, List.mem_flatMap, List.mem_map]

lemma entries_subset {ps qs : List Package} (h : ps ⊆ qs) : entries ps ⊆ entries qs := by
  intro e he
  obtain ⟨q, hq, hd⟩ := mem_entries.mp he
  exact mem_entries.mpr ⟨q, h hq, hd⟩

lemma entries_append (ps qs : List Package) : entries (ps ++ qs) = entries ps ++ entries qs :=
  List.flatMap_append

lemma entries_gathering (name : PackageName) (ds : List Declaration) (d : Declaration) :
    entries [⟨name, ds ++ [d]⟩] = entries [⟨name, ds⟩] ++ [((name, d.name), d.identifier)] := by
  simp [entries]

structure Distinct (ps : List Package) (next : Nat) : Prop where
  same : ∀ e ∈ entries ps, ∀ e' ∈ entries ps, e.1 = e'.1 ↔ e.2 = e'.2
  below : ∀ e ∈ entries ps, e.2.value < next

namespace Distinct

variable {ps qs : List Package} {next next' : Nat}

lemma mono (h : Distinct ps next) (hsub : entries qs ⊆ entries ps) (hnext : next ≤ next') : Distinct qs next' where
  same e he e' he' := h.same e (hsub he) e' (hsub he')
  below e he := Nat.lt_of_lt_of_le (h.below e (hsub he)) hnext

lemma declare {name : PackageName} {ds : List Declaration} {d : Declaration} (h : Distinct (ps ++ [⟨name, ds⟩]) next)
    (hi : d.identifier = ⟨next⟩) (hfresh : ∀ e ∈ entries (ps ++ [⟨name, ds⟩]), e.1 ≠ (name, d.name)) :
    Distinct (ps ++ [⟨name, ds ++ [d]⟩]) (next + 1) := by
  have hentries : entries (ps ++ [⟨name, ds ++ [d]⟩]) =
      entries (ps ++ [⟨name, ds⟩]) ++ [((name, d.name), d.identifier)] := by
    rw [entries_append, entries_append, entries_gathering, List.append_assoc]
  have hnumber : ∀ e ∈ entries (ps ++ [⟨name, ds⟩]), e.2 ≠ d.identifier := by
    intro e he heq
    have hlt := h.below e he
    rw [heq, hi] at hlt
    exact Nat.lt_irrefl _ hlt
  refine ⟨fun e he e' he' => ?_, fun e he => ?_⟩
  · rw [hentries, List.mem_append, List.mem_singleton] at he he'
    rcases he with he | rfl <;> rcases he' with he' | rfl
    · exact h.same e he e' he'
    · exact iff_of_false (hfresh e he) (hnumber e he)
    · exact iff_of_false (Ne.symm (hfresh e' he')) (Ne.symm (hnumber e' he'))
    · exact iff_of_true rfl rfl
  · rw [hentries, List.mem_append, List.mem_singleton] at he
    rcases he with he | rfl
    · exact Nat.lt_succ_of_lt (h.below e he)
    · rw [hi]
      exact Nat.lt_succ_self next

end Distinct

structure Numbering.Suits (n : Numbering) (l : Library) (s : Store) (ps : List Package) : Prop where
  file : ∀ name file, s.sources.lookup? (l.path name) = some file → n.file name = file
  identifier : ∀ e ∈ entries (s.packages ++ ps), n.identifier e.1.1 e.1.2 = e.2

lemma Numbering.Suits.mono {n : Numbering} {l : Library} {s s' : Store} {ps ps' : List Package} (h : n.Suits l s' ps')
    (hsources : s.sources.Extends s'.sources) (hsub : entries (s.packages ++ ps) ⊆ entries (s'.packages ++ ps')) :
    n.Suits l s ps where
  file name file hfile := h.file name file (hsources _ file hfile)
  identifier e he := h.identifier e (hsub he)

variable {l : Library} {c : Capabilities} {s s' : Store}

/-- Whenever the packages that a package needs are not being loaded, loading it from nothing gives the same. -/
structure Yield.Certified (l : Library) (c : Capabilities) (s : Store) (y : Yield) : Prop where
  again : ∀ n : Numbering, n.Suits l s [] → ∀ (chain : Chain) (importer : Option Position),
    (∀ m ∈ y.needs, m ∉ chain.names) → l.afresh c n chain y.package.name importer = .ok y
  needs : ∀ m ∈ y.needs, ∃ q ∈ s.packages, q.name = m
  part : y.types.PartOf s.types
  registered : y.package.Registered y.types

lemma Yield.Certified.mono {y : Yield} (h : y.Certified l c s) (hs : s.Grows s')
    (hsources : s.sources.Extends s'.sources) : y.Certified l c s' where
  again n hn := h.again n (hn.mono hsources (by simpa using entries_subset hs.packages))
  needs m hm := by
    obtain ⟨q, hq, heq⟩ := h.needs m hm
    exact ⟨q, hs.packages hq, heq⟩
  part := h.part.mono hs.types
  registered := h.registered

structure Store.Kept (l : Library) (c : Capabilities) (s : Store) (ps : List Package) : Prop where
  filed : s.sources.Filed l
  distinct : Distinct (s.packages ++ ps) s.nextIdentifier
  certified : ∀ q ∈ s.packages, ∃ y : Yield, y.Certified l c s ∧ y.package = q

namespace Store.Kept

variable {ps ps' : List Package}

lemma initial (l : Library) (c : Capabilities) : ({} : Store).Kept l c [] where
  filed := .empty l
  distinct := ⟨by rintro e ⟨⟩, by rintro e ⟨⟩⟩
  certified := by rintro q ⟨⟩

lemma mono (h : s.Kept l c ps) (hs : s.Grows s') (hpackages : s'.packages = s.packages)
    (hsources : s.sources.Extends s'.sources) (hfiled : s'.sources.Filed l)
    (hsub : entries ps' ⊆ entries ps) : s'.Kept l c ps' where
  filed := hfiled
  distinct := by
    refine h.distinct.mono ?_ hs.nextIdentifier
    rw [hpackages, entries_append, entries_append]
    exact List.append_subset.mpr ⟨List.subset_append_left _ _, List.subset_append_of_subset_right _ hsub⟩
  certified q hq := by
    obtain ⟨y, hy, heq⟩ := h.certified q (hpackages ▸ hq)
    exact ⟨y, hy.mono hs hsources, heq⟩

lemma of_eq (h : s.Kept l c ps) (hs : s.Grows s') (hpackages : s'.packages = s.packages)
    (hsources : s'.sources = s.sources) : s'.Kept l c ps :=
  h.mono hs hpackages (hsources ▸ .refl _) (hsources ▸ h.filed) (List.Subset.refl _)

lemma declare {name : PackageName} {ds : List Declaration} {d : Declaration} (h : s.Kept l c (ps ++ [⟨name, ds⟩]))
    (hi : d.identifier = ⟨s.nextIdentifier⟩)
    (hfresh : ∀ e ∈ entries ((s.packages ++ ps) ++ [⟨name, ds⟩]), e.1 ≠ (name, d.name)) :
    (s.declaring d).Kept l c (ps ++ [⟨name, ds ++ [d]⟩]) where
  filed := h.filed
  distinct := by
    have hdistinct : Distinct ((s.packages ++ ps) ++ [⟨name, ds⟩]) s.nextIdentifier := by
      rw [List.append_assoc]
      exact h.distinct
    change Distinct (s.packages ++ (ps ++ [⟨name, ds ++ [d]⟩])) (s.nextIdentifier + 1)
    rw [← List.append_assoc]
    exact hdistinct.declare hi hfresh
  certified q hq := by
    obtain ⟨y, hy, heq⟩ := h.certified q hq
    exact ⟨y, hy.mono (.declaring s d) (.refl _), heq⟩

end Store.Kept

end RecordSchema
