import RecordSchema.Compile.Load
import Mathlib.Tactic.Common

namespace RecordSchema

abbrev Chain := List (PackageName × Option Position)

namespace Chain

def names (chain : Chain) : List PackageName :=
  chain.map Prod.fst

def links : Chain → List Import
  | [] => []
  | [_] => []
  | (p, _) :: (q, importer) :: rest => ⟨p, q, importer⟩ :: links ((q, importer) :: rest)

lemma names_concat (chain : Chain) (name : PackageName) (importer : Option Position) :
    names (chain ++ [(name, importer)]) = chain.names ++ [name] := by
  simp [names]

def link? (chain : Chain) (name : PackageName) (importer : Option Position) : Option Import :=
  chain.names.getLast?.map fun current => ⟨current, name, importer⟩

lemma links_concat (name : PackageName) (importer : Option Position) : ∀ chain : Chain,
    links (chain ++ [(name, importer)]) = chain.links ++ (chain.link? name importer).toList
  | [] => rfl
  | [(q, p)] => rfl
  | (q, p) :: (r, p') :: rest => by
    have hrec := links_concat name importer ((r, p') :: rest)
    have hlast : link? ((q, p) :: (r, p') :: rest) name importer = link? ((r, p') :: rest) name importer := by
      simp [link?, names]
    rw [List.cons_append] at hrec
    rw [List.cons_append, List.cons_append, links, links, hrec, hlast, List.cons_append]

lemma target_of_mem_link? {chain : Chain} {name : PackageName} {importer : Option Position} {i : Import}
    (h : i ∈ chain.link? name importer) : i.target = name := by
  obtain ⟨_, _, rfl⟩ := Option.map_eq_some_iff.mp h
  rfl

lemma mem_names_of_mem_links : ∀ {chain : Chain} {i : Import}, i ∈ chain.links →
    i.source ∈ chain.names ∧ i.target ∈ chain.names
  | (p, _) :: (q, importer) :: rest, i, h => by
    rcases List.mem_cons.mp h with rfl | h
    · exact ⟨List.mem_cons_self, List.mem_cons_of_mem _ List.mem_cons_self⟩
    · have hrec := mem_names_of_mem_links h
      exact ⟨List.mem_cons_of_mem _ hrec.1, List.mem_cons_of_mem _ hrec.2⟩

end Chain

lemma ImportGraph.mem_add {g : ImportGraph} {i j : Import} (h : j ∈ (g.add i).imports) :
    j ∈ g.imports ∨ j = i := by
  rw [add] at h
  split at h
  · exact .inl h
  · simpa using h

lemma ImportGraph.subset_add (g : ImportGraph) (i : Import) : g.imports ⊆ (g.add i).imports := by
  intro j hj
  rw [add]
  split
  · exact hj
  · exact List.mem_append_left _ hj

lemma ImportGraph.mem_add_self {g : ImportGraph} {i : Import}
    (h : ∀ j ∈ g.imports, ¬ (j.source = i.source ∧ j.target = i.target)) : i ∈ (g.add i).imports := by
  have hany : g.imports.any (fun j => j.source = i.source ∧ j.target = i.target) = false := by
    rw [List.any_eq_false]
    intro j hj
    simpa using h j hj
  rw [add, hany]
  simp

namespace Store

def entering (s : Store) (chain : List PackageName) (name : PackageName) (importer : Option Position) : Store :=
  { s with
    loading := chain ++ [name]
    imports := match chain.getLast? with
      | some current => s.imports.add ⟨current, name, importer⟩
      | none => s.imports
    events := s.events ++ [.started name ((chain ++ [name]).contains name)] }

def leaving (s : Store) (chain : List PackageName) : Store :=
  { s with loading := chain, imports := if chain = [] then .empty else s.imports }

/-- The graph leads along the chain, and everything else in it has been loaded. -/
structure OnTrail (s : Store) (chain : Chain) : Prop where
  loading : s.loading = chain.names
  nodup : chain.names.Nodup
  uncached : ∀ p ∈ s.packages, p.name ∉ chain.names
  walked : ∀ i ∈ chain.links, i ∈ s.imports.imports
  others : ∀ i ∈ s.imports.imports, i ∈ chain.links ∨ ∃ p ∈ s.packages, p.name = i.target

lemma package?_eq_none_iff {s : Store} {name : PackageName} :
    s.package? name = none ↔ ∀ p ∈ s.packages, p.name ≠ name := by
  rw [package?, List.find?_eq_none]
  simp

namespace OnTrail

variable {s s' : Store} {chain : Chain} {name : PackageName} {importer : Option Position}

lemma initial : ({} : Store).OnTrail [] where
  loading := rfl
  nodup := .nil
  uncached := by rintro p ⟨⟩
  walked := by rintro i ⟨⟩
  others := by rintro i ⟨⟩

lemma of_eq (h : s.OnTrail chain) (hloading : s'.loading = s.loading) (hpackages : s'.packages = s.packages)
    (himports : s'.imports = s.imports) : s'.OnTrail chain where
  loading := hloading.trans h.loading
  nodup := h.nodup
  uncached := by rw [hpackages]; exact h.uncached
  walked := by rw [himports]; exact h.walked
  others := by rw [himports, hpackages]; exact h.others

lemma target_ne (h : s.OnTrail chain) (huncached : s.package? name = none) (hname : name ∉ chain.names) :
    ∀ i ∈ s.imports.imports, i.target ≠ name := by
  rintro i hi rfl
  rcases h.others i hi with hlink | ⟨p, hp, heq⟩
  · exact hname (Chain.mem_names_of_mem_links hlink).2
  · exact package?_eq_none_iff.mp huncached p hp heq

lemma enter (h : s.OnTrail chain) (huncached : s.package? name = none) (hname : name ∉ chain.names) :
    (s.entering chain.names name importer).OnTrail (chain ++ [(name, importer)]) := by
  have hnodup : (Chain.names (chain ++ [(name, importer)])).Nodup := by
    rw [Chain.names_concat]
    refine List.nodup_append.mpr ⟨h.nodup, by simp, fun q hq r hr => ?_⟩
    rw [List.mem_singleton.mp hr]
    rintro rfl
    exact hname hq
  have hcached : ∀ p ∈ s.packages, p.name ∉ Chain.names (chain ++ [(name, importer)]) := by
    intro p hp hmem
    rw [Chain.names_concat, List.mem_append, List.mem_singleton] at hmem
    rcases hmem with hmem | heq
    · exact h.uncached p hp hmem
    · exact package?_eq_none_iff.mp huncached p hp heq
  have hloading : (s.entering chain.names name importer).loading = Chain.names (chain ++ [(name, importer)]) :=
    (Chain.names_concat chain name importer).symm
  have himports : (s.entering chain.names name importer).imports =
      (chain.link? name importer).elim s.imports s.imports.add := by
    rw [entering, Chain.link?]
    cases chain.names.getLast? <;> rfl
  refine ⟨hloading, hnodup, hcached, fun i hi => ?_, fun i hi => ?_⟩
  · rw [himports]
    rw [Chain.links_concat, List.mem_append, Option.mem_toList] at hi
    cases hlink : chain.link? name importer with
    | none =>
      rw [hlink] at hi
      exact h.walked i (hi.resolve_right nofun)
    | some j =>
      rw [hlink] at hi
      rcases hi with hi | hi
      · exact ImportGraph.subset_add _ _ (h.walked i hi)
      · cases hi
        have htarget := Chain.target_of_mem_link? hlink
        exact ImportGraph.mem_add_self fun k hk hboth =>
          h.target_ne huncached hname k hk (hboth.2.trans htarget)
  · rw [himports] at hi
    rw [Chain.links_concat, List.mem_append, Option.mem_toList]
    have hknown : i ∈ s.imports.imports ∨ i ∈ chain.link? name importer := by
      cases hlink : chain.link? name importer with
      | none =>
        rw [hlink] at hi
        exact .inl hi
      | some j =>
        rw [hlink] at hi
        exact (ImportGraph.mem_add hi).imp_right fun heq => congrArg some heq.symm
    rcases hknown with hknown | hlink
    · exact (h.others i hknown).imp_left .inl
    · exact .inl (.inr hlink)

lemma leave {package : Package} (h : s.OnTrail (chain ++ [(name, importer)])) (hname : package.name = name) :
    ({ s.leaving chain.names with packages := s.packages ++ [package] } : Store).OnTrail chain := by
  have hnodup := h.nodup
  rw [Chain.names_concat, List.nodup_append] at hnodup
  have hlinks : ∀ i ∈ Chain.links (chain ++ [(name, importer)]), i ∈ chain.links ∨ i.target = name := by
    intro i hi
    rw [Chain.links_concat, List.mem_append, Option.mem_toList] at hi
    exact hi.imp_right Chain.target_of_mem_link?
  refine ⟨rfl, hnodup.1, ?_, ?_, ?_⟩
  · intro p hp hmem
    rcases List.mem_append.mp hp with hp | hp
    · exact h.uncached p hp (by rw [Chain.names_concat]; exact List.mem_append_left _ hmem)
    · rw [List.mem_singleton.mp hp, hname] at hmem
      exact hnodup.2.2 _ hmem _ (List.mem_singleton_self _) rfl
  · intro i hi
    have hne : chain.names ≠ [] := List.ne_nil_of_mem (Chain.mem_names_of_mem_links hi).1
    simp only [leaving, if_neg hne]
    refine h.walked i ?_
    rw [Chain.links_concat]
    exact List.mem_append_left _ hi
  · intro i hi
    have hi : i ∈ s.imports.imports := by
      simp only [leaving] at hi
      split at hi
      · cases hi
      · exact hi
    rcases h.others i hi with hlink | ⟨p, hp, heq⟩
    · rcases hlinks i hlink with hlink | htarget
      · exact .inl hlink
      · exact .inr ⟨package, List.mem_append_right _ (List.mem_singleton_self _), hname.trans htarget.symm⟩
    · exact .inr ⟨p, List.mem_append_left _ hp, heq⟩

lemma leave_outermost (s : Store) : (s.leaving []).OnTrail [] where
  loading := rfl
  nodup := .nil
  uncached := by simp [Chain.names]
  walked := by rintro i ⟨⟩
  others := by rintro i ⟨⟩

end OnTrail

end Store

end RecordSchema
