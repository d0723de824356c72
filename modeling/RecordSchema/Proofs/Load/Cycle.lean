import RecordSchema.Proofs.Load.Search
import RecordSchema.Proofs.Load.Trail
import Mathlib.Data.List.Basic

namespace RecordSchema

namespace Chain

/-- The imports from a package on a chain to the last one, and from there back by one more import. -/
def cycle (chain : Chain) (name : PackageName) (importer : Option Position) : List Import :=
  links (chain.dropWhile (fun entry => entry.1 ≠ name) ++ [(name, importer)])

lemma exists_split {name : PackageName} : ∀ {chain : Chain}, name ∈ chain.names → ∃ outer p rest,
    chain = outer ++ (name, p) :: rest ∧ chain.dropWhile (fun entry => entry.1 ≠ name) = (name, p) :: rest
  | (q, p) :: chain, h => by
    by_cases heq : q = name
    · subst heq
      exact ⟨[], p, chain, rfl, by simp⟩
    · have hrest : name ∈ names chain := (List.mem_cons.mp h).resolve_left fun h => heq h.symm
      obtain ⟨outer, p', rest, hsplit, hdrop⟩ := exists_split hrest
      refine ⟨(q, p) :: outer, p', rest, by rw [hsplit]; rfl, ?_⟩
      rw [List.dropWhile_cons_of_pos (by simpa using heq)]
      exact hdrop

lemma eq_of_mem_links {x y : PackageName} {p q : Option Position} {rest : Chain} {i : Import} :
    ∀ {outer : Chain}, (names (outer ++ (x, p) :: (y, q) :: rest)).Nodup →
      i ∈ links (outer ++ (x, p) :: (y, q) :: rest) → i.source = x → i = ⟨x, y, q⟩
  | [], hnodup, hi, hs => by
    rcases List.mem_cons.mp hi with hi | hi
    · exact hi
    · have hmem := (mem_names_of_mem_links hi).1
      rw [hs] at hmem
      exact absurd hmem (List.nodup_cons.mp hnodup).1
  | (z, r) :: outer, hnodup, hi, hs => by
    obtain ⟨hz, hnodup⟩ := List.nodup_cons.mp hnodup
    have hx : x ∈ names (outer ++ (x, p) :: (y, q) :: rest) := by simp [names]
    obtain ⟨w, r', tail, htail⟩ : ∃ w r' tail, outer ++ (x, p) :: (y, q) :: rest = (w, r') :: tail := by
      cases outer with
      | nil => exact ⟨x, p, _, rfl⟩
      | cons entry outer => exact ⟨entry.1, entry.2, _, rfl⟩
    have hlinks : links ((z, r) :: outer ++ (x, p) :: (y, q) :: rest) =
        ⟨z, w, r'⟩ :: links (outer ++ (x, p) :: (y, q) :: rest) := by
      rw [List.cons_append, htail, links]
    rw [hlinks] at hi
    rcases List.mem_cons.mp hi with rfl | hi
    · exact absurd (hs ▸ hx) hz
    · exact eq_of_mem_links hnodup hi hs

lemma getLast?_names_cons {x y : PackageName} {p q : Option Position} {rest : Chain} :
    (names ((x, p) :: (y, q) :: rest)).getLast? = (names ((y, q) :: rest)).getLast? := by
  simp [names]

lemma ne_last {x y current : PackageName} {p q : Option Position} {rest : Chain}
    (hnodup : (names ((x, p) :: (y, q) :: rest)).Nodup)
    (hlast : (names ((x, p) :: (y, q) :: rest)).getLast? = some current) : x ≠ current := by
  rintro rfl
  rw [getLast?_names_cons] at hlast
  exact (List.nodup_cons.mp hnodup).1 (List.mem_of_getLast? hlast)

lemma mem_links_append {i : Import} {inner : Chain} : ∀ outer : Chain, i ∈ links inner → i ∈ links (outer ++ inner)
  | [], h => h
  | [(z, r)], h => by
    cases inner with
    | nil => cases h
    | cons entry inner => exact List.mem_cons_of_mem _ h
  | (z, r) :: (w, r') :: outer, h =>
    List.mem_cons_of_mem _ (mem_links_append ((w, r') :: outer) h)

lemma links_append_singleton {chain : Chain} {current name : PackageName} {importer : Option Position}
    (h : chain.names.getLast? = some current) :
    links (chain ++ [(name, importer)]) = chain.links ++ [⟨current, name, importer⟩] := by
  rw [links_concat, link?, h]
  rfl

lemma route {g : ImportGraph} {current : PackageName} : ∀ {x : PackageName} {p : Option Position} {rest : Chain},
    (names ((x, p) :: rest)).Nodup → (∀ i ∈ links ((x, p) :: rest), i ∈ g.imports) →
      (names ((x, p) :: rest)).getLast? = some current → g.Route current x (links ((x, p) :: rest))
  | x, p, [], _, _, hlast => by
    cases Option.some.inj hlast
    exact .arrived
  | x, p, (y, q) :: rest, hnodup, hknown, hlast => by
    obtain ⟨hfirst, hrest⟩ := List.forall_mem_cons.mp hknown
    have hinner := route (List.nodup_cons.mp hnodup).2 hrest (getLast?_names_cons.symm.trans hlast)
    exact .step hfirst (ne_last hnodup hlast) hinner

end Chain

namespace Store.OnTrail

variable {s : Store} {chain : Chain} {name current : PackageName} {importer : Option Position}

lemma not_route_of_loaded (h : s.OnTrail chain) (hcurrent : current ∈ chain.names) {x : PackageName}
    {path : List Import} (hroute : (s.imports.add ⟨current, name, importer⟩).Route current x path) :
    ¬ ∃ p ∈ s.packages, p.name = x := by
  induction hroute with
  | arrived =>
    rintro ⟨p, hp, rfl⟩
    exact h.uncached p hp hcurrent
  | @step i path known ne rest ih =>
    rintro ⟨p, hp, heq⟩
    rcases ImportGraph.mem_add known with hi | rfl
    · rcases h.others i hi with hlink | hloaded
      · exact h.uncached p hp (heq ▸ (Chain.mem_names_of_mem_links hlink).1)
      · exact ih hloaded
    · exact ne rfl

lemma route_unique (hcurrent : current ∈ chain.names) : ∀ (rest outer : Chain) {x : PackageName}
    {p : Option Position}, chain = outer ++ (x, p) :: rest → s.OnTrail chain →
      (Chain.names ((x, p) :: rest)).getLast? = some current → ∀ {path : List Import},
        (s.imports.add ⟨current, name, importer⟩).Route current x path → path = Chain.links ((x, p) :: rest)
  | [], outer, x, p, hsplit, h, hlast, path, hroute => by
    cases Option.some.inj hlast
    cases hroute with
    | arrived => rfl
    | step _ ne _ => exact absurd rfl ne
  | (y, q) :: rest, outer, x, p, hsplit, h, hlast, path, hroute => by
    have hnodup := h.nodup
    rw [hsplit] at hnodup
    have hinner : (Chain.names ((x, p) :: (y, q) :: rest)).Nodup := by
      rw [Chain.names, List.map_append] at hnodup
      exact (List.nodup_append.mp hnodup).2.1
    cases hroute with
    | arrived => exact absurd rfl (Chain.ne_last hinner hlast)
    | @step i path known ne hpath =>
      rcases ImportGraph.mem_add known with hi | rfl
      · rcases h.others i hi with hlink | hloaded
        · obtain ⟨source, target, position⟩ := i
          rw [hsplit] at hlink
          cases Chain.eq_of_mem_links hnodup hlink rfl
          have hrest := route_unique hcurrent rest (outer ++ [(source, p)]) (by simp [hsplit]) h
            (Chain.getLast?_names_cons.symm.trans hlast) hpath
          rw [hrest]
          rfl
        · exact absurd hloaded (h.not_route_of_loaded hcurrent hpath)
      · exact absurd rfl ne

lemma shortestPath_eq (h : s.OnTrail chain) (hname : name ∈ chain.names)
    (hlast : chain.names.getLast? = some current) :
    ((s.imports.add ⟨current, name, importer⟩).shortestPath name current).getD [] ++ [⟨current, name, importer⟩] =
      chain.cycle name importer := by
  obtain ⟨outer, p, rest, hsplit, hdrop⟩ := Chain.exists_split hname
  have hnames : chain.names = Chain.names outer ++ Chain.names ((name, p) :: rest) := by
    rw [hsplit, Chain.names, List.map_append]
    rfl
  have hinner : (Chain.names ((name, p) :: rest)).getLast? = some current := by
    rw [hnames, List.getLast?_append_of_ne_nil _ (by simp [Chain.names])] at hlast
    exact hlast
  have hknown : ∀ i ∈ Chain.links ((name, p) :: rest), i ∈ (s.imports.add ⟨current, name, importer⟩).imports := by
    intro i hi
    refine ImportGraph.subset_add _ _ (h.walked i ?_)
    rw [hsplit]
    exact Chain.mem_links_append outer hi
  have hnodup := h.nodup
  rw [hnames] at hnodup
  have hpath := ImportGraph.shortestPath_eq (ImportGraph.mentions_source_add _ _)
    (Chain.route (List.nodup_append.mp hnodup).2.1 hknown hinner)
    fun other hother => route_unique (List.mem_of_getLast? hlast) rest outer hsplit h hinner hother
  rw [hpath, Chain.cycle, hdrop]
  exact (Chain.links_append_singleton hinner).symm

end Store.OnTrail

end RecordSchema
