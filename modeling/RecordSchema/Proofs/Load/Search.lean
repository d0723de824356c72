import RecordSchema.Compile.ImportGraph
import Mathlib.Tactic.Common

namespace RecordSchema.ImportGraph

inductive Route (g : ImportGraph) (goal : PackageName) : PackageName → List Import → Prop
  | arrived : Route g goal goal []
  | step {i : Import} {path : List Import} (known : i ∈ g.imports) (ne : i.source ≠ goal)
      (rest : Route g goal i.target path) : Route g goal i.source (i :: path)

variable {g : ImportGraph} {goal start : PackageName}

lemma mem_leads {seen : List PackageName} {p : PackageName} {i : Import} :
    i ∈ g.leads seen p ↔ i ∈ g.imports ∧ i.source = p ∧ i.target ∉ seen := by
  simp [leads]

lemma search_sound {seen : List PackageName} {queue : List (PackageName × List Import)} {path : List Import}
    (hq : ∀ entry ∈ queue, ∀ rest, g.Route goal entry.1 rest → g.Route goal start (entry.2.reverse ++ rest))
    (h : g.search goal seen queue = some path) : g.Route goal start path := by
  -- A way in the queue is completed by any route from where it ends.
  induction seen, queue using search.induct g goal with
  | case1 seen =>
    rw [search] at h
    cases h
  | case2 seen way queue =>
    rw [search, if_pos rfl] at h
    cases h
    simpa using hq _ List.mem_cons_self [] .arrived
  | case3 seen p way queue hp next hnext ih =>
    rw [search, if_neg hp, if_pos hnext] at h
    exact ih (fun entry he => hq entry (List.mem_cons_of_mem _ he)) h
  | case4 seen p way queue hp next hnext ih =>
    rw [search, if_neg hp, if_neg hnext] at h
    refine ih (fun entry he rest hrest => ?_) h
    rcases List.mem_append.mp he with he | he
    · exact hq entry (List.mem_cons_of_mem _ he) rest hrest
    · obtain ⟨i, hi, rfl⟩ := List.mem_map.mp he
      obtain ⟨hmem, rfl, _⟩ := mem_leads.mp hi
      have hstep := hq _ List.mem_cons_self (i :: rest) (.step hmem hp hrest)
      simpa using hstep

lemma search_complete {seen : List PackageName} {queue : List (PackageName × List Import)}
    (hseen : ∀ p ∈ seen, p ∈ queue.map Prod.fst ∨ p ≠ goal ∧ ∀ i ∈ g.imports, i.source = p → i.target ∈ seen)
    (h : g.search goal seen queue = none) : ∃ closed, seen ⊆ closed ∧ goal ∉ closed ∧
      ∀ i ∈ g.imports, i.source ∈ closed → i.target ∈ closed := by
  induction seen, queue using search.induct g goal with
  | case1 seen =>
    have hdone : ∀ p ∈ seen, p ≠ goal ∧ ∀ i ∈ g.imports, i.source = p → i.target ∈ seen :=
      fun p hp => (hseen p hp).resolve_left (by simp)
    exact ⟨seen, List.Subset.refl _, fun hgoal => (hdone goal hgoal).1 rfl,
      fun i hi hs => (hdone i.source hs).2 i hi rfl⟩
  | case2 seen way queue =>
    rw [search, if_pos rfl] at h
    cases h
  | case3 seen p way queue hp next hnext ih =>
    rw [search, if_neg hp, if_pos hnext] at h
    refine ih (fun q hq => ?_) h
    rcases hseen q hq with hmem | hdone
    · rcases List.mem_cons.mp hmem with rfl | hmem
      · refine .inr ⟨hp, fun i hi hs => ?_⟩
        by_contra hfresh
        have hlead : i ∈ g.leads seen q := mem_leads.mpr ⟨hi, hs, hfresh⟩
        exact List.ne_nil_of_mem hlead hnext
      · exact .inl hmem
    · exact .inr hdone
  | case4 seen p way queue hp next hnext ih =>
    rw [search, if_neg hp, if_neg hnext] at h
    have hqueue : (queue ++ next.map fun i => (i.target, i :: way)).map Prod.fst =
        queue.map Prod.fst ++ next.map Import.target := by simp
    have hmore : ∀ q ∈ seen ++ next.map Import.target,
        q ∈ (queue ++ next.map fun i => (i.target, i :: way)).map Prod.fst ∨
          q ≠ goal ∧ ∀ i ∈ g.imports, i.source = q → i.target ∈ seen ++ next.map Import.target := by
      intro q hq
      rw [hqueue]
      rcases List.mem_append.mp hq with hq | hq
      · rcases hseen q hq with hmem | hdone
        · rcases List.mem_cons.mp hmem with rfl | hmem
          · refine .inr ⟨hp, fun i hi hs => ?_⟩
            by_cases hold : i.target ∈ seen
            · exact List.mem_append_left _ hold
            · exact List.mem_append_right _ (List.mem_map_of_mem (mem_leads.mpr ⟨hi, hs, hold⟩))
          · exact .inl (List.mem_append_left _ hmem)
        · exact .inr ⟨hdone.1, fun i hi hs => List.mem_append_left _ (hdone.2 i hi hs)⟩
      · exact .inl (List.mem_append_right _ hq)
    obtain ⟨closed, hsub, hrest⟩ := ih hmore h
    exact ⟨closed, fun q hq => hsub (List.mem_append_left _ hq), hrest⟩

lemma mentions_source_add (g : ImportGraph) (i : Import) : (g.add i).mentions i.source = true := by
  rw [add]
  split
  · next hany =>
    obtain ⟨j, hj, hsame⟩ := List.any_eq_true.mp hany
    exact List.any_eq_true.mpr ⟨j, hj, by simp_all⟩
  · exact List.any_eq_true.mpr ⟨i, List.mem_append_right _ (List.mem_singleton_self i), by simp⟩

lemma Route.mentions (h : ∃ path, g.Route goal start path) (hm : g.mentions goal = true) :
    g.mentions start = true := by
  obtain ⟨path, hroute⟩ := h
  cases hroute with
  | arrived => exact hm
  | step known _ _ => exact List.any_eq_true.mpr ⟨_, known, by simp⟩

lemma mem_of_route {closed : List PackageName} (hclosed : ∀ i ∈ g.imports, i.source ∈ closed → i.target ∈ closed)
    {path : List Import} (h : g.Route goal start path) : start ∈ closed → goal ∈ closed := by
  induction h with
  | arrived => exact id
  | step known _ _ ih => exact fun hs => ih (hclosed _ known hs)

lemma shortestPath_eq {path : List Import} (hm : g.mentions goal = true) (h : g.Route goal start path)
    (hunique : ∀ other, g.Route goal start other → other = path) : g.shortestPath start goal = some path := by
  rw [shortestPath, if_pos ⟨Route.mentions ⟨path, h⟩ hm, hm⟩]
  cases hsearch : g.search goal [start] [(start, [])] with
  | some other =>
    rw [hunique other (search_sound (by simp) hsearch)]
  | none =>
    obtain ⟨closed, hsub, hgoal, hclosed⟩ := search_complete (by simp) hsearch
    exact absurd (mem_of_route hclosed h (hsub (List.mem_singleton_self _))) hgoal

end RecordSchema.ImportGraph
