import RecordSchema.Proofs.Load.Search
import Mathlib.Data.List.Induction
import Mathlib.Data.List.Nodup

/-! The path that is found through the imports is a shortest one. A search that keeps one import for each package it
finds, and the walk back along them, come to an end and give the same path. -/

namespace RecordSchema

def Import.ends (i : Import) : PackageName × PackageName := (i.source, i.target)

def Occurs (recorded : List Import) (p : PackageName) : Prop :=
  ∃ i ∈ recorded, i.source = p ∨ i.target = p

def Connects : List Import → PackageName → PackageName → Prop
  | [], start, goal => start = goal
  | i :: path, start, goal => i.source = start ∧ Connects path i.target goal

lemma connects_append {first second : List Import} {start goal : PackageName} :
    Connects (first ++ second) start goal ↔ ∃ middle, Connects first start middle ∧ Connects second middle goal := by
  induction first generalizing start with
  | nil => simp [Connects]
  | cons i first ih => simp [Connects, ih, and_assoc]

lemma exists_find?_eq {α : Type} [DecidableEq α] (key : Import → α) {imports : List Import} {i : Import}
    (h : i ∈ imports) : ∃ j, imports.find? (key · = key i) = some j ∧ key j = key i := by
  have hsome : (imports.find? (key · = key i)).isSome := List.find?_isSome.mpr ⟨i, h, by simp⟩
  obtain ⟨j, hj⟩ := Option.isSome_iff_exists.mp hsome
  exact ⟨j, hj, by simpa using List.find?_some hj⟩

lemma exists_exit {seen : List PackageName} {goal : PackageName} (hgoal : goal ∉ seen) :
    ∀ {path : List Import} {start : PackageName}, Connects path start goal → start ∈ seen →
      ∃ before i after, path = before ++ i :: after ∧ Connects before start i.source ∧
        i.source ∈ seen ∧ i.target ∉ seen
  | [], start, hconnects, hstart => by
    obtain rfl : start = goal := hconnects
    exact absurd hstart hgoal
  | i :: path, start, ⟨hsource, hconnects⟩, hstart => by
    by_cases htarget : i.target ∈ seen
    · obtain ⟨before, j, after, rfl, hbefore, hsource', htarget'⟩ := exists_exit hgoal hconnects htarget
      exact ⟨i :: before, j, after, rfl, ⟨hsource, hbefore⟩, hsource', htarget'⟩
    · exact ⟨[], i, path, rfl, hsource.symm, hsource ▸ hstart, htarget⟩

namespace ImportGraph

lemma add_of_exists {g : ImportGraph} {i : Import} (h : ∃ j ∈ g.imports, j.ends = i.ends) : g.add i = g := by
  obtain ⟨j, hj, hends⟩ := h
  exact if_pos (List.any_eq_true.mpr ⟨j, hj, decide_eq_true (Prod.mk.inj hends)⟩)

lemma imports_add_of_not_exists {g : ImportGraph} {i : Import} (h : ¬∃ j ∈ g.imports, j.ends = i.ends) :
    (g.add i).imports = g.imports ++ [i] := by
  have hnone : ¬(g.imports.any fun j => j.source = i.source ∧ j.target = i.target) = true := by
    intro hany
    obtain ⟨j, hj, hboth⟩ := List.any_eq_true.mp hany
    obtain ⟨hsource, htarget⟩ := of_decide_eq_true hboth
    exact h ⟨j, hj, Prod.ext hsource htarget⟩
  rw [add, if_neg hnone]

def of (recorded : List Import) : ImportGraph := recorded.foldl add empty

lemma of_append (recorded : List Import) (i : Import) : of (recorded ++ [i]) = (of recorded).add i := by
  simp [of]

variable {recorded : List Import}

lemma mem_of_iff : ∀ {i : Import}, i ∈ (of recorded).imports ↔ recorded.find? (·.ends = i.ends) = some i := by
  induction recorded using List.reverseRecOn with
  | nil => simp [of, empty]
  | append_singleton recorded j ih =>
    intro i
    -- An import with the same ends is in the graph as soon as one was recorded.
    have hknown : (∃ k ∈ (of recorded).imports, k.ends = j.ends) ↔ ∃ k, recorded.find? (·.ends = j.ends) = some k := by
      constructor
      · rintro ⟨k, hk, hends⟩
        exact ⟨k, hends ▸ ih.mp hk⟩
      · rintro ⟨k, hk⟩
        have hends : k.ends = j.ends := by simpa using List.find?_some hk
        exact ⟨k, ih.mpr (by rwa [hends]), hends⟩
    rw [of_append, List.find?_append]
    by_cases hexists : ∃ k ∈ (of recorded).imports, k.ends = j.ends
    · obtain ⟨k, hk⟩ := hknown.mp hexists
      rw [add_of_exists hexists, ih]
      by_cases hends : j.ends = i.ends
      · rw [← hends, hk]
        rfl
      · simp [hends]
    · have hnone : recorded.find? (·.ends = j.ends) = none := by
        by_contra hsome
        exact hexists (hknown.mpr (Option.ne_none_iff_exists'.mp hsome))
      rw [imports_add_of_not_exists hexists, List.mem_append, List.mem_singleton, ih]
      by_cases hends : j.ends = i.ends
      · rw [← hends, hnone]
        simp [hends, eq_comm]
      · have hne : i ≠ j := fun heq => hends (congrArg Import.ends heq.symm)
        simp [hends, hne]

lemma mem_recorded {i : Import} (h : i ∈ (of recorded).imports) : i ∈ recorded :=
  List.mem_of_find?_eq_some (mem_of_iff.mp h)

lemma exists_mem_of {i : Import} (h : i ∈ recorded) : ∃ j ∈ (of recorded).imports, j.ends = i.ends := by
  obtain ⟨j, hj, hends⟩ := exists_find?_eq Import.ends h
  exact ⟨j, mem_of_iff.mpr (by rwa [hends]), hends⟩

lemma nodup_of (recorded : List Import) : ((of recorded).imports.map Import.ends).Nodup := by
  induction recorded using List.reverseRecOn with
  | nil => exact .nil
  | append_singleton recorded j ih =>
    rw [of_append]
    by_cases hexists : ∃ k ∈ (of recorded).imports, k.ends = j.ends
    · rwa [add_of_exists hexists]
    · rw [imports_add_of_not_exists hexists, List.map_append]
      refine List.Nodup.append ih (List.nodup_singleton _) (List.disjoint_singleton.mpr fun hmem => hexists ?_)
      exact List.mem_map.mp hmem

lemma mentions_of_iff {p : PackageName} : (of recorded).mentions p = true ↔ Occurs recorded p := by
  simp only [mentions, List.any_eq_true, decide_eq_true_eq]
  constructor
  · rintro ⟨i, hi, hp⟩
    exact ⟨i, mem_recorded hi, hp⟩
  · rintro ⟨i, hi, hp⟩
    obtain ⟨j, hj, hends⟩ := exists_mem_of hi
    obtain ⟨hsource, htarget⟩ := Prod.mk.inj hends
    exact ⟨j, hj, by rwa [hsource, htarget]⟩

lemma exists_connects_of : ∀ {path : List Import} {start goal : PackageName}, path ⊆ recorded →
    Connects path start goal → ∃ known, known ⊆ (of recorded).imports ∧ Connects known start goal ∧
      known.length = path.length
  | [], _, _, _, hconnects => ⟨[], List.nil_subset _, hconnects, rfl⟩
  | i :: path, start, goal, hsub, ⟨hsource, hconnects⟩ => by
    obtain ⟨hi, hsub⟩ := List.cons_subset.mp hsub
    obtain ⟨j, hj, hends⟩ := exists_mem_of hi
    obtain ⟨hsource', htarget⟩ := Prod.mk.inj hends
    obtain ⟨known, hknown, hconnects', hlength⟩ := exists_connects_of hsub hconnects
    exact ⟨j :: known, List.cons_subset.mpr ⟨hj, hknown⟩, ⟨hsource'.trans hsource, htarget ▸ hconnects'⟩,
      congrArg (· + 1) hlength⟩

variable {g : ImportGraph} {start goal p : PackageName} {seen : List PackageName} {way path : List Import}
  {queue : List (PackageName × List Import)}

variable (g start) in
structure Shortest (goal : PackageName) (path : List Import) : Prop where
  known : path ⊆ g.imports
  connects : Connects path start goal
  nodup : (start :: path.map Import.target).Nodup
  least : ∀ other, other ⊆ g.imports → Connects other start goal → path.length ≤ other.length

variable (g start) in
/-- The packages that have been reached are the start and those that shortest chains lead to; the ones not left yet are
queued, those nearer to the start first and all of them at two distances at most. -/
structure Frontier (seen : List PackageName) (queue : List (PackageName × List Import)) : Prop where
  start_mem : start ∈ seen
  shortest : ∀ entry ∈ queue, g.Shortest start entry.1 entry.2.reverse
  visited : ∀ entry ∈ queue, entry.2.map Import.target ⊆ seen
  ordered : queue.Pairwise fun a b => a.2.length ≤ b.2.length ∧ b.2.length ≤ a.2.length + 1
  closed : ∀ p ∈ seen, p ∈ queue.map Prod.fst ∨ ∀ i ∈ g.imports, i.source = p → i.target ∈ seen

namespace Frontier

lemma initial : g.Frontier start [start] [(start, [])] where
  start_mem := List.mem_singleton_self _
  shortest := by
    simp only [List.mem_singleton, forall_eq]
    exact ⟨List.nil_subset _, rfl, List.nodup_singleton _, fun _ _ _ => Nat.zero_le _⟩
  visited := by simp
  ordered := List.pairwise_singleton _ _
  closed := by simp

lemma length_le (h : g.Frontier start seen ((p, way) :: queue)) :
    ∀ entry ∈ (p, way) :: queue, way.length ≤ entry.2.length := by
  intro entry he
  rcases List.mem_cons.mp he with rfl | he
  · exact Nat.le_refl _
  · exact (List.rel_of_pairwise_cons h.ordered he).1

lemma length_lt (h : g.Frontier start seen ((p, way) :: queue)) {q : PackageName} (hq : q ∉ seen)
    {other : List Import} (hsub : other ⊆ g.imports) (hother : Connects other start q) : way.length < other.length := by
  obtain ⟨before, i, after, rfl, hbefore, hsource, htarget⟩ := exists_exit hq hother h.start_mem
  obtain ⟨hsub, hi⟩ := List.append_subset.mp hsub
  rcases h.closed i.source hsource with hqueued | hdone
  · obtain ⟨entry, he, hentry⟩ := List.mem_map.mp hqueued
    have hleast := (h.shortest entry he).least before hsub (by rwa [hentry])
    have hle := h.length_le entry he
    simp only [List.length_reverse, List.length_append, List.length_cons] at *
    omega
  · exact absurd (hdone i (hi List.mem_cons_self) rfl) htarget

lemma shortest_lead (h : g.Frontier start seen ((p, way) :: queue)) {i : Import} (hi : i ∈ g.leads seen p) :
    g.Shortest start i.target (i :: way).reverse := by
  obtain ⟨hknown, rfl, hfresh⟩ := mem_leads.mp hi
  have hway := h.shortest _ List.mem_cons_self
  rw [List.reverse_cons]
  refine ⟨?_, connects_append.mpr ⟨i.source, hway.connects, rfl, rfl⟩, ?_, fun other hsub hother => ?_⟩
  · exact List.append_subset.mpr ⟨hway.known, List.cons_subset.mpr ⟨hknown, List.nil_subset _⟩⟩
  · rw [List.map_append, ← List.cons_append]
    refine List.Nodup.append hway.nodup (List.nodup_singleton _) (List.disjoint_singleton.mpr fun hmem => hfresh ?_)
    rcases List.mem_cons.mp hmem with heq | hmem
    · exact heq ▸ h.start_mem
    · exact h.visited _ List.mem_cons_self (by simpa using hmem)
  · have hlt := h.length_lt hfresh hsub hother
    simpa using Nat.succ_le_of_lt hlt

lemma step (h : g.Frontier start seen ((p, way) :: queue)) :
    g.Frontier start (seen ++ (g.leads seen p).map Import.target)
      (queue ++ (g.leads seen p).map fun i => (i.target, i :: way)) where
  start_mem := List.mem_append_left _ h.start_mem
  shortest := by
    intro entry he
    rcases List.mem_append.mp he with he | he
    · exact h.shortest entry (List.mem_cons_of_mem _ he)
    · obtain ⟨i, hi, rfl⟩ := List.mem_map.mp he
      exact h.shortest_lead hi
  visited := by
    intro entry he
    rcases List.mem_append.mp he with he | he
    · exact List.subset_append_of_subset_left _ (h.visited entry (List.mem_cons_of_mem _ he))
    · obtain ⟨i, hi, rfl⟩ := List.mem_map.mp he
      exact List.cons_subset.mpr ⟨List.mem_append_right _ (List.mem_map_of_mem hi),
        List.subset_append_of_subset_left _ (h.visited _ List.mem_cons_self)⟩
  ordered := by
    have hrest := List.pairwise_cons.mp h.ordered
    refine List.pairwise_append.mpr ⟨hrest.2, List.pairwise_map.mpr ?_, fun entry he new hnew => ?_⟩
    · exact List.pairwise_of_forall fun _ _ => ⟨Nat.le_refl _, Nat.le_succ _⟩
    · obtain ⟨i, _, rfl⟩ := List.mem_map.mp hnew
      have hentry := hrest.1 entry he
      simp only [List.length_cons] at *
      omega
  closed := by
    intro q hq
    rcases List.mem_append.mp hq with hq | hq
    · rcases h.closed q hq with hqueued | hdone
      · rcases List.mem_cons.mp hqueued with rfl | hqueued
        · refine .inr fun i hi hsource => ?_
          by_cases hold : i.target ∈ seen
          · exact List.mem_append_left _ hold
          · exact List.mem_append_right _ (List.mem_map_of_mem (mem_leads.mpr ⟨hi, hsource, hold⟩))
        · exact .inl (by simp [hqueued])
      · exact .inr fun i hi hsource => List.mem_append_left _ (hdone i hi hsource)
    · obtain ⟨i, hi, rfl⟩ := List.mem_map.mp hq
      exact .inl (List.mem_map_of_mem (List.mem_append_right _ (List.mem_map_of_mem hi)))

lemma of_search (h : g.Frontier start seen queue) (hsearch : g.search goal seen queue = some path) :
    g.Shortest start goal path := by
  induction seen, queue using search.induct g goal with
  | case1 seen =>
    rw [search] at hsearch
    cases hsearch
  | case2 seen way queue =>
    rw [search, if_pos rfl] at hsearch
    cases hsearch
    exact h.shortest _ List.mem_cons_self
  | case3 seen p way queue hp next hnext ih =>
    rw [search, if_neg hp, if_pos hnext] at hsearch
    have hnone : g.leads seen p = [] := hnext
    have hstep := h.step
    simp only [hnone, List.map_nil, List.append_nil] at hstep
    exact ih hstep hsearch
  | case4 seen p way queue hp next hnext ih =>
    rw [search, if_neg hp, if_neg hnext] at hsearch
    exact ih h.step hsearch

end Frontier

end ImportGraph

/-- A search under way: for each package that has been found, but for the start, the import by which it was found, and
the packages not left yet. -/
structure Survey where
  previous : List Import
  queue : List PackageName

namespace Survey

def visit (start : PackageName) (s : Survey) (i : Import) : Survey :=
  if i.target ≠ start ∧ i.target ∉ s.previous.map Import.target then ⟨s.previous ++ [i], s.queue ++ [i.target]⟩ else s

def step? (g : ImportGraph) (start goal : PackageName) : Survey → Option Survey
  | ⟨_, []⟩ => none
  | ⟨previous, p :: queue⟩ =>
    if p = goal then none else some ((g.imports.filter (·.source = p)).foldl (visit start) ⟨previous, queue⟩)

inductive Ends (g : ImportGraph) (start goal : PackageName) : Survey → Survey → Prop
  | done {s : Survey} (halts : s.step? g start goal = none) : Ends g start goal s s
  | step {s s' last : Survey} (steps : s.step? g start goal = some s') (rest : Ends g start goal s' last) :
      Ends g start goal s last

inductive WalksBack (previous : List Import) (start : PackageName) :
    PackageName → List Import → Option (List Import) → Prop
  | arrived {path : List Import} : WalksBack previous start start path (some path)
  | lost {p : PackageName} {path : List Import} (ne : p ≠ start) (unknown : previous.find? (·.target = p) = none) :
      WalksBack previous start p path none
  | back {p : PackageName} {i : Import} {path : List Import} {result : Option (List Import)} (ne : p ≠ start)
      (known : previous.find? (·.target = p) = some i) (rest : WalksBack previous start i.source (i :: path) result) :
      WalksBack previous start p path result

inductive Backed (previous : List Import) (start : PackageName) : PackageName → List Import → Prop
  | start : Backed previous start start []
  | found {i : Import} {way : List Import} (ne : i.target ≠ start)
      (known : previous.find? (·.target = i.target) = some i) (rest : Backed previous start i.source way) :
      Backed previous start i.target (i :: way)

variable {g : ImportGraph} {start goal p : PackageName} {previous more way : List Import}

lemma Backed.append (h : Backed previous start p way) : Backed (previous ++ more) start p way := by
  induction h with
  | start => exact .start
  | found ne known _ ih => exact .found ne (by rw [List.find?_append, known, Option.some_or]) ih

lemma Backed.walksBack (h : Backed previous start p way) :
    ∀ path, WalksBack previous start p path (some (way.reverse ++ path)) := by
  induction h with
  | start => exact fun _ => .arrived
  | @found i way ne known _ ih =>
    intro path
    rw [List.reverse_cons, List.append_assoc]
    exact .back ne known (ih (i :: path))

lemma foldl_visit : ∀ (imports previous : List Import) (queue : List PackageName), (imports.map Import.target).Nodup →
    imports.foldl (visit start) ⟨previous, queue⟩ =
      ⟨previous ++ imports.filter (·.target ∉ start :: previous.map Import.target),
        queue ++ (imports.filter (·.target ∉ start :: previous.map Import.target)).map Import.target⟩
  | [], previous, queue, _ => by simp
  | i :: imports, previous, queue, hnodup => by
    obtain ⟨hne, hnodup⟩ := List.nodup_cons.mp hnodup
    rw [List.foldl_cons, visit]
    by_cases hfresh : i.target ≠ start ∧ i.target ∉ previous.map Import.target
    · have hsame : imports.filter (·.target ∉ start :: (previous ++ [i]).map Import.target) =
          imports.filter (·.target ∉ start :: previous.map Import.target) := by
        refine List.filter_congr fun j hj => ?_
        have hji : j.target ≠ i.target := fun heq => hne (heq ▸ List.mem_map_of_mem hj)
        simp [hji]
      have hkept : (i :: imports).filter (·.target ∉ start :: previous.map Import.target) =
          i :: imports.filter (·.target ∉ start :: previous.map Import.target) :=
        List.filter_cons_of_pos (by simpa using hfresh)
      rw [if_pos hfresh, foldl_visit imports _ _ hnodup, hsame, hkept]
      simp
    · have hdropped : (i :: imports).filter (·.target ∉ start :: previous.map Import.target) =
          imports.filter (·.target ∉ start :: previous.map Import.target) :=
        List.filter_cons_of_neg (by simpa [not_and_or] using hfresh)
      rw [if_neg hfresh, foldl_visit imports _ _ hnodup, hdropped]

lemma step?_cons (hg : (g.imports.map Import.ends).Nodup) (start : PackageName) (hp : p ≠ goal)
    (previous : List Import) (queue : List PackageName) : step? g start goal ⟨previous, p :: queue⟩ =
      some ⟨previous ++ g.leads (start :: previous.map Import.target) p,
        queue ++ (g.leads (start :: previous.map Import.target) p).map Import.target⟩ := by
  have hleads : g.leads (start :: previous.map Import.target) p =
      (g.imports.filter (·.source = p)).filter (·.target ∉ start :: previous.map Import.target) := by
    rw [ImportGraph.leads, List.filter_filter]
    simp only [Bool.decide_and, Bool.and_comm]
  have htargets : ((g.imports.filter (·.source = p)).map Import.target).Nodup := by
    refine List.Nodup.map_on (fun i hi j hj htarget => ?_) (hg.of_map.filter _)
    simp only [List.mem_filter, decide_eq_true_eq] at hi hj
    exact List.inj_on_of_nodup_map hg hi.1 hj.1 (Prod.ext (hi.2.trans hj.2.symm) htarget)
  rw [step?, if_neg hp, foldl_visit _ _ _ htargets, hleads]

lemma find?_leads (hg : (g.imports.map Import.ends).Nodup) {seen : List PackageName} {i : Import}
    (hi : i ∈ g.leads seen p) : (g.leads seen p).find? (·.target = i.target) = some i := by
  obtain ⟨j, hj, htarget⟩ := exists_find?_eq Import.target hi
  obtain ⟨hknown, hsource, _⟩ := ImportGraph.mem_leads.mp hi
  obtain ⟨hknown', hsource', _⟩ := ImportGraph.mem_leads.mp (List.mem_of_find?_eq_some hj)
  rw [hj, List.inj_on_of_nodup_map hg hknown' hknown (Prod.ext (hsource'.trans hsource.symm) htarget)]

variable (start goal) in
structure Tracks (previous : List Import) (seen : List PackageName) (queue : List (PackageName × List Import)) :
    Prop where
  seen_eq : seen = start :: previous.map Import.target
  backed : ∀ entry ∈ queue, Backed previous start entry.1 entry.2
  queued : goal ∈ seen → goal ∈ queue.map Prod.fst

variable {seen : List PackageName} {queue : List (PackageName × List Import)}

lemma Tracks.step (hg : (g.imports.map Import.ends).Nodup) (h : Tracks start goal previous seen ((p, way) :: queue))
    (hp : p ≠ goal) : Tracks start goal (previous ++ g.leads seen p) (seen ++ (g.leads seen p).map Import.target)
      (queue ++ (g.leads seen p).map fun i => (i.target, i :: way)) where
  seen_eq := by rw [h.seen_eq, List.cons_append, List.map_append]
  backed := by
    intro entry he
    rcases List.mem_append.mp he with he | he
    · exact (h.backed entry (List.mem_cons_of_mem _ he)).append
    · obtain ⟨i, hi, rfl⟩ := List.mem_map.mp he
      obtain ⟨_, rfl, hfresh⟩ := ImportGraph.mem_leads.mp hi
      rw [h.seen_eq, List.mem_cons, not_or] at hfresh
      have hunknown : previous.find? (·.target = i.target) = none := by
        refine List.find?_eq_none.mpr fun j hj htarget => hfresh.2 (List.mem_map.mpr ⟨j, hj, ?_⟩)
        simpa using htarget
      refine .found hfresh.1 ?_ (h.backed _ List.mem_cons_self).append
      rw [List.find?_append, hunknown, Option.none_or, find?_leads hg hi]
  queued := by
    intro hgoal
    rw [List.map_append, List.mem_append]
    rcases List.mem_append.mp hgoal with hgoal | hgoal
    · exact .inl ((List.mem_cons.mp (h.queued hgoal)).resolve_left (Ne.symm hp))
    · exact .inr (by simpa using hgoal)

lemma Tracks.exists_ends (hg : (g.imports.map Import.ends).Nodup) : ∀ {previous : List Import},
    Tracks start goal previous seen queue → ∃ last, Ends g start goal ⟨previous, queue.map Prod.fst⟩ last ∧
      WalksBack last.previous start goal [] (g.search goal seen queue) := by
  induction seen, queue using ImportGraph.search.induct g goal with
  | case1 seen =>
    intro previous h
    have hunseen : goal ∉ seen := fun hmem => List.not_mem_nil (h.queued hmem)
    rw [h.seen_eq, List.mem_cons, not_or] at hunseen
    refine ⟨_, .done rfl, ?_⟩
    rw [ImportGraph.search]
    refine .lost hunseen.1 (List.find?_eq_none.mpr fun i hi htarget => hunseen.2 (List.mem_map.mpr ⟨i, hi, ?_⟩))
    simpa using htarget
  | case2 seen way queue =>
    intro previous h
    refine ⟨_, .done (if_pos rfl), ?_⟩
    rw [ImportGraph.search, if_pos rfl]
    simpa using (h.backed _ List.mem_cons_self).walksBack []
  | case3 seen p way queue hp next hnext =>
    rename_i ih
    intro previous h
    have hnone : g.leads seen p = [] := hnext
    have hstep := step?_cons hg start hp previous (queue.map Prod.fst)
    have htracks := h.step hg hp
    rw [← h.seen_eq] at hstep
    simp only [hnone, List.map_nil, List.append_nil] at hstep htracks
    obtain ⟨last, hends, hwalks⟩ := ih htracks
    rw [ImportGraph.search, if_neg hp, if_pos hnext]
    exact ⟨last, .step hstep hends, hwalks⟩
  | case4 seen p way queue hp next hnext =>
    rename_i ih
    intro previous h
    have hstep := step?_cons hg start hp previous (queue.map Prod.fst)
    rw [← h.seen_eq] at hstep
    obtain ⟨last, hends, hwalks⟩ := ih (h.step hg hp)
    have hqueue : (queue ++ (g.leads seen p).map fun i => (i.target, i :: way)).map Prod.fst =
        queue.map Prod.fst ++ (g.leads seen p).map Import.target := by simp
    rw [hqueue] at hends
    rw [ImportGraph.search, if_neg hp, if_neg hnext]
    exact ⟨last, .step hstep hends, hwalks⟩

lemma Tracks.initial (start goal : PackageName) : Tracks start goal [] [start] [(start, [])] where
  seen_eq := rfl
  backed := by
    simp only [List.mem_singleton, forall_eq]
    exact .start
  queued := by simp

end Survey

namespace ImportGraph

lemma mem_of_connects {g : ImportGraph} {closed : List PackageName} {goal : PackageName}
    (hclosed : ∀ i ∈ g.imports, i.source ∈ closed → i.target ∈ closed) {path : List Import} {start : PackageName}
    (hsub : path ⊆ g.imports) (hconnects : Connects path start goal) (hstart : start ∈ closed) : goal ∈ closed := by
  by_contra hgoal
  obtain ⟨before, i, after, rfl, -, hsource, htarget⟩ := exists_exit hgoal hconnects hstart
  exact htarget (hclosed i (hsub (by simp)) hsource)

lemma exists_search_of_connects {g : ImportGraph} {start goal : PackageName} {path : List Import}
    (hsub : path ⊆ g.imports) (h : Connects path start goal) :
    ∃ found, g.search goal [start] [(start, [])] = some found := by
  cases hsearch : g.search goal [start] [(start, [])] with
  | some found => exact ⟨found, rfl⟩
  | none =>
    obtain ⟨closed, hseen, hgoal, hclosed⟩ := search_complete (by simp) hsearch
    exact absurd (mem_of_connects hclosed hsub h (hseen (List.mem_singleton_self _))) hgoal

lemma shortestPath_eq_some_iff {recorded : List Import} {start goal : PackageName} {path : List Import} :
    (of recorded).shortestPath start goal = some path ↔ (Occurs recorded start ∧ Occurs recorded goal) ∧
      (of recorded).search goal [start] [(start, [])] = some path := by
  rw [shortestPath, Option.ite_none_right_eq_some]
  exact and_congr_left' (and_congr mentions_of_iff mentions_of_iff)

/-- Whatever imports have been recorded, a path is found exactly if both packages occur in them and some chain of them
leads from one to the other. It is then such a chain of imports as they were recorded first, which visits no package
twice and than which none is shorter. The search that keeps single imports comes to its end, and back with it. -/
theorem shortestPath_of_recorded (recorded : List Import) (start goal : PackageName) :
    ((∃ path, (of recorded).shortestPath start goal = some path) ↔
      (Occurs recorded start ∧ Occurs recorded goal) ∧ ∃ path, path ⊆ recorded ∧ Connects path start goal) ∧
    (∀ path, (of recorded).shortestPath start goal = some path →
      Connects path start goal ∧ (∀ i ∈ path, recorded.find? (·.ends = i.ends) = some i) ∧
        (start :: path.map Import.target).Nodup ∧
        (∀ other, other ⊆ recorded → Connects other start goal → path.length ≤ other.length) ∧
        (path = [] ↔ start = goal)) ∧
    ∃ last result, Survey.Ends (of recorded) start goal ⟨[], [start]⟩ last ∧
      Survey.WalksBack last.previous start goal [] result ∧
      (of recorded).shortestPath start goal =
        if (of recorded).mentions start ∧ (of recorded).mentions goal then result else none := by
  have hshortest : ∀ path, (of recorded).shortestPath start goal = some path →
      (of recorded).Shortest start goal path := fun path hpath =>
    Frontier.of_search .initial (shortestPath_eq_some_iff.mp hpath).2
  refine ⟨⟨?_, ?_⟩, fun path hpath => ?_, ?_⟩
  · rintro ⟨path, hpath⟩
    have hpath' := hshortest path hpath
    exact ⟨(shortestPath_eq_some_iff.mp hpath).1, path, fun i hi => mem_recorded (hpath'.known hi), hpath'.connects⟩
  · rintro ⟨hoccur, path, hsub, hconnects⟩
    obtain ⟨known, hknown, hconnects, -⟩ := exists_connects_of hsub hconnects
    obtain ⟨found, hfound⟩ := exists_search_of_connects hknown hconnects
    exact ⟨found, shortestPath_eq_some_iff.mpr ⟨hoccur, hfound⟩⟩
  · have hpath' := hshortest path hpath
    refine ⟨hpath'.connects, fun i hi => mem_of_iff.mp (hpath'.known hi), hpath'.nodup, ?_, ?_⟩
    · intro other hsub hother
      obtain ⟨known, hknown, hconnects, hlength⟩ := exists_connects_of hsub hother
      exact hlength ▸ hpath'.least known hknown hconnects
    · constructor
      · rintro rfl
        exact hpath'.connects
      · rintro rfl
        exact List.eq_nil_of_length_eq_zero (Nat.le_zero.mp (hpath'.least [] (List.nil_subset _) rfl))
  · obtain ⟨last, hends, hwalks⟩ := (Survey.Tracks.initial start goal).exists_ends (nodup_of recorded)
    exact ⟨last, _, hends, hwalks, rfl⟩

end ImportGraph

end RecordSchema
