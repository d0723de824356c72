import RecordSchema.Name.Package
import RecordSchema.Source.Position

namespace RecordSchema

structure Import where
  source : PackageName
  target : PackageName
  position : Option Position
deriving DecidableEq, Repr

def Import.render (i : Import) : String :=
  i.source.render ++ " -> " ++ i.target.render

def renderCycle (path : List Import) : String :=
  match path with
  | [] => ""
  | first :: _ => path.foldl (fun text i => text ++ " -> " ++ i.target.render) first.source.render

structure ImportGraph where
  imports : List Import := []
deriving DecidableEq, Repr

namespace ImportGraph

def empty : ImportGraph := {}

/-- An import that is known keeps the position it was first recorded with. -/
def add (g : ImportGraph) (i : Import) : ImportGraph :=
  if g.imports.any fun j => j.source = i.source ∧ j.target = i.target then g else ⟨g.imports ++ [i]⟩

def mentions (g : ImportGraph) (p : PackageName) : Bool :=
  g.imports.any fun i => i.source = p ∨ i.target = p

def leads (g : ImportGraph) (seen : List PackageName) (p : PackageName) : List Import :=
  g.imports.filter fun i => i.source = p ∧ i.target ∉ seen

def unseen (g : ImportGraph) (seen : List PackageName) : List PackageName :=
  (g.imports.map Import.target).filter (· ∉ seen)

theorem length_unseen_lt {g : ImportGraph} {seen : List PackageName} {p : PackageName}
    (h : g.leads seen p ≠ []) :
    (g.unseen (seen ++ (g.leads seen p).map Import.target)).length < (g.unseen seen).length := by
  obtain ⟨i, hi⟩ := List.exists_mem_of_ne_nil _ h
  have hg : i ∈ g.imports ∧ i.source = p ∧ i.target ∉ seen := by simpa [leads] using hi
  have hsub : (g.unseen (seen ++ (g.leads seen p).map Import.target)).Sublist (g.unseen seen) := by
    have : (fun q => decide (q ∉ seen ++ (g.leads seen p).map Import.target)) =
        fun q => decide (q ∉ (g.leads seen p).map Import.target) && decide (q ∉ seen) := by
      funext q
      simp only [List.mem_append, not_or, Bool.decide_and, Bool.and_comm]
    rw [unseen, unseen, this, ← List.filter_filter]
    exact List.filter_sublist
  refine Nat.lt_of_le_of_ne hsub.length_le fun heq => ?_
  have hall := hsub.eq_of_length heq
  have hin : i.target ∈ g.unseen seen := by
    simpa [unseen] using ⟨⟨i, hg.1, rfl⟩, hg.2.2⟩
  rw [← hall] at hin
  simp only [unseen, List.mem_filter, List.mem_append, List.mem_map, not_or, decide_eq_true_eq] at hin
  exact hin.2.2 ⟨i, hi, rfl⟩

/-- Breadth first: `queue` holds the packages reached but not left yet, each with the way to it, the
last import first. -/
def search (g : ImportGraph) (goal : PackageName) (seen : List PackageName) :
    (queue : List (PackageName × List Import)) → Option (List Import)
  | [] => none
  | (p, way) :: queue =>
    if p = goal then some way.reverse
    else
      let next := g.leads seen p
      if next = [] then g.search goal seen queue
      else g.search goal (seen ++ next.map Import.target) (queue ++ next.map fun i => (i.target, i :: way))
termination_by queue => ((g.unseen seen).length, queue.length)
decreasing_by
  · exact Prod.Lex.right _ (Nat.lt_succ_self _)
  · exact Prod.Lex.left _ _ (length_unseen_lt ‹_›)

/-- A path with the fewest imports; of several the one found first, with imports tried in the order of
their recording. Both packages must occur in the graph. -/
def shortestPath (g : ImportGraph) (start goal : PackageName) : Option (List Import) :=
  if g.mentions start ∧ g.mentions goal then g.search goal [start] [(start, [])] else none

end ImportGraph

end RecordSchema
