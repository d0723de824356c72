import RecordSchema.Proofs.Alongside.Load
import RecordSchema.Proofs.Load.Moment
import RecordSchema.Proofs.Project.Packages
import RecordSchema.Proofs.Relocation.Same

/-! Packages are the same whether their sources are held in memory or kept in files. -/

namespace RecordSchema

namespace Relocation

@[simp] lemma typeTable_same : TypeTable.relocate .same = id := by
  funext t
  simp [TypeTable.relocate]

@[simp] lemma reply_same : Reply.relocate .same = id := by
  funext reply
  cases reply with
  | loaded result => cases result <;> simp [Except.map]
  | taken found => simp

end Relocation

namespace Library

variable {l l' : Library} {c : Capabilities} {requests : List Request}

lemma Corresponds.matches_same (h : l.Corresponds Eq l') : l.Matches .same l' :=
  h.mono fun _ _ heq _ => by rw [heq]

/-- The stores hold the same, and have numbered the sources of the same packages in the same order. -/
structure Agree (l l' : Library) (s s' : Store) : Prop where
  nextIdentifier : s.nextIdentifier = s'.nextIdentifier
  packages : s.packages = s'.packages
  types : s.types = s'.types
  diagnostics : s.diagnostics = s'.diagnostics
  listed : ∃ names : List PackageName, s.sources.paths = names.map l.path ∧ s'.sources.paths = names.map l'.path
  numbered : ∀ name, s.sources.lookup? (l.path name) = s'.sources.lookup? (l'.path name)

lemma agree_of_alongside {s s' : Store} (h : s.Alongside .same l l' s') : l.Agree l' s s' where
  nextIdentifier := h.nextIdentifier
  packages := by simpa using h.packages
  types := by simpa using h.types
  diagnostics := by simpa using h.diagnostics
  listed := h.listed
  numbered name := by
    obtain ⟨names, hnames, hnames'⟩ := h.listed
    rw [hnames.lookup?, hnames'.lookup?]

lemma Corresponds.replies_agree (h : l.Corresponds Eq l') (c : Capabilities) (requests : List Request) :
    ∃ replies s s', ((l.catalog c).replies requests).run {} = .ok replies s ∧
      ((l'.catalog c).replies requests).run {} = .ok replies s' ∧ l.Agree l' s s' := by
  obtain ⟨rs, s, rs', s', hrun, hrun', hreplies, halongside, _⟩ := h.matches_same.replies_afresh c requests
  rw [Relocation.reply_same, List.map_id, List.map_id] at hreplies
  exact ⟨rs, s, s', hrun, hreplies ▸ hrun', agree_of_alongside halongside⟩

variable {sources : List (PackageName × String)}

lemma entries_tree (root : String) (h : (sources.map Prod.fst).Nodup) :
    (files (Project.ofSources root sources).tree).entries = (texts sources).entries := by
  simp only [entries]
  rw [Project.files_tree root h, List.filterMap_map, ← List.filterMap_eq_map]
  refine List.filterMap_congr fun source _ => ?_
  simp only [Function.comp_apply, Project.placed, FileTree.packageAt?_placeOf, Option.map_some]

lemma corresponds_tree (root : String) (h : (sources.map Prod.fst).Nodup) :
    (texts sources).Corresponds Eq (files (Project.ofSources root sources).tree) := by
  intro name
  have hsource : (files (Project.ofSources root sources).tree).source? name = (sources.lookup name).map .ok := by
    rw [source?, entries_tree root h, lookup_entries_texts, Option.map_map]
    rfl
  rw [source?_texts, hsource]
  cases sources.lookup name with
  | none => exact .none
  | some text => exact .some (.intro rfl)

lemma packagePath_eq (root : String) (sources : List (PackageName × String)) (name : PackageName) :
    (Project.ofSources root sources).tree.packagePath name =
      String.ofList (Path.join root.toList (Project.sourcePath name.render).toList) := by
  rw [FileTree.packagePath, ← name.sourcePath_render, FileTree.pathTo, Project.root_tree]

/-- Packages whose sources are held in memory are the same as packages whose sources are in the files that a project
makes of them. The paths that the files are looked for at are different ones, and lead to what the project puts
there. -/
theorem texts_agree_with_tree (h : (sources.map Prod.fst).Nodup) (root : String) (c : Capabilities)
    (requests : List Request) :
    (∃ replies s s', (((texts sources).catalog c).replies requests).run {} = .ok replies s ∧
      (((files (Project.ofSources root sources).tree).catalog c).replies requests).run {} = .ok replies s' ∧
      (texts sources).Agree (files (Project.ofSources root sources).tree) s s') ∧
    (∀ name, (Project.ofSources root sources).tree.packagePath name =
      String.ofList (Path.join root.toList (Project.sourcePath name.render).toList)) ∧
    (∀ name, (Project.ofSources root sources).tree.file? (Project.sourcePath name.render) =
      (sources.lookup name).map .text) ∧
    ∀ p q, Path.ofText ((Project.ofSources root sources).tree.packagePath p) =
      Path.ofText ((Project.ofSources root sources).tree.packagePath q) → p = q := by
  refine ⟨(corresponds_tree root h).replies_agree c requests, packagePath_eq root sources, Project.file?_tree root h, ?_⟩
  exact fun p q => (files (Project.ofSources root sources).tree).path_injective

def innerName : PackageName :=
  ⟨nestedName.segments ++ [⟨"inner", by decide +kernel⟩], List.append_ne_nil_of_left_ne_nil nestedName.segments_ne_nil _⟩

def innerSources : List (PackageName × String) :=
  [(nestedName, "(package-begin n) (import n.inner as i) (package-end)"),
    (innerName, "(package-begin n.inner) (package-end)")]

lemma inner_sources_agree : (innerSources.map Prod.fst).Nodup ∧ ∃ replies s s',
    (((texts innerSources).catalog {}).replies [.load nestedName none, .takeDiagnostics]).run {} = .ok replies s ∧
      (((files (Project.ofSources "project" innerSources).tree).catalog {}).replies
        [.load nestedName none, .takeDiagnostics]).run {} = .ok replies s' ∧
      (texts innerSources).Agree (files (Project.ofSources "project" innerSources).tree) s s' := by
  have hnodup : (innerSources.map Prod.fst).Nodup := by decide +kernel
  exact ⟨hnodup, (texts_agree_with_tree hnodup "project" {} [.load nestedName none, .takeDiagnostics]).1⟩

end Library

end RecordSchema
