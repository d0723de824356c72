import RecordSchema.Compile.Resolve
import RecordSchema.Proofs.Text.Ranked

/-! An unknown name has the same suggestions whether it stands behind a qualifier or not. -/

namespace RecordSchema

open Text

lemma Mention.suggestions_qualified (qualifier : Segment) (name : TypeName) (names : List TypeName) :
    suggestions (render ⟨some qualifier, name⟩) (names.map fun n => render ⟨some qualifier, n⟩) =
      (suggestions (render ⟨none, name⟩) (names.map fun n => render ⟨none, n⟩)).map (qualifier.text ++ "." ++ ·) := by
  have hnames : names.map (fun n => render ⟨some qualifier, n⟩) =
      (names.map fun n => render ⟨none, n⟩).map (qualifier.text ++ "." ++ ·) := by
    rw [List.map_map]
    rfl
  rw [hnames]
  exact suggestions_append _ _ _

namespace Scope

variable {s : Scope} {qualifier : Segment} {name : TypeName} {current : PackageName} {package : Package}

lemma find_plain_of_unknown (hcurrent : s.current? = some current) (hunknown : s.type? name = none) (p : Position) :
    s.find ⟨none, name⟩ p =
      .error ⟨.typeNonexistent ⟨none, name⟩ (suggestions name.text (s.types.keys.map Name.text)), some p⟩ := by
  have hnames : (s.types.keys.map fun n => Mention.mk none n).map Mention.render = s.types.keys.map Name.text :=
    List.map_map
  rw [find, requirePackage]
  simp only [hcurrent, hunknown, nonexistent, hnames]
  rfl

lemma find_qualified_of_unknown (himported : s.imported? qualifier = some package) (hunknown : package.find? name = none)
    (p : Position) : s.find ⟨some qualifier, name⟩ p =
      .error ⟨.typeNonexistent ⟨some qualifier, name⟩ (suggestions (Mention.render ⟨some qualifier, name⟩)
        ((package.declarations.map Declaration.name).map fun n => Mention.render ⟨some qualifier, n⟩)), some p⟩ := by
  simp only [find, himported, hunknown, nonexistent, List.map_map, Function.comp_def]

end Scope

/-- The names that are suggested are the first three of those near the target in the order of how good they are,
whichever order they came in. A name that an imported package does not have is answered as it would be in a file with
the same names, each suggestion behind the qualifier. -/
theorem suggestions_ranked (target : String) (candidates : List String) :
    (∃ ranked : List String, ranked.Perm (candidates.filter (isNear target)) ∧ ranked.Pairwise (NoWorse target) ∧
      suggestions target candidates = ranked.take 3) ∧
    (∀ candidates', candidates.Perm candidates' → suggestions target candidates' = suggestions target candidates) ∧
    (∀ (qualifier : Segment) (name : TypeName) (names : List TypeName),
      suggestions (Mention.render ⟨some qualifier, name⟩) (names.map fun n => Mention.render ⟨some qualifier, n⟩) =
        (suggestions name.text (names.map Name.text)).map (qualifier.text ++ "." ++ ·)) ∧
    ∀ (s s' : Scope) (current : PackageName) (package : Package) (qualifier : Segment) (name : TypeName) (p : Position),
      s.current? = some current → s.type? name = none → s'.imported? qualifier = some package →
      package.find? name = none → (package.declarations.map Declaration.name).Perm s.types.keys →
      ∃ similar, s.find ⟨none, name⟩ p = .error ⟨.typeNonexistent ⟨none, name⟩ similar, some p⟩ ∧
        s'.find ⟨some qualifier, name⟩ p = .error ⟨.typeNonexistent ⟨some qualifier, name⟩
          (similar.map (qualifier.text ++ "." ++ ·)), some p⟩ := by
  have hperm : ∀ {target : String} {candidates candidates' : List String}, candidates.Perm candidates' →
      suggestions target candidates' = suggestions target candidates := by
    intro target candidates candidates' h
    rw [suggestions_eq, suggestions_eq, rank_of_perm h]
  refine ⟨⟨rank target candidates, rank_perm target candidates, rank_pairwise target candidates,
    suggestions_eq target candidates⟩, fun _ => hperm, Mention.suggestions_qualified, ?_⟩
  intro s s' current package qualifier name p hcurrent hunknown himported hmissing hnames
  refine ⟨_, Scope.find_plain_of_unknown hcurrent hunknown p, ?_⟩
  -- The declarations may come in another order than the names of the file.
  rw [Scope.find_qualified_of_unknown himported hmissing p, Mention.suggestions_qualified, hperm (hnames.map _).symm]
  rfl

end RecordSchema
