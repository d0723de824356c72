import RecordSchema.Proofs.Afresh.Part
import RecordSchema.Proofs.Afresh.Renamed
import RecordSchema.Proofs.Source.Registered

namespace RecordSchema

variable {α β γ κ : Type}

def Run.Both {α β : Type} (x : Run α) (y : Run β) (s s' : Store) (Q : α → Store → β → Store → Prop) : Prop :=
  ∃ a t b t', x.run s = .ok a t ∧ y.run s' = .ok b t' ∧ Q a t b t'

namespace Run.Both

variable {x : Run α} {y : Run β} {s s' : Store} {Q : α → Store → β → Store → Prop}

lemma of_run {a : α} {b : β} {t t' : Store} (hx : x.run s = .ok a t) (hy : y.run s' = .ok b t') (h : Q a t b t') :
    x.Both y s s' Q :=
  ⟨a, t, b, t', hx, hy, h⟩

lemma of_run_eq {x' : Run α} {y' : Run β} {t t' : Store} (hx : x.run s = x'.run t) (hy : y.run s' = y'.run t')
    (h : x'.Both y' t t' Q) : x.Both y s s' Q := by
  obtain ⟨a, u, b, u', hx', hy', hq⟩ := h
  exact ⟨a, u, b, u', hx.trans hx', hy.trans hy', hq⟩

lemma of_ends {P : α → Store → Prop} {P' : β → Store → Prop} (hx : x.Ends s P) (hy : y.Ends s' P')
    (h : ∀ a t b t', P a t → P' b t' → Q a t b t') : x.Both y s s' Q := by
  obtain ⟨a, t, hx, hp⟩ := hx
  obtain ⟨b, t', hy, hp'⟩ := hy
  exact ⟨a, t, b, t', hx, hy, h a t b t' hp hp'⟩

lemma bind {f : α → Run γ} {k : β → Run κ} {R : γ → Store → κ → Store → Prop} (h : x.Both y s s' Q)
    (hf : ∀ a t b t', Q a t b t' → (f a).Both (k b) t t' R) :
    (x >>= f).Both (y >>= k) s s' R := by
  obtain ⟨a, t, b, t', hx, hy, hq⟩ := h
  refine of_run_eq ?_ ?_ (hf a t b t' hq)
  · rw [EStateM.run_bind, hx]
  · rw [EStateM.run_bind, hy]

end Run.Both

inductive BothTexts (R : String → String → Prop) : Except Diagnostic String → Except Diagnostic String → Prop
  | intro {text text' : String} (related : R text text') : BothTexts R (.ok text) (.ok text')

namespace Library

def Corresponds (R : String → String → Prop) (l l' : Library) : Prop :=
  ∀ name, Option.Rel (BothTexts R) (l.source? name) (l'.source? name)

def Matches (r : Relocation) (l l' : Library) : Prop :=
  l.Corresponds (fun text text' => ∀ k, (Expr.read k text).relocate r = (Expr.read k text').relocate r) l'

variable {l l' : Library} {name : PackageName}

lemma Corresponds.mono {R R' : String → String → Prop} (h : l.Corresponds R l')
    (hR : ∀ text text', R text text' → R' text text') : l.Corresponds R' l' := by
  intro name
  have hsource := h name
  generalize l.source? name = x at hsource
  generalize l'.source? name = x' at hsource
  cases hsource with
  | none => exact .none
  | some htexts =>
    cases htexts with
    | intro related => exact .some (.intro (hR _ _ related))

namespace Matches

variable {r : Relocation}

lemma exists_texts (h : l.Matches r l') {x x' : Except Diagnostic String} (hx : l.source? name = some x)
    (hx' : l'.source? name = some x') : ∃ text text', x = .ok text ∧ x' = .ok text' ∧
      ∀ k, (Expr.read k text).relocate r = (Expr.read k text').relocate r := by
  have hsource := h name
  rw [hx, hx'] at hsource
  cases hsource with
  | some htexts =>
    cases htexts with
    | intro same => exact ⟨_, _, rfl, rfl, same⟩

lemma fetch?_isSome (h : l.Matches r l') (name : PackageName) : (l.fetch? name).isSome = (l'.fetch? name).isSome := by
  rw [Library.fetch?_isSome, Library.fetch?_isSome]
  have hsource := h name
  generalize l.source? name = x at hsource
  generalize l'.source? name = x' at hsource
  cases hsource <;> rfl

end Matches

end Library

/-- What is kept and reported is the same up to the places, and the same packages were asked for in the same order. -/
structure Store.Alongside (r : Relocation) (l l' : Library) (s s' : Store) : Prop where
  nextIdentifier : s.nextIdentifier = s'.nextIdentifier
  packages : s.packages.map (Package.relocate r) = s'.packages.map (Package.relocate r)
  types : s.types.relocate r = s'.types.relocate r
  diagnostics : s.diagnostics.map (Diagnostic.relocate r) = s'.diagnostics.map (Diagnostic.relocate r)
  listed : ∃ names, s.sources.Lists l names ∧ s'.sources.Lists l' names
  filed : s.sources.Filed l ∧ s'.sources.Filed l'

namespace Store.Alongside

variable {r : Relocation} {l l' : Library} {s s' : Store} {d d' : Declaration} {found found' : List Diagnostic}

lemma initial (r : Relocation) (l l' : Library) : ({} : Store).Alongside r l l' {} where
  nextIdentifier := rfl
  packages := rfl
  types := rfl
  diagnostics := rfl
  listed := ⟨[], .empty l, .empty l'⟩
  filed := ⟨.empty l, .empty l'⟩

lemma aside (h : s.Alongside r l l' s') (loading loading' : List PackageName) (imports imports' : ImportGraph)
    (events events' : List LoadEvent) : Store.Alongside r l l' { s with loading, imports, events }
      { s' with loading := loading', imports := imports', events := events' } :=
  ⟨h.nextIdentifier, h.packages, h.types, h.diagnostics, h.listed, h.filed⟩

lemma told (h : s.Alongside r l l' s') (hfound : found.map (Diagnostic.relocate r) = found'.map (Diagnostic.relocate r)) :
    Store.Alongside r l l' { s with diagnostics := s.diagnostics ++ found }
      { s' with diagnostics := s'.diagnostics ++ found' } :=
  { h with diagnostics := by rw [List.map_append, List.map_append, h.diagnostics, hfound] }

lemma reporting {d d' : Diagnostic} (h : s.Alongside r l l' s') (hd : d.relocate r = d'.relocate r) :
    (s.reporting d).Alongside r l l' (s'.reporting d') :=
  h.told (congrArg (· :: []) hd)

lemma drained (h : s.Alongside r l l' s') :
    Store.Alongside r l l' { s with diagnostics := [] } { s' with diagnostics := [] } :=
  { h with diagnostics := rfl }

lemma numbering (h : s.Alongside r l l' s') : s.numbering.Alongside r l l' s'.numbering :=
  { h with nextIdentifier := congrArg (· + 1) h.nextIdentifier }

lemma declaring (h : s.Alongside r l l' s') (hd : d.relocate r = d'.relocate r) :
    (s.declaring d).Alongside r l l' (s'.declaring d') := by
  have htypes := congrArg TypeTable.declarations h.types
  rw [TypeTable.relocate_declarations, TypeTable.relocate_declarations] at htypes
  exact { h.numbering with types := by simp [Store.declaring, TypeTable.relocate, htypes, hd] }

lemma keeping {p p' : Package} (h : s.Alongside r l l' s') (hp : p.relocate r = p'.relocate r) :
    Store.Alongside r l l' { s with packages := s.packages ++ [p] } { s' with packages := s'.packages ++ [p'] } :=
  { h with packages := by rw [List.map_append, List.map_append, h.packages, List.map_singleton, List.map_singleton, hp] }

lemma package?_eq (h : s.Alongside r l l' s') (name : PackageName) :
    (s.package? name).map (Package.relocate r) = (s'.package? name).map (Package.relocate r) := by
  have hfind (packages : List Package) : (packages.map (Package.relocate r)).find? (fun p => decide (p.name = name)) =
      (packages.find? fun p => decide (p.name = name)).map (.relocate r) :=
    find?_map_of_eq (fun _ => rfl) packages
  rw [package?, package?, ← hfind, ← hfind, h.packages]

lemma length_diagnostics (h : s.Alongside r l l' s') : s.diagnostics.length = s'.diagnostics.length := by
  rw [← List.length_map (f := Diagnostic.relocate r), h.diagnostics, List.length_map]

end Store.Alongside

variable {r : Relocation} {l l' : Library}

lemma Chain.names_eq {chain chain' : Chain} (h : chain.relocate r = chain'.relocate r) : chain.names = chain'.names := by
  rw [← Chain.names_relocate r chain, h, Chain.names_relocate]

def SameLoaded (r : Relocation) (l l' : Library) (x : Except LoadError Package) (s : Store)
    (x' : Except LoadError Package) (s' : Store) : Prop :=
  x.map (Package.relocate r) = x'.map (Package.relocate r) ∧ s.Alongside r l l' s'

def Importer.Alongside (r : Relocation) (l l' : Library) (c : Capabilities) (chain chain' : Chain)
    (load load' : Importer) : Prop :=
  ∀ name p p' s s', p.map r.position = p'.map r.position → s.Sound c → s'.Sound c → s.OnTrail chain →
    s'.OnTrail chain' → s.Alongside r l l' s' → (load name p).Both (load' name p') s s' (SameLoaded r l l')

end RecordSchema
