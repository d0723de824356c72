import RecordSchema.Proofs.Afresh.Kept
import RecordSchema.Proofs.Load.Complete

namespace RecordSchema

lemma foldlM_cons_of_singleton {ε α β : Type} {f : β → α → Except ε β} {a : α} {b : β} {x : Except ε β} (rest : List α)
    (h : [a].foldlM f b = x) : (a :: rest).foldlM f b = x >>= fun b' => rest.foldlM f b' := by
  rw [← h, ← List.foldlM_append, List.singleton_append]

structure Site where
  outer : Chain
  name : PackageName
  importer : Option Position
  opens : List Package
  opens_mem : ∀ q ∈ opens, q.name ∈ outer.names
  earlier : List Diagnostic

namespace Site

def chain (k : Site) : Chain :=
  k.outer ++ [(k.name, k.importer)]

lemma names_chain (k : Site) : k.chain.names = k.outer.names ++ [k.name] :=
  Chain.names_concat k.outer k.name k.importer

lemma name_mem (k : Site) : k.name ∈ k.chain.names := by
  rw [names_chain]
  exact List.mem_append_right _ (List.mem_singleton_self _)

lemma opens_mem_chain (k : Site) (ds : List Declaration) :
    ∀ q ∈ k.opens ++ [⟨k.name, ds⟩], q.name ∈ k.chain.names := by
  intro q hq
  rcases List.mem_append.mp hq with hq | hq
  · rw [names_chain]
    exact List.mem_append_left _ (k.opens_mem q hq)
  · rw [List.mem_singleton.mp hq]
    exact k.name_mem

end Site

namespace Draft

def gathered (w : Draft) : List Declaration :=
  match w.product with
  | some (package, _) => package.declarations
  | none => w.file.collector.declarations

structure Tracks (l : Library) (c : Capabilities) (k : Site) (s : Store) (w : Draft) : Prop where
  underway : w.file.Underway c k.chain s w.product
  kept : s.Kept l c (k.opens ++ [⟨k.name, w.gathered⟩])
  told : s.diagnostics = k.earlier ++ w.told
  part : w.types.PartOf s.types
  scope : w.file.scope.Registered w.types
  bound : w.file.scope.types.pairs = w.gathered.map fun d => (d.name, d.identifier)
  gathered_subset : w.gathered ⊆ w.types.declarations
  needs : ∀ m ∈ w.needs, m = k.name ∨ ∃ q ∈ s.packages, q.name = m
  name_mem_needs : k.name ∈ w.needs

variable {l : Library} {c : Capabilities} {k : Site} {s s' : Store} {w w' : Draft} {load : Importer} {e : Expr}

namespace Tracks

lemma name_not_mem_outer (h : w.Tracks l c k s) : k.name ∉ k.outer.names := by
  have hnodup := h.underway.trail.nodup
  rw [k.names_chain, List.nodup_append] at hnodup
  exact fun hmem => hnodup.2.2 _ hmem _ (List.mem_singleton_self _) rfl

lemma name_ne (h : w.Tracks l c k s) {q : Package} (hq : q ∈ s.packages) : q.name ≠ k.name :=
  fun heq => h.underway.trail.uncached q hq (heq ▸ k.name_mem)

lemma needs_not_mem_outer (h : w.Tracks l c k s) : ∀ m ∈ w.needs, m ∉ k.outer.names := by
  intro m hm hmem
  rcases h.needs m hm with rfl | ⟨q, hq, rfl⟩
  · exact h.name_not_mem_outer hmem
  · refine h.underway.trail.uncached q hq ?_
    rw [k.names_chain]
    exact List.mem_append_left _ hmem

lemma effect_eq (h : w.Tracks l c k s) (e : Expr) : w.file.effect c s.types e = w.file.effect c w.types e :=
  h.part.effect_eq h.underway.store.grown h.scope h.underway.file.opened e

lemma fresh (h : w.Tracks l c k s) {d : Declaration} {scope : Scope} (hscope : w.file.scope.defineType d = .ok scope) :
    ∀ e ∈ entries ((s.packages ++ k.opens) ++ [⟨k.name, w.gathered⟩]), e.1 ≠ (k.name, d.name) := by
  intro e he heq
  obtain ⟨q, hq, d', hd', rfl⟩ := mem_entries.mp he
  obtain ⟨hname, hd⟩ := Prod.mk.inj heq
  rcases List.mem_append.mp hq with hq | hq
  · rcases List.mem_append.mp hq with hq | hq
    · exact h.name_ne hq hname
    · exact h.name_not_mem_outer (hname ▸ k.opens_mem q hq)
  · refine Scope.not_mem_keys_of_defineType hscope ?_
    rw [List.mem_singleton.mp hq] at hd'
    rw [OneToOne.keys, h.bound, List.map_map, ← hd]
    exact List.mem_map_of_mem hd'

lemma tell (h : w.Tracks l c k s) (d : Diagnostic) : (w.tell d).Tracks l c k (s.reporting d) where
  underway := h.underway.report
  kept := h.kept.of_eq (.of_eq rfl rfl (Nat.le_refl _)) rfl rfl
  told := by
    change s.diagnostics ++ [d] = k.earlier ++ (w.told ++ [d])
    rw [h.told, List.append_assoc]
  part := h.part
  scope := h.scope
  bound := h.bound
  gathered_subset := h.gathered_subset
  needs := h.needs
  name_mem_needs := h.name_mem_needs

end Tracks

structure Reaches (l : Library) (c : Capabilities) (k : Site) (w : Draft) (s : Store) (rest : List Expr) (w' : Draft)
    (s' : Store) : Prop where
  tracks : w'.Tracks l c k s'
  grows : s.Grows s'
  sources : s.sources.Extends s'.sources
  needs : w.needs ⊆ w'.needs
  gathered : w.gathered ⊆ w'.gathered
  again : ∀ n : Numbering, n.Suits l s' [⟨k.name, w'.gathered⟩] → ∀ (outer : Chain) (importer : Option Position),
    (∀ m ∈ w'.needs, m ∉ outer.names) →
      rest.foldlM (feed c n (l.afresh c n (outer ++ [(k.name, importer)])) k.name) w = .ok w'

structure Breaks (l : Library) (c : Capabilities) (k : Site) (w : Draft) (s : Store) (rest : List Expr)
    (lost : List Package) (found : List Diagnostic) (s' : Store) : Prop where
  kept : s'.Kept l c (k.opens ++ lost)
  grows : s.Grows s'
  sources : s.sources.Extends s'.sources
  gathered : entries [⟨k.name, w.gathered⟩] ⊆ entries lost
  reported : s'.diagnostics = k.earlier ++ found
  again : ∀ n : Numbering, n.Suits l s' lost →
    rest.foldlM (feed c n (l.afresh c n k.chain) k.name) w = .error (.error found)

lemma entries_gathered_subset {name : PackageName} {ds ds' : List Declaration} (h : ds ⊆ ds') :
    entries [⟨name, ds⟩] ⊆ entries [⟨name, ds'⟩] := by
  simpa [entries] using List.map_subset _ h

namespace Reaches

variable {rest : List Expr}

lemma refl (h : w.Tracks l c k s) : Reaches l c k w s [] w s where
  tracks := h
  grows := .refl s
  sources := .refl _
  needs := List.Subset.refl _
  gathered := List.Subset.refl _
  again _ _ _ _ _ := rfl

lemma suits {w'' : Draft} {s'' : Store} {n : Numbering} (h' : Reaches l c k w' s' rest w'' s'')
    (hn : n.Suits l s'' [⟨k.name, w''.gathered⟩]) : n.Suits l s' [⟨k.name, w'.gathered⟩] := by
  refine hn.mono h'.sources ?_
  rw [entries_append, entries_append]
  exact List.append_subset.mpr ⟨List.subset_append_of_subset_left _ (entries_subset h'.grows.packages),
    List.subset_append_of_subset_right _ (entries_gathered_subset h'.gathered)⟩

lemma append {first : List Expr} {w'' : Draft} {s'' : Store} (h : Reaches l c k w s first w' s')
    (h' : Reaches l c k w' s' rest w'' s'') : Reaches l c k w s (first ++ rest) w'' s'' where
  tracks := h'.tracks
  grows := h.grows.trans h'.grows
  sources := h.sources.trans h'.sources
  needs := List.Subset.trans h.needs h'.needs
  gathered := List.Subset.trans h.gathered h'.gathered
  again n hn outer importer houter := by
    have hfirst := h.again n (h'.suits hn) outer importer fun m hm => houter m (h'.needs hm)
    rw [List.foldlM_append, hfirst]
    exact h'.again n hn outer importer houter

lemma breaks {lost : List Package} {found : List Diagnostic} {s'' : Store} (h : Reaches l c k w s [e] w' s')
    (h' : Breaks l c k w' s' rest lost found s'') : Breaks l c k w s (e :: rest) lost found s'' where
  kept := h'.kept
  grows := h.grows.trans h'.grows
  sources := h.sources.trans h'.sources
  gathered := List.Subset.trans (entries_gathered_subset h.gathered) h'.gathered
  reported := h'.reported
  again n hn := by
    have hsuits : n.Suits l s' [⟨k.name, w'.gathered⟩] := by
      refine hn.mono h'.sources ?_
      rw [entries_append, entries_append]
      exact List.append_subset.mpr ⟨List.subset_append_of_subset_left _ (entries_subset h'.grows.packages),
        List.subset_append_of_subset_right _ h'.gathered⟩
    have hfirst := h.again n hsuits k.outer k.importer h.tracks.needs_not_mem_outer
    exact (foldlM_cons_of_singleton rest hfirst).trans (h'.again n hn)

end Reaches

lemma Breaks.cut {rest : List Expr} {lost : List Package} {found : List Diagnostic}
    (h : Breaks l c k w s [e] lost found s') : Breaks l c k w s (e :: rest) lost found s' where
  kept := h.kept
  grows := h.grows
  sources := h.sources
  gathered := h.gathered
  reported := h.reported
  again n hn := foldlM_cons_of_singleton rest (h.again n hn)

end Draft

end RecordSchema
