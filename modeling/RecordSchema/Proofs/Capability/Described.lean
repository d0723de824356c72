import RecordSchema.Proofs.Capability.Range
import RecordSchema.Proofs.Schema.Exact

/-! Capabilities are read back from what they are written as. -/

namespace RecordSchema

/-- The same document but for the order of the entries of its tables. -/
inductive Document.Rearranged : Document → Document → Prop
  | same (d : Document) : Rearranged d d
  | list {items items' : List Document} (each : List.Forall₂ Rearranged items items') :
      Rearranged (.list items) (.list items')
  | table {entries between entries' : List (String × Document)}
      (keys : entries.map Prod.fst = between.map Prod.fst)
      (each : List.Forall₂ Rearranged (entries.map Prod.snd) (between.map Prod.snd))
      (order : between.Perm entries') : Rearranged (.table entries) (.table entries')

namespace Document.Rearranged

variable {d : Document} {items : List Document} {entries entries' : List (String × Document)}

lemma list_inv (h : Rearranged (.list items) d) : ∃ items', d = .list items' ∧ List.Forall₂ Rearranged items items' := by
  cases h with
  | same => exact ⟨items, rfl, List.forall₂_same.mpr fun item _ => same item⟩
  | list each => exact ⟨_, rfl, each⟩

lemma zipped : ∀ {entries between : List (String × Document)}, entries.map Prod.fst = between.map Prod.fst →
    List.Forall₂ Rearranged (entries.map Prod.snd) (between.map Prod.snd) →
    List.Forall₂ (fun e e' => e.1 = e'.1 ∧ Rearranged e.2 e'.2) entries between
  | [], [], _, _ => .nil
  | e :: entries, e' :: between, keys, each => by
    obtain ⟨key, keys⟩ := List.cons_eq_cons.mp keys
    obtain ⟨value, each⟩ := List.forall₂_cons.mp each
    exact .cons ⟨key, value⟩ (zipped keys each)

lemma table_inv (h : Rearranged (.table entries) d) : ∃ between entries', d = .table entries' ∧
    List.Forall₂ (fun e e' => e.1 = e'.1 ∧ Rearranged e.2 e'.2) entries between ∧ between.Perm entries' := by
  cases h with
  | same => exact ⟨entries, entries, rfl, List.forall₂_same.mpr fun e _ => ⟨rfl, same e.2⟩, .refl entries⟩
  | table keys each order => exact ⟨_, _, rfl, zipped keys each, order⟩

end Document.Rearranged

namespace Descriptor

open Document (Rearranged)

variable {d : Document}

lemma bound_of_rearranged {n : Nat} (h : (Bound.document n).Rearranged d) : d = Bound.document n := by
  cases hd : Bound.document n with
  | integer | text =>
    rw [hd] at h
    cases h
    rfl
  | null | boolean | float | list | table =>
    rw [Bound.document] at hd
    split at hd <;> cases hd

lemma lookup_of_mem {key : String} {value : Document} : ∀ {entries : List (String × Document)},
    (entries.map Prod.fst).Nodup → (key, value) ∈ entries → entries.lookup key = some value
  | e :: entries, unique, h => by
    obtain ⟨fresh, unique⟩ := List.nodup_cons.mp unique
    rcases List.mem_cons.mp h with rfl | h
    · rw [List.lookup_cons, beq_self_eq_true]
    · have hne : key ≠ e.1 := by
        rintro rfl
        exact fresh (List.mem_map.mpr ⟨_, h, rfl⟩)
      rw [List.lookup_cons, beq_false_of_ne hne]
      exact lookup_of_mem unique h

lemma rangeOfDocument_rearranged {r : SizeRange} (h : (rangeDocument r).Rearranged d) : rangeOfDocument d = .ok r := by
  apply rangeOfDocument_eq_ok_iff.mpr
  rw [rangeDocument] at h
  split at h
  · next single =>
    rw [bound_of_rearranged h]
    exact (WrittenRange.exactly single (writtenBound_document r.lower)).denotes
  · obtain ⟨between, entries, rfl, each, order⟩ := h.table_inv
    obtain ⟨⟨_, lower⟩, rest, ⟨rfl, hlower⟩, hrest, rfl⟩ := List.forall₂_cons_left_iff.mp each
    obtain ⟨⟨_, upper⟩, rest, ⟨rfl, hupper⟩, hnil, rfl⟩ := List.forall₂_cons_left_iff.mp hrest
    obtain rfl := List.forall₂_nil_left_iff.mp hnil
    obtain rfl : lower = Bound.document r.lower := bound_of_rearranged hlower
    obtain rfl : upper = Bound.document r.upper := bound_of_rearranged hupper
    have hunique : (entries.map Prod.fst).Nodup := (order.map Prod.fst).nodup_iff.mp (by simp)
    have hfirst : entries.lookup "lower" = some (Bound.document r.lower) :=
      lookup_of_mem hunique (order.mem_iff.mp List.mem_cons_self)
    have hlast : entries.lookup "upper" = some (Bound.document r.upper) :=
      lookup_of_mem hunique (order.mem_iff.mp (List.mem_cons_of_mem _ List.mem_cons_self))
    exact .between hfirst hlast (writtenBound_document r.lower).denotes (writtenBound_document r.upper).denotes

lemma rangesOfDocument_rearranged {s : SizeRanges} (h : (rangesDocument s).Rearranged d) : rangesOfDocument d = .ok s := by
  obtain ⟨items, rfl, each⟩ := h.list_inv
  have hread : items.mapM rangeOfDocument = .ok s.ranges := by
    rw [List.forall₂_map_left_iff] at each
    apply mapM_eq_ok_iff.mpr
    exact List.Forall₂.flip (each.imp fun _ _ hrange => rangeOfDocument_rearranged hrange)
  rw [rangesOfDocument, hread]
  rfl

lemma foldlM_of_ok {σ : Type} {set : σ → String × Document → Except DescriptorError σ} {take : σ → String → σ} :
    ∀ {entries : List (String × Document)}, (∀ e ∈ entries, ∀ s, set s e = .ok (take s e.1)) → ∀ start : σ,
      entries.foldlM set start = .ok ((entries.map Prod.fst).foldl take start)
  | [], _, _ => rfl
  | e :: entries, h, start => by
    obtain ⟨hfirst, hrest⟩ := List.forall_mem_cons.mp h
    rw [List.foldlM_cons, hfirst start]
    exact foldlM_of_ok hrest (take start e.1)

lemma exists_of_mem_right {α β : Type} {R : α → β → Prop} {as : List α} {bs : List β} (h : List.Forall₂ R as bs)
    {b : β} (hb : b ∈ bs) : ∃ a ∈ as, R a b := by
  induction h with
  | nil => cases hb
  | cons first _ ih =>
    rcases List.mem_cons.mp hb with rfl | hb
    · exact ⟨_, List.mem_cons_self, first⟩
    · obtain ⟨a, ha, hab⟩ := ih hb
      exact ⟨a, List.mem_cons_of_mem _ ha, hab⟩

lemma foldlM_rearranged {σ : Type} {set : σ → String × Document → Except DescriptorError σ} {take : σ → String → σ}
    {entries entries' : List (String × Document)}
    (hset : ∀ e ∈ entries, ∀ d, e.2.Rearranged d → ∀ s, set s (e.1, d) = .ok (take s e.1))
    (comm : ∀ s key key', take (take s key) key' = take (take s key') key) (start : σ)
    (h : (Document.table entries).Rearranged (.table entries')) :
    entries'.foldlM set start = .ok ((entries.map Prod.fst).foldl take start) := by
  obtain ⟨between, _, heq, each, order⟩ := h.table_inv
  cases heq
  have hkeys : entries.map Prod.fst = between.map Prod.fst := by
    rw [← List.forall₂_eq_eq_eq, List.forall₂_map_left_iff, List.forall₂_map_right_iff]
    exact each.imp fun _ _ hentry => hentry.1
  have hread : ∀ e ∈ entries', ∀ s, set s e = .ok (take s e.1) := by
    rintro ⟨_, d⟩ he s
    obtain ⟨e', he', rfl, hvalue⟩ := exists_of_mem_right each (order.mem_iff.mpr he)
    exact hset e' he' d hvalue s
  rw [foldlM_of_ok hread, hkeys]
  exact congrArg Except.ok ((order.map Prod.fst).symm.foldl_eq' (fun key _ key' _ s => comm s key key') start)

lemma ite_ite_swap {α : Type} {p q : Prop} [Decidable p] [Decidable q] (a b : α) :
    (if p then a else if q then a else b) = if q then a else if p then a else b := by
  split_ifs <;> rfl

end Descriptor

def MatrixShapes.taking (m s : MatrixShapes) (key : String) : MatrixShapes where
  widths := if key = "widths" then m.widths else s.widths
  heights := if key = "heights" then m.heights else s.heights

lemma MatrixShapes.taking_comm (m s : MatrixShapes) (key key' : String) :
    m.taking (m.taking s key) key' = m.taking (m.taking s key') key := by
  simp only [taking, Descriptor.ite_ite_swap]

def Capabilities.taking (c s : Capabilities) (key : String) : Capabilities where
  recordIntegers := if key = "record_integer_sizes" then c.recordIntegers else s.recordIntegers
  recordFloats := if key = "record_float_sizes" then c.recordFloats else s.recordFloats
  packedIntegers := if key = "packed_integer_sizes" then c.packedIntegers else s.packedIntegers
  packedTotals := if key = "packed_sizes" then c.packedTotals else s.packedTotals
  integerVectors := if key = "vector_integer_counts" then c.integerVectors else s.integerVectors
  floatVectors := if key = "vector_float_counts" then c.floatVectors else s.floatVectors
  integerMatrices := if key = "matrix_integer_shapes" then c.integerMatrices else s.integerMatrices
  floatMatrices := if key = "matrix_float_shapes" then c.floatMatrices else s.floatMatrices
  booleanSets := if key = "boolean_set_sizes" then c.booleanSets else s.booleanSets
  strings := if key = "string_sizes" then c.strings else s.strings
  encodings := if key = "string_encodings" then c.encodings else s.encodings

lemma Capabilities.taking_comm (c s : Capabilities) (key key' : String) :
    c.taking (c.taking s key) key' = c.taking (c.taking s key') key := by
  apply Capabilities.mk.injEq .. |>.mpr
  refine ⟨?_, ?_, ?_, ?_, ?_, ?_, ?_, ?_, ?_, ?_, ?_⟩ <;> exact Descriptor.ite_ite_swap _ _

lemma Capabilities.foldl_taking (c s : Capabilities) : Descriptor.keys.foldl c.taking s = c := by
  simp [Descriptor.keys, taking]

lemma MatrixShapes.foldl_taking (m s : MatrixShapes) : Descriptor.shapeKeys.foldl m.taking s = m := by
  simp [Descriptor.shapeKeys, taking]

namespace Descriptor

variable {d : Document}

lemma shapesOfDocument_rearranged {lenient : Bool} {m : MatrixShapes} (h : (shapesDocument m).Rearranged d) :
    shapesOfDocument lenient d = .ok m := by
  obtain ⟨_, entries, rfl, -, -⟩ := h.table_inv
  have hset : ∀ e ∈ [("widths", rangesDocument m.widths), ("heights", rangesDocument m.heights)], ∀ d,
      e.2.Rearranged d → ∀ s, setShapes s (e.1, d) = .ok (m.taking s e.1) := by
    simp only [List.forall_mem_cons]
    refine ⟨fun d hd s => ?_, fun d hd s => ?_, nofun⟩
    · rw [setShapes, rangesOfDocument_rearranged hd]
      rfl
    · rw [setShapes, rangesOfDocument_rearranged hd]
      rfl
  rw [shapesOfDocument, foldlM_rearranged hset m.taking_comm {} h]
  exact congrArg Except.ok (m.foldl_taking {})

lemma insertSorted_last {x : String} : ∀ {ys : List String}, (∀ y ∈ ys, y < x) → insertSorted x ys = ys ++ [x]
  | [], _ => rfl
  | y :: ys, h => by
    obtain ⟨hy, hys⟩ := List.forall_mem_cons.mp h
    rw [insertSorted, if_neg (String.lt_asymm hy), if_neg (String.ne_of_lt hy).symm, insertSorted_last hys,
      List.cons_append]

lemma foldl_insert_names {e : Encodings} : ∀ {names : List String}, (e.names ++ names).Pairwise (· < ·) →
    (names.foldl Encodings.insert e).names = e.names ++ names
  | [], _ => (List.append_nil e.names).symm
  | name :: names, h => by
    have hlast : (e.insert name).names = e.names ++ [name] :=
      insertSorted_last fun y hy => (List.pairwise_append.mp h).2.2 y hy name List.mem_cons_self
    rw [List.foldl_cons, foldl_insert_names, hlast, List.append_assoc, List.singleton_append]
    rwa [hlast, ← List.append_cons]

lemma ofList_names (e : Encodings) : Encodings.ofList e.names = e := by
  have hnames : (Encodings.ofList e.names).names = e.names := foldl_insert_names e.sorted
  obtain ⟨names, sorted⟩ := e
  exact Encodings.mk.injEq .. ▸ hnames

lemma encodingsOfDocument_rearranged {e : Encodings} (h : (encodingsDocument e).Rearranged d) :
    encodingsOfDocument d = .ok e := by
  obtain ⟨items, rfl, each⟩ := h.list_inv
  rw [List.forall₂_map_left_iff] at each
  refine (ok_bind (mapM_eq_ok_iff.mpr (List.Forall₂.flip (each.imp ?_)))).trans (congrArg Except.ok (ofList_names e))
  intro name d hd
  cases hd
  rfl

lemma set_rearranged {lenient : Bool} {c : Capabilities} {entries : List (String × Document)}
    (hentries : c.toDocument = .table entries) : ∀ e ∈ entries, ∀ d, e.2.Rearranged d →
      ∀ s, set lenient s (e.1, d) = .ok (c.taking s e.1) := by
  cases hentries
  -- Two keys are for shapes and the last is for encodings, the others are for ranges.
  simp only [List.forall_mem_cons]
  refine ⟨?_, ?_, ?_, ?_, ?_, ?_, ?_, ?_, ?_, ?_, ?_, nofun⟩ <;> intro d hd s
  case refine_7 => rw [set, shapesOfDocument_rearranged hd]; rfl
  case refine_8 => rw [set, shapesOfDocument_rearranged hd]; rfl
  case refine_11 => rw [set, encodingsOfDocument_rearranged hd]; rfl
  all_goals rw [set, rangesOfDocument_rearranged hd]; rfl

end Descriptor

open Descriptor

lemma Capabilities.ofDocument_rearranged {c : Capabilities} {d : Document} (lenient : Bool)
    (h : c.toDocument.Rearranged d) : ofDocument lenient d = .ok c := by
  obtain ⟨_, entries, rfl, -, -⟩ := h.table_inv
  rw [ofDocument, foldlM_rearranged (set_rearranged rfl) c.taking_comm standard h]
  exact congrArg Except.ok (c.foldl_taking standard)

/-- Capabilities are read back from the descriptor they are written as, in whichever order the entries of its
tables come. A range is written as `WrittenRange` says; the values that are taken for a range are those that denote
one whose bounds are the right way round, and such a value may be replaced by the written range. -/
theorem Capabilities.descriptor_survives :
    (∀ (c : Capabilities) (lenient : Bool) (d : Document), c.toDocument.Rearranged d → ofDocument lenient d = .ok c) ∧
    (∀ (r : SizeRange) (d : Document), d = rangeDocument r ↔ WrittenRange r d) ∧
    (∀ r : SizeRange, ((∃ n, rangeDocument r = .integer n) ∨ ∃ s, rangeDocument r = .text s) ↔ r.lower = r.upper) ∧
    (∀ n : Nat, (∃ s, Bound.document n = .text s) ↔ 2 ^ 64 - 1 < n) ∧
    (∀ (d : Document) (r : SizeRange), rangeOfDocument d = .ok r ↔ DenotesRange d r.lower r.upper) ∧
    (∀ (d : Document) (m n : Nat), DenotesRange d m n → ((∃ r, rangeOfDocument d = .ok r) ↔ m ≤ n)) ∧
    ∀ (d d' : Document) (r : SizeRange), rangeOfDocument d = .ok r → (rangeDocument r).Rearranged d' →
      rangeOfDocument d' = rangeOfDocument d := by
  refine ⟨?_, ?_, ?_, ?_, ?_, ?_, ?_⟩
  · intro c lenient d h
    exact c.ofDocument_rearranged lenient h
  · intro r d
    exact eq_rangeDocument_iff
  · intro r
    exact rangeDocument_bare_iff
  · intro n
    exact document_text_iff
  · intro d r
    exact rangeOfDocument_eq_ok_iff
  · intro d m n h
    rw [rangeOfDocument_of_denotes h]
    split
    · next hle => exact iff_of_true ⟨_, rfl⟩ hle
    · next hle => exact iff_of_false (by rintro ⟨r, ⟨⟩⟩) hle
  · intro d d' r hd hd'
    rw [hd]
    exact rangeOfDocument_rearranged hd'

end RecordSchema
