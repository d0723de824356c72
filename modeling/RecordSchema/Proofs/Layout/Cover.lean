import RecordSchema.Proofs.Layout.Laid
import Mathlib.Algebra.GroupWithZero.Nat
import Mathlib.Algebra.Order.BigOperators.Group.List
import Mathlib.Data.List.Nodup

namespace RecordSchema

namespace RecordMember

def offset : RecordMember → Nat
  | field f => f.offset
  | padding offset _ _ => offset

def octets : RecordMember → Nat
  | field f => f.type.bits / 8
  | padding _ octets _ => octets

@[simp] lemma offset_field (f : RecordField) : (field f).offset = f.offset := rfl

@[simp] lemma octets_field (f : RecordField) : (field f).octets = f.type.bits / 8 := rfl

@[simp] lemma offset_padding (start size : Nat) (p : Position) : (padding start size p).offset = start := rfl

@[simp] lemma octets_padding (start size : Nat) (p : Position) : (padding start size p).octets = size := rfl

namespace Tile

variable {start stop : Nat} {members : List RecordMember}

lemma offset_eq (h : Tile start members stop) : ∀ {i : Nat} {m : RecordMember}, members[i]? = some m →
    m.offset = start + ((members.take i).map octets).sum := by
  induction h with
  | nil => simp
  | field whole next ih =>
    intro i m hm
    cases i with
    | zero =>
      cases hm
      simp
    | succ i =>
      simp only [ih hm, List.take_succ_cons, List.map_cons, List.sum_cons, octets_field]
      omega
  | padding positive next ih =>
    intro i m hm
    cases i with
    | zero =>
      cases hm
      simp
    | succ i =>
      simp only [ih hm, List.take_succ_cons, List.map_cons, List.sum_cons, octets_padding]
      omega

lemma stop_eq (h : Tile start members stop) : stop = start + (members.map octets).sum := by
  induction h with
  | nil => simp
  | field whole next ih =>
    simp only [ih, List.map_cons, List.sum_cons, octets_field]
    omega
  | padding positive next ih =>
    simp only [ih, List.map_cons, List.sum_cons, octets_padding]
    omega

lemma start_le_stop (h : Tile start members stop) : start ≤ stop := by
  rw [h.stop_eq]
  omega

lemma start_le (h : Tile start members stop) : ∀ m ∈ members, start ≤ m.offset := by
  intro m hm
  obtain ⟨i, hi⟩ := List.mem_iff_getElem?.mp hm
  rw [h.offset_eq hi]
  omega

lemma whole (h : Tile start members stop) : ∀ f ∈ members.filterMap field?, f.type.bits % 8 = 0 := by
  induction h with
  | nil => simp
  | field whole next ih => exact List.forall_mem_cons.mpr ⟨whole, ih⟩
  | padding positive next ih => exact ih

lemma padded (h : Tile start members stop) {offset octets : Nat} {p : Position}
    (hm : .padding offset octets p ∈ members) : 0 < octets := by
  induction h with
  | nil => cases hm
  | field whole next ih => exact ih ((List.mem_cons.mp hm).resolve_left nofun)
  | padding positive next ih =>
    rcases List.mem_cons.mp hm with heq | hm
    · cases heq
      exact positive
    · exact ih hm

lemma pairwise (h : Tile start members stop) : members.Pairwise fun m n => m.offset + m.octets ≤ n.offset := by
  induction h with
  | nil => exact .nil
  | field whole next ih => exact .cons next.start_le ih
  | padding positive next ih => exact .cons next.start_le ih

lemma covers (h : Tile start members stop) (n : Nat) :
    (start ≤ n ∧ n < stop) ↔ ∃ m ∈ members, m.offset ≤ n ∧ n < m.offset + m.octets := by
  induction h with
  | nil =>
    simp only [List.not_mem_nil, false_and, exists_false, iff_false]
    omega
  | field whole next ih =>
    have hle := next.start_le_stop
    simp only [List.mem_cons, exists_eq_or_imp, ← ih, offset_field, octets_field]
    omega
  | padding positive next ih =>
    have hle := next.start_le_stop
    simp only [List.mem_cons, exists_eq_or_imp, ← ih, offset_padding, octets_padding]
    omega

end Tile

end RecordMember

namespace PackedMember.Stack

variable {members : List PackedMember} {height : Nat}

lemma pairwise (h : Stack members height) : members.Pairwise fun m n => n.range.upper < m.range.lower := by
  induction h with
  | nil => exact .nil
  | cons next ih => exact .cons next.upper_lt ih

lemma covers (h : Stack members height) (n : Nat) : n < height ↔ ∃ m ∈ members, m.range.contains n = true := by
  induction h with
  | nil => simp
  | @cons m rest next ih =>
    have hle := m.range.lower_le_upper
    simp only [List.mem_cons, exists_eq_or_imp, ← ih]
    rw [Interval.contains_iff]
    omega

end PackedMember.Stack

structure RecordLayout.Tiled (r : RecordLayout) : Prop where
  whole : ∀ f ∈ r.fields, f.type.bits % 8 = 0
  padded : ∀ offset octets p, .padding offset octets p ∈ r.members → 0 < octets
  offset_eq : ∀ i m, r.members[i]? = some m → m.offset = ((r.members.take i).map RecordMember.octets).sum
  octets_eq : r.octets = (r.members.map RecordMember.octets).sum
  pairwise : r.members.Pairwise fun m n => m.offset + m.octets ≤ n.offset
  covers : ∀ n, n < r.octets ↔ ∃ m ∈ r.members, m.offset ≤ n ∧ n < m.offset + m.octets

structure PackedLayout.Partitioned (p : PackedLayout) : Prop where
  integers : ∀ f ∈ p.fields, f.type.isInteger = true ∧ f.type.bits = f.range.width
  pairwise : p.members.Pairwise fun m n => n.range.upper < m.range.lower
  covers : ∀ n, n < p.bits ↔ ∃ m ∈ p.members, m.range.contains n = true

structure UnionLayout.Bounded (u : UnionLayout) : Prop where
  cases_ne_nil : u.cases ≠ []
  attained : ∃ c ∈ u.cases, c.type.bits = u.bits
  bits_le : ∀ c ∈ u.cases, c.type.bits ≤ u.bits

lemma RecordLayout.Laid.tiled {r : RecordLayout} (h : r.Laid) : r.Tiled where
  whole := h.tile.whole
  padded _ _ _ hm := h.tile.padded hm
  offset_eq i m hm := by rw [h.tile.offset_eq hm, Nat.zero_add]
  octets_eq := by rw [h.tile.stop_eq, Nat.zero_add]
  pairwise := h.tile.pairwise
  covers n := by rw [← h.tile.covers]; omega

lemma PackedLayout.Laid.partitioned {totals : SizeRanges} {p : PackedLayout} (h : p.Laid totals) : p.Partitioned where
  integers f hf := ⟨(h.integers f hf).1, (h.integers f hf).2.symm⟩
  pairwise := h.stack.pairwise
  covers := h.stack.covers

lemma UnionLayout.Laid.bounded {u : UnionLayout} (h : u.Laid) : u.Bounded := by
  obtain ⟨first, rest, hcases⟩ := List.exists_cons_of_ne_nil h.cases_ne_nil
  have hmax : (u.cases.map (·.type.bits)).max? = some u.bits := by
    rw [h.bits_eq, hcases, List.map_cons, List.max?_cons', List.foldl_cons, Nat.zero_max]
  obtain ⟨hmem, hle⟩ := List.max?_eq_some_iff.mp hmax
  refine ⟨h.cases_ne_nil, List.mem_map.mp hmem, fun c hc => ?_⟩
  exact hle _ (List.mem_map_of_mem hc)

lemma find?_eq_some_iff_of_nodup {α κ : Type} [DecidableEq κ] {key : α → κ} {l : List α} (h : (l.map key).Nodup)
    {k : κ} {x : α} : l.find? (fun y => key y = k) = some x ↔ x ∈ l ∧ key x = k := by
  constructor
  · intro hx
    exact ⟨List.mem_of_find?_eq_some hx, by simpa using List.find?_some hx⟩
  · rintro ⟨hx, rfl⟩
    obtain ⟨y, hy⟩ : ∃ y, l.find? (fun y => key y = key x) = some y :=
      Option.isSome_iff_exists.mp (List.find?_isSome.mpr ⟨x, hx, decide_eq_true rfl⟩)
    have hkey : key y = key x := by simpa using List.find?_some hy
    rw [hy, List.inj_on_of_nodup_map h (List.mem_of_find?_eq_some hy) hx hkey]

namespace Declaration

def named (d : Declaration) : List (String × DataType) :=
  match d.layout with
  | .record r => r.fields.map fun f => (f.name.text, f.type)
  | .packed p => p.fields.map fun f => (f.name.text, f.type)
  | .union u => u.cases.map fun c => (c.name.text, c.type)

/-- What the parts of a code generator rely on when they write a declaration out. -/
structure WellLaid (d : Declaration) : Prop where
  record : ∀ r, d.layout = .record r → r.Tiled
  packed : ∀ p, d.layout = .packed p → p.Partitioned
  union : ∀ u, d.layout = .union u → u.Bounded
  names_nodup : (d.named.map Prod.fst).Nodup
  memberType?_eq_some_iff : ∀ name type, d.memberType? name = some type ↔ (name.text, type) ∈ d.named
  memberType?_eq_none_iff : ∀ name, d.memberType? name = none ↔ name.text ∉ d.named.map Prod.fst

lemma nodup_texts {α : Type} {g : NameGrammar} {name : α → Name g} {type : α → DataType} {l : List α}
    (h : (l.map name).Nodup) : ((l.map fun x => ((name x).text, type x)).map Prod.fst).Nodup := by
  have hmap : (l.map fun x => ((name x).text, type x)).map Prod.fst = (l.map name).map Name.text := by simp
  rw [hmap]
  exact h.map fun _ _ => Name.ext_text

lemma map_find?_eq_some_iff {α : Type} {g : NameGrammar} {name : α → Name g} {l : List α} (h : (l.map name).Nodup)
    (type : α → DataType) (n : Name g) (t : DataType) :
    (l.find? fun x => name x = n).map type = some t ↔ (n.text, t) ∈ l.map fun x => ((name x).text, type x) := by
  rw [Option.map_eq_some_iff, List.mem_map]
  constructor
  · rintro ⟨x, hx, rfl⟩
    obtain ⟨hmem, rfl⟩ := (find?_eq_some_iff_of_nodup h).mp hx
    exact ⟨x, hmem, rfl⟩
  · rintro ⟨x, hmem, heq⟩
    obtain ⟨hname, rfl⟩ := Prod.mk.inj heq
    exact ⟨x, (find?_eq_some_iff_of_nodup h).mpr ⟨hmem, Name.ext_text hname⟩, rfl⟩

lemma memberType?_iff {totals : SizeRanges} {d : Declaration} (h : d.layout.Laid totals) (name : FieldName)
    (type : DataType) : d.memberType? name = some type ↔ (name.text, type) ∈ d.named := by
  unfold memberType? named
  cases hl : d.layout with
  | record r =>
    rw [hl] at h
    have hnodup : (r.fields.reverse.map RecordField.name).Nodup := by
      rw [List.map_reverse]
      exact List.nodup_reverse.mpr h.names_nodup
    have hiff := map_find?_eq_some_iff hnodup RecordField.type name type
    rwa [List.map_reverse, List.mem_reverse] at hiff
  | packed p =>
    rw [hl] at h
    have hnodup : (p.fields.reverse.map PackedField.name).Nodup := by
      rw [List.map_reverse]
      exact List.nodup_reverse.mpr h.names_nodup
    have hiff := map_find?_eq_some_iff hnodup PackedField.type name type
    rwa [List.map_reverse, List.mem_reverse] at hiff
  | union u =>
    rw [hl] at h
    exact map_find?_eq_some_iff h.names_nodup UnionCase.type name.toCase type

lemma names_nodup {totals : SizeRanges} {d : Declaration} (h : d.layout.Laid totals) :
    (d.named.map Prod.fst).Nodup := by
  unfold named
  cases hl : d.layout with
  | record r =>
    rw [hl] at h
    exact nodup_texts h.names_nodup
  | packed p =>
    rw [hl] at h
    exact nodup_texts h.names_nodup
  | union u =>
    rw [hl] at h
    exact nodup_texts h.names_nodup

lemma wellLaid {totals : SizeRanges} {d : Declaration} (h : d.layout.Laid totals) : d.WellLaid where
  record r hr := by
    rw [hr] at h
    exact RecordLayout.Laid.tiled h
  packed p hp := by
    rw [hp] at h
    exact PackedLayout.Laid.partitioned h
  union u hu := by
    rw [hu] at h
    exact UnionLayout.Laid.bounded h
  names_nodup := names_nodup h
  memberType?_eq_some_iff := memberType?_iff h
  memberType?_eq_none_iff name := by
    rw [Option.eq_none_iff_forall_not_mem, List.mem_map]
    constructor
    · rintro hnone ⟨⟨text, type⟩, hmem, rfl⟩
      exact hnone type ((memberType?_iff h name type).mpr hmem)
    · intro hnone type htype
      exact hnone ⟨_, (memberType?_iff h name type).mp htype, rfl⟩

end Declaration

end RecordSchema
