import RecordSchema.Proofs.Table.Grown
import Mathlib.Logic.Relation

namespace RecordSchema

/-- The size of a type, given those of declarations. The size that a declared type carries is not used. -/
def DataType.measure (size : Target → Nat) : DataType → Nat
  | integer _ bits => bits
  | float bits => bits
  | vector element count => element.measure size * count
  | matrix element width height => element.measure size * width * height
  | booleanSet _ octets => octets * 8
  | string _ octets => octets * 8
  | declared target _ => size target

def RecordMember.measure (size : Target → Nat) : RecordMember → Nat
  | field f => f.type.measure size
  | padding _ octets _ => octets * 8

def PackedMember.measure (size : Target → Nat) : PackedMember → Nat
  | field f => f.type.measure size
  | padding range _ => range.width

def Layout.measure (size : Target → Nat) : Layout → Nat
  | record r => (r.members.map (RecordMember.measure size)).foldr (fun m n => m + n) 0
  | packed p => (p.members.map (PackedMember.measure size)).foldr (fun m n => m + n) 0
  | union u => (u.cases.map fun c => c.type.measure size).foldl max 0

def TypeTable.measure (t : TypeTable) (d : Declaration) : Nat :=
  d.layout.measure fun target =>
    match t.find? target.identifier with
    | none => 0
    | some e => if e.identifier.value < d.identifier.value then t.measure e else 0
termination_by d.identifier.value

lemma DataType.measure_eq_bits {size : Target → Nat} : ∀ type : DataType,
    (∀ target bits, (target, bits) ∈ type.mentions → size target = bits) → type.measure size = type.bits
  | integer .., _ => rfl
  | float _, _ => rfl
  | vector element count, h => by rw [measure, bits, measure_eq_bits element h]
  | matrix element width height, h => by rw [measure, bits, measure_eq_bits element h]
  | booleanSet .., _ => rfl
  | string .., _ => rfl
  | declared target bits, h => h target bits (List.mem_singleton_self _)

lemma RecordMember.Tile.measure {size : Target → Nat} {start stop : Nat} {members : List RecordMember}
    (h : Tile start members stop)
    (hs : ∀ f ∈ members.filterMap field?, f.type.measure size = f.type.bits) :
    start * 8 + (members.map (RecordMember.measure size)).foldr (fun m n => m + n) 0 = stop * 8 := by
  induction h with
  | nil => simp
  | @field name type start stop p rest whole _ ih =>
    obtain ⟨hf, hrest⟩ := List.forall_mem_cons.mp hs
    have hrec := ih hrest
    have htype : RecordMember.measure size (.field ⟨name, type, start, p⟩) = type.bits := hf
    rw [List.map_cons, List.foldr_cons, htype]
    omega
  | @padding start stop octets p rest _ _ ih =>
    have hrec := ih hs
    have hpadding : RecordMember.measure size (.padding start octets p) = octets * 8 := rfl
    rw [List.map_cons, List.foldr_cons, hpadding]
    omega

lemma PackedMember.Stack.measure {size : Target → Nat} {members : List PackedMember} {height : Nat}
    (h : Stack members height)
    (hs : ∀ f ∈ members.filterMap field?, f.type.measure size = f.range.width) :
    (members.map (PackedMember.measure size)).foldr (fun m n => m + n) 0 = height := by
  induction h with
  | nil => rfl
  | @cons m rest _ ih =>
    have hm : PackedMember.measure size m = m.range.width ∧
        ∀ f ∈ rest.filterMap field?, f.type.measure size = f.range.width := by
      cases m with
      | field f => exact List.forall_mem_cons.mp hs
      | padding range p => exact ⟨rfl, hs⟩
    have hle := m.range.lower_le_upper
    rw [List.map_cons, List.foldr_cons, ih hm.2, hm.1, Interval.width]
    omega

lemma Layout.Laid.measure {totals : SizeRanges} {size : Target → Nat} {d : Declaration}
    (h : d.layout.Laid totals) (hs : ∀ target bits, (target, bits) ∈ d.mentions → size target = bits) :
    d.layout.measure size = d.bits := by
  have htype : ∀ m ∈ d.memberTypes, m.2.measure size = m.2.bits := fun m hm =>
    m.2.measure_eq_bits fun target bits hmention => hs target bits (Declaration.mem_mentions hm hmention)
  unfold Declaration.bits
  unfold Declaration.memberTypes at htype
  cases hl : d.layout with
  | record r =>
    rw [hl] at h htype
    have htile := h.tile.measure fun f hf => htype _ (List.mem_map.mpr ⟨f, hf, rfl⟩)
    rw [Nat.zero_mul, Nat.zero_add] at htile
    exact htile
  | packed p =>
    rw [hl] at h htype
    refine PackedMember.Stack.measure h.stack fun f hf => ?_
    rw [(h.integers f hf).2]
    exact htype _ (List.mem_map.mpr ⟨f, hf, rfl⟩)
  | union u =>
    rw [hl] at h htype
    have hcases : u.cases.map (fun c => c.type.measure size) = u.cases.map (·.type.bits) :=
      List.map_congr_left fun c hc => htype _ (List.mem_map.mpr ⟨c, hc, rfl⟩)
    change ((u.cases.map fun c => c.type.measure size).foldl max 0) = u.bits
    rw [hcases, h.bits_eq]

namespace TypeTable

def Refers (t : TypeTable) (d e : Declaration) : Prop :=
  d ∈ t.declarations ∧ e ∈ t.declarations ∧ ∃ mention ∈ d.mentions, mention.1.identifier = e.identifier

/-- What types say about declarations is so, and nothing is made of itself. -/
structure Coherent (t : TypeTable) : Prop where
  mention : ∀ d ∈ t.declarations, ∀ target bits, (target, bits) ∈ d.mentions →
    ∃ e, t.find? target.identifier = some e ∧ e.package = target.package ∧ e.name = target.name ∧
      e.bits = bits ∧ target.identifier.value < d.identifier.value
  acyclic : ∀ d, ¬ Relation.TransGen t.Refers d d
  measure_eq : ∀ d ∈ t.declarations, t.measure d = d.bits

namespace Grown

variable {c : Capabilities} {t : TypeTable}

lemma mention_found (h : Grown c t) {d : Declaration} (hd : d ∈ t.declarations) {target : Target} {bits : Nat}
    (hm : (target, bits) ∈ d.mentions) : ∃ e ∈ t.declarations, t.find? target.identifier = some e ∧
      e.target = target ∧ e.bits = bits ∧ e.identifier.value < d.identifier.value := by
  obtain ⟨e, he, heq, hlt⟩ := h.mentions d hd _ hm
  cases heq
  exact ⟨e, he, h.find?_eq e he, rfl, rfl, hlt⟩

lemma lt_of_refers (h : Grown c t) {d e : Declaration} (hr : t.Refers d e) :
    e.identifier.value < d.identifier.value := by
  obtain ⟨hd, _, ⟨target, bits⟩, hm, hi⟩ := hr
  obtain ⟨_, _, _, rfl, _, hlt⟩ := h.mention_found hd hm
  rwa [← hi]

lemma lt_of_transGen (h : Grown c t) {d e : Declaration} (hr : Relation.TransGen t.Refers d e) :
    e.identifier.value < d.identifier.value := by
  induction hr with
  | single hr => exact h.lt_of_refers hr
  | tail _ hr ih => exact Nat.lt_trans (h.lt_of_refers hr) ih

lemma measure_eq (h : Grown c t) (d : Declaration) (hd : d ∈ t.declarations) : t.measure d = d.bits := by
  rw [measure]
  -- What a declaration refers to has a smaller identifier and was measured before it.
  refine (h.laid d hd).measure fun target bits hm => ?_
  obtain ⟨e, he, hfind, _, hbits, hlt⟩ := h.mention_found hd hm
  rw [hfind]
  simp only [if_pos hlt]
  rw [h.measure_eq e he, hbits]
termination_by d.identifier.value

lemma coherent (h : Grown c t) : t.Coherent where
  mention d hd target bits hm := by
    obtain ⟨e, _, hfind, rfl, hbits, hlt⟩ := h.mention_found hd hm
    exact ⟨e, hfind, rfl, rfl, hbits, hlt⟩
  acyclic d hd := Nat.lt_irrefl _ (h.lt_of_transGen hd)
  measure_eq := h.measure_eq

end Grown

end TypeTable

end RecordSchema
