import RecordSchema.Proofs.Layout.Cover
import RecordSchema.Proofs.Layout.Descent
import Mathlib.Data.List.Chain

/-! The layout of a packed record divides its bits among the members exactly as they are specified. -/

namespace RecordSchema

namespace PackedMember.Stack

variable {members : List PackedMember} {height : Nat}

lemma isChain (h : Stack members height) : members.IsChain fun m n => m.range.lower = n.range.upper + 1 := by
  induction h with
  | nil => exact .nil
  | @cons m rest next ih =>
    cases rest with
    | nil => exact .singleton m
    | cons n rest =>
      generalize hlower : m.range.lower = lower at next
      cases next with
      | cons next => exact .cons_cons hlower ih

lemma lower_getLast (h : Stack members height) : ∀ m, members.getLast? = some m → m.range.lower = 0 := by
  induction h with
  | nil => simp
  | @cons m rest next ih =>
    cases rest with
    | nil =>
      generalize hlower : m.range.lower = lower at next
      cases next
      simpa using hlower
    | cons n rest => simpa using ih

lemma apart (h : Stack members height) {i j : Nat} {m n : PackedMember} (hi : members[i]? = some m)
    (hj : members[j]? = some n) (hij : i < j) : n.range.upper < m.range.lower := by
  obtain ⟨hilt, rfl⟩ := List.getElem?_eq_some_iff.mp hi
  obtain ⟨hjlt, rfl⟩ := List.getElem?_eq_some_iff.mp hj
  exact List.pairwise_iff_getElem.mp h.pairwise i j hilt hjlt hij

end PackedMember.Stack

namespace PackedLayout

/-- Each of `specs` has bits of its own in `p`, the first one the uppermost, and there are no other bits. -/
structure Divides (p : PackedLayout) (specs : List PackedSpec) : Prop where
  length_eq : p.members.length = specs.length
  bits_eq : p.bits = PackedSpec.total specs
  placed : ∀ i spec, specs[i]? = some spec → ∃ range : BitRange, p.members[i]? = some (spec.place range) ∧
    range.lower = PackedSpec.total (specs.drop (i + 1)) ∧
    range.upper = PackedSpec.total (specs.drop (i + 1)) + spec.width - 1
  within : ∀ m ∈ p.members, m.range.upper < p.bits
  covers : ∀ n < p.bits, ∃! i : Nat, ∃ m, p.members[i]? = some m ∧ m.range.contains n = true
  apart : ∀ (i j : Nat) (m n : PackedMember), i ≠ j → p.members[i]? = some m → p.members[j]? = some n →
    m.range.overlaps n.range = false
  lowest : ∀ m, p.ascending.head? = some m → m.range.lower = 0
  gapless : p.ascending.IsChain fun m n : PackedMember => n.range.lower = m.range.upper + 1
  found : ∀ (i : Nat) name type width position, specs[i]? = some (.field name type width position) →
    ∃ f, p.members[i]? = some (.field f) ∧ p.field? name = some f
  missing : ∀ name, name ∉ specs.filterMap PackedSpec.name? → p.field? name = none

lemma exists_lower : ∀ {specs : List PackedSpec}, (∀ spec ∈ specs, 0 < spec.width) →
    ∃ p, place specs = .ok p ∧ p.bits = PackedSpec.total specs ∧
      ∀ i spec, specs[i]? = some spec → ∃ range : BitRange, p.members[i]? = some (spec.place range) ∧
        range.lower = PackedSpec.total (specs.drop (i + 1)) ∧ range.upper + 1 = range.lower + spec.width
  | [], _ => ⟨⟨[], 0⟩, rfl, rfl, by simp⟩
  | spec :: later, h => by
    obtain ⟨hpos, hlater⟩ := List.forall_mem_cons.mp h
    obtain ⟨below, hbelow, hbits, hplaced⟩ := exists_lower hlater
    obtain ⟨range, hlower, hupper, hplace⟩ := place_cons spec hbelow hpos
    refine ⟨_, hplace, ?_, ?_⟩
    · rw [PackedSpec.total_cons, ← hbits, Nat.add_comm]
    · intro i other hother
      cases i with
      | zero =>
        cases hother
        refine ⟨range, rfl, ?_, ?_⟩
        · simpa using hlower.trans hbits
        · rw [hupper, hlower]
      | succ i => exact hplaced i other hother

lemma field?_eq_some_iff {p : PackedLayout} (h : (p.fields.map PackedField.name).Nodup) {name : FieldName}
    {f : PackedField} : p.field? name = some f ↔ .field f ∈ p.members ∧ f.name = name := by
  have hnodup : (p.fields.reverse.map PackedField.name).Nodup := by
    rw [List.map_reverse]
    exact List.nodup_reverse.mpr h
  have hmem : f ∈ p.fields ↔ .field f ∈ p.members := by
    rw [fields, List.mem_filterMap]
    constructor
    · rintro ⟨m, hm, hf⟩
      cases m with
      | field g => cases hf; exact hm
      | padding range position => cases hf
    · exact fun hm => ⟨_, hm, rfl⟩
  rw [field?, find?_eq_some_iff_of_nodup hnodup, List.mem_reverse, hmem]

/-- Placing members that have widths and names of their own gives them a partition of the bits, and so does the descent
from the uppermost bit. -/
theorem place_divides (specs : List PackedSpec) (hwidths : ∀ spec ∈ specs, 0 < spec.width)
    (hnames : (specs.filterMap PackedSpec.name?).Nodup) :
    ∃ p, place specs = .ok p ∧ p.Divides specs ∧
      ∃ d, Descent.run specs = .ok d ∧ d.cursor = 0 ∧ d.members = p.members ∧ ∀ name, d.field? name = p.field? name := by
  obtain ⟨p, hp, hstack, hforall⟩ := exists_place hwidths
  obtain ⟨q, hq, hbits, hplaced⟩ := exists_lower hwidths
  obtain rfl : p = q := Except.ok.inj (hp.symm.trans hq)
  have hfields := names_placed hforall
  have hnodup : (p.fields.map PackedField.name).Nodup := by
    rw [fields, hfields]
    exact hnames
  obtain ⟨_, d, hplace, hdescent⟩ | ⟨hfails, -⟩ := Descent.run_agrees specs
  rotate_left
  · cases hp.symm.trans hfails
  obtain rfl := Except.ok.inj (hplace.symm.trans hp)
  refine ⟨_, hp, ⟨hforall.length_eq.symm, hbits, ?_, hstack.upper_lt, ?_, ?_, ?_, ?_, ?_, ?_⟩, d, hdescent⟩
  · intro i spec hspec
    obtain ⟨range, hm, hlower, hupper⟩ := hplaced i spec hspec
    exact ⟨range, hm, hlower, by omega⟩
  · intro n hn
    obtain ⟨m, hm, hcontains⟩ := (hstack.covers n).mp hn
    obtain ⟨i, hi⟩ := List.mem_iff_getElem?.mp hm
    refine ⟨i, ⟨m, hi, hcontains⟩, ?_⟩
    rintro j ⟨other, hj, hother⟩
    rw [Interval.contains_iff] at hcontains hother
    rcases Nat.lt_trichotomy i j with hlt | heq | hlt
    · have := hstack.apart hi hj hlt
      omega
    · exact heq.symm
    · have := hstack.apart hj hi hlt
      omega
  · intro i j m n hne hi hj
    rw [Bool.eq_false_iff, ne_eq, Interval.overlaps_iff]
    rintro ⟨k, hm, hn⟩
    rw [Interval.contains_iff] at hm hn
    rcases Nat.lt_or_gt_of_ne hne with hlt | hlt
    · have := hstack.apart hi hj hlt
      omega
    · have := hstack.apart hj hi hlt
      omega
  · intro m hm
    rw [ascending, List.head?_reverse] at hm
    exact hstack.lower_getLast m hm
  · rw [ascending, List.isChain_reverse]
    exact hstack.isChain
  · intro i name type width position hspec
    obtain ⟨range, hm, -, -⟩ := hplaced i _ hspec
    exact ⟨_, hm, (field?_eq_some_iff hnodup).mpr ⟨List.mem_of_getElem? hm, rfl⟩⟩
  · intro name hname
    rw [Option.eq_none_iff_forall_ne_some]
    intro f hf
    obtain ⟨hm, rfl⟩ := (field?_eq_some_iff hnodup).mp hf
    rw [← hfields] at hname
    exact hname (List.mem_map_of_mem (List.mem_filterMap.mpr ⟨_, hm, rfl⟩))

def flaggedCount : List PackedSpec :=
  [.field ⟨"flag", by decide +kernel⟩ (.integer .unsigned 1) 1 default, .padding 3 default,
    .field ⟨"count", by decide +kernel⟩ (.integer .signed 12) 12 default]

theorem flaggedCount_divides :
    (∀ spec ∈ flaggedCount, 0 < spec.width) ∧ (flaggedCount.filterMap PackedSpec.name?).Nodup ∧
      ∃ p, place flaggedCount = .ok p ∧ p.Divides flaggedCount ∧ ∃ d, Descent.run flaggedCount = .ok d ∧
        d.cursor = 0 ∧ d.members = p.members ∧ ∀ name, d.field? name = p.field? name :=
  have hwidths : ∀ spec ∈ flaggedCount, 0 < spec.width := by decide
  have hnames : (flaggedCount.filterMap PackedSpec.name?).Nodup := by decide
  ⟨hwidths, hnames, place_divides flaggedCount hwidths hnames⟩

end PackedLayout

end RecordSchema
