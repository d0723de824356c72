import RecordSchema.Proofs.Check.Declaration

namespace RecordSchema

namespace PackedSpec

def total (specs : List PackedSpec) : Nat :=
  (specs.map width).sum

@[simp] lemma total_nil : total [] = 0 := rfl

@[simp] lemma total_cons (spec : PackedSpec) (later : List PackedSpec) :
    total (spec :: later) = spec.width + total later := by
  simp [total]

end PackedSpec

/-- Members that are placed from the uppermost bit downwards, as far as to `cursor`, and where among them each field is
that has been placed. -/
structure Descent where
  cursor : Nat
  members : List PackedMember := []
  index : FieldName → Option Nat := fun _ => none

namespace Descent

inductive Alarm where
  | fault (fault : Fault)
  | belowZero
deriving DecidableEq

def subtract (m n : Nat) : Except Alarm Nat :=
  if n ≤ m then .ok (m - n) else .error .belowZero

def step (d : Descent) (spec : PackedSpec) : Except Alarm Descent := do
  if spec.width = 0 then .error (.fault .zeroWidth)
  else
    let upper ← subtract d.cursor 1
    let lower ← subtract d.cursor spec.width
    let range ← (BitRange.ofBounds lower upper).mapError .fault
    .ok {
      cursor := lower
      members := d.members ++ [spec.place range]
      index := fun name => if spec.name? = some name then some d.members.length else d.index name }

def run (specs : List PackedSpec) : Except Alarm Descent :=
  specs.foldlM step { cursor := PackedSpec.total specs }

def field? (d : Descent) (name : FieldName) : Option PackedField := do
  let i ← d.index name
  let m ← d.members[i]?
  m.field?

structure Indexed (d : Descent) : Prop where
  lt_length : ∀ name i, d.index name = some i → i < d.members.length
  field?_eq : ∀ name, d.field? name = PackedLayout.field? ⟨d.members, d.cursor⟩ name

variable {d d' : Descent} {spec : PackedSpec} {specs : List PackedSpec}

lemma step_of_zero (h : spec.width = 0) : d.step spec = .error (.fault .zeroWidth) :=
  if_pos h

lemma step_of_pos (hpos : 0 < spec.width) (hle : spec.width ≤ d.cursor) : ∃ range : BitRange,
    range.lower = d.cursor - spec.width ∧ range.upper = d.cursor - 1 ∧ d.step spec = .ok ⟨d.cursor - spec.width,
      d.members ++ [spec.place range],
      fun name => if spec.name? = some name then some d.members.length else d.index name⟩ := by
  have hbounds : d.cursor - spec.width ≤ d.cursor - 1 := by omega
  refine ⟨⟨_, _, hbounds⟩, rfl, rfl, ?_⟩
  have hone : subtract d.cursor 1 = .ok (d.cursor - 1) := if_pos (by omega)
  have hwidth : subtract d.cursor spec.width = .ok (d.cursor - spec.width) := if_pos hle
  rw [step, if_neg (Nat.ne_of_gt hpos), hone, hwidth]
  simp only [bind, Except.bind, BitRange.ofBounds, dif_pos hbounds, Except.mapError]

lemma Indexed.empty {cursor : Nat} : Indexed ⟨cursor, [], fun _ => none⟩ :=
  ⟨nofun, fun _ => rfl⟩

lemma field?_place (spec : PackedSpec) (range : BitRange) : (spec.place range).field?.map PackedField.name = spec.name? := by
  cases spec <;> rfl

lemma Indexed.step (hd : d.Indexed) (cursor : Nat) (range : BitRange) : Indexed ⟨cursor, d.members ++ [spec.place range],
    fun name => if spec.name? = some name then some d.members.length else d.index name⟩ where
  lt_length name i h := by
    rw [List.length_append, List.length_singleton]
    dsimp only at h
    split at h
    · cases h
      exact Nat.lt_succ_self _
    · exact Nat.lt_succ_of_lt (hd.lt_length name i h)
  field?_eq name := by
    have hname := field?_place spec range
    have hbefore := hd.field?_eq name
    unfold Descent.field? PackedLayout.field? PackedLayout.fields at hbefore ⊢
    rw [List.filterMap_append, List.reverse_append, List.find?_append]
    dsimp only
    by_cases hfound : spec.name? = some name
    · obtain ⟨f, hf, rfl⟩ := Option.map_eq_some_iff.mp (hname.trans hfound)
      simp [hfound, hf]
    · have hskipped : (List.filterMap PackedMember.field? [spec.place range]).reverse.find? (·.name = name) = none := by
        rw [List.find?_eq_none]
        rintro f hf hsame
        obtain ⟨m, hm, hfield⟩ := List.mem_filterMap.mp (List.mem_reverse.mp hf)
        rw [List.mem_singleton.mp hm] at hfield
        rw [hfield] at hname
        exact hfound (hname.symm.trans (congrArg some (of_decide_eq_true hsame)))
      rw [if_neg hfound, hskipped, Option.none_or, ← hbefore]
      cases hindex : d.index name with
      | none => rfl
      | some i =>
        simp only [Option.bind_eq_bind, Option.bind_some, List.getElem?_append_left (hd.lt_length name i hindex)]

lemma foldlM_step : ∀ (specs : List PackedSpec) (d : Descent), d.cursor = PackedSpec.total specs → d.Indexed →
    (∃ p d', PackedLayout.place specs = .ok p ∧ p.bits = PackedSpec.total specs ∧ specs.foldlM step d = .ok d' ∧
      d'.cursor = 0 ∧ d'.members = d.members ++ p.members ∧ d'.Indexed) ∨
    (PackedLayout.place specs = .error .zeroWidth ∧ specs.foldlM step d = .error (.fault .zeroWidth))
  | [], d, hcursor, hd => .inl ⟨⟨[], 0⟩, d, rfl, rfl, rfl, hcursor, (List.append_nil _).symm, hd⟩
  | spec :: later, d, hcursor, hd => by
    rw [PackedSpec.total_cons] at hcursor
    rw [List.foldlM_cons]
    rcases Nat.eq_zero_or_pos spec.width with hzero | hpos
    · refine .inr ⟨?_, by rw [step_of_zero hzero]; rfl⟩
      obtain ⟨below, -, hbelow, -⟩ | ⟨hbelow, -⟩ := foldlM_step later ⟨_, [], fun _ => none⟩ rfl .empty
      · rw [PackedLayout.place, hbelow]
        exact if_pos hzero
      · rw [PackedLayout.place, hbelow]
        rfl
    · obtain ⟨range, hlower, hupper, hstep⟩ := step_of_pos hpos (d := d) (by omega)
      have hnext : d.cursor - spec.width = PackedSpec.total later := by omega
      rw [hstep]
      obtain ⟨below, d', hbelow, hbits, hrun, hends, hmembers, hindexed⟩ | ⟨hbelow, hrun⟩ :=
        foldlM_step later _ hnext (hd.step _ range)
      · obtain ⟨range', hlower', hupper', hplace⟩ := PackedLayout.place_cons spec hbelow hpos
        have hrange : range' = range := Interval.ext (by omega) (by omega)
        subst hrange
        refine .inl ⟨_, d', hplace, ?_, hrun, hends, ?_, hindexed⟩
        · rw [PackedSpec.total_cons, ← hbits, Nat.add_comm]
        · rw [hmembers, List.append_assoc]
          rfl
      · refine .inr ⟨?_, hrun⟩
        rw [PackedLayout.place, hbelow]
        rfl

theorem run_agrees (specs : List PackedSpec) :
    (∃ p d, PackedLayout.place specs = .ok p ∧ run specs = .ok d ∧ d.cursor = 0 ∧ d.members = p.members ∧
      ∀ name, d.field? name = p.field? name) ∨
    (PackedLayout.place specs = .error .zeroWidth ∧ run specs = .error (.fault .zeroWidth)) := by
  obtain ⟨p, d, hplace, -, hrun, hends, hmembers, hindexed⟩ | hfails := foldlM_step specs ⟨_, [], fun _ => none⟩ rfl .empty
  · rw [List.nil_append] at hmembers
    refine .inl ⟨p, d, hplace, hrun, hends, hmembers, fun name => ?_⟩
    rw [hindexed.field?_eq, hmembers]
    rfl
  · exact .inr hfails

end Descent

end RecordSchema
