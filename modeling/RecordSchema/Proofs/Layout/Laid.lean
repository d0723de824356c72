import RecordSchema.Compile.Evaluate
import RecordSchema.Layout.Declaration
import Mathlib.Tactic.Common

namespace RecordSchema

namespace RecordMember

inductive Tile : (start : Nat) → List RecordMember → (stop : Nat) → Prop
  | nil {start : Nat} : Tile start [] start
  | field {name : FieldName} {type : DataType} {start stop : Nat} {p : Position} {rest : List RecordMember}
      (whole : type.bits % 8 = 0) (next : Tile (start + type.bits / 8) rest stop) :
      Tile start (.field ⟨name, type, start, p⟩ :: rest) stop
  | padding {start stop octets : Nat} {p : Position} {rest : List RecordMember}
      (positive : 0 < octets) (next : Tile (start + octets) rest stop) :
      Tile start (.padding start octets p :: rest) stop

end RecordMember

namespace PackedMember

inductive Stack : List PackedMember → (height : Nat) → Prop
  | nil : Stack [] 0
  | cons {m : PackedMember} {rest : List PackedMember} (next : Stack rest m.range.lower) :
      Stack (m :: rest) (m.range.upper + 1)

lemma Stack.upper_lt {members : List PackedMember} {height : Nat} (h : Stack members height) :
    ∀ m ∈ members, m.range.upper < height := by
  induction h with
  | nil => simp
  | @cons m rest _ ih =>
    have hle := m.range.lower_le_upper
    refine List.forall_mem_cons.mpr ⟨Nat.lt_succ_self _, fun n hn => ?_⟩
    have hlt := ih n hn
    omega

end PackedMember

structure RecordLayout.Laid (r : RecordLayout) : Prop where
  tile : RecordMember.Tile 0 r.members r.octets
  names_nodup : (r.fields.map RecordField.name).Nodup

structure PackedLayout.Laid (totals : SizeRanges) (p : PackedLayout) : Prop where
  stack : PackedMember.Stack p.members p.bits
  names_nodup : (p.fields.map PackedField.name).Nodup
  integers : ∀ f ∈ p.fields, f.type.isInteger = true ∧ f.range.width = f.type.bits
  total : p.members ≠ [] → totals.contains p.bits = true

structure UnionLayout.Laid (u : UnionLayout) : Prop where
  cases_ne_nil : u.cases ≠ []
  bits_eq : u.bits = (u.cases.map (·.type.bits)).foldl max 0
  names_nodup : (u.cases.map UnionCase.name).Nodup

namespace Layout

def memberTypes : Layout → List (Placement × DataType)
  | record r => r.fields.map fun f => (.record, f.type)
  | packed p => p.fields.map fun f => (.packed, f.type)
  | union u => u.cases.map fun c => (.record, c.type)

def Laid (totals : SizeRanges) : Layout → Prop
  | record r => r.Laid
  | packed p => p.Laid totals
  | union u => u.Laid

end Layout

namespace Declaration

def memberTypes (d : Declaration) : List (Placement × DataType) :=
  d.layout.memberTypes

lemma mem_memberTypes_of_memberType? {d : Declaration} {name : FieldName} {type : DataType}
    (h : d.memberType? name = some type) : ∃ placement, (placement, type) ∈ d.memberTypes := by
  unfold memberType? at h
  unfold memberTypes Layout.memberTypes
  cases hl : d.layout with
  | record r =>
    rw [hl] at h
    obtain ⟨f, hf, rfl⟩ := Option.map_eq_some_iff.mp h
    refine ⟨.record, List.mem_map.mpr ⟨f, ?_, rfl⟩⟩
    exact List.mem_reverse.mp (List.mem_of_find?_eq_some hf)
  | packed p =>
    rw [hl] at h
    obtain ⟨f, hf, rfl⟩ := Option.map_eq_some_iff.mp h
    refine ⟨.packed, List.mem_map.mpr ⟨f, ?_, rfl⟩⟩
    exact List.mem_reverse.mp (List.mem_of_find?_eq_some hf)
  | union u =>
    rw [hl] at h
    obtain ⟨c, hc, rfl⟩ := Option.map_eq_some_iff.mp h
    exact ⟨.record, List.mem_map.mpr ⟨c, List.mem_of_find?_eq_some hc, rfl⟩⟩

end Declaration

end RecordSchema
