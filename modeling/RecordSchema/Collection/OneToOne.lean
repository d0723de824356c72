namespace RecordSchema

structure OneToOne (κ ν : Type) where
  pairs : List (κ × ν)
  keys_nodup : (pairs.map Prod.fst).Nodup
  values_nodup : (pairs.map Prod.snd).Nodup
deriving Repr, DecidableEq

namespace OneToOne

inductive Conflict where
  | key
  | value
deriving DecidableEq, Repr

variable {κ ν : Type}

def empty : OneToOne κ ν := ⟨[], List.Pairwise.nil, List.Pairwise.nil⟩

def keys (m : OneToOne κ ν) : List κ :=
  m.pairs.map Prod.fst

def values (m : OneToOne κ ν) : List ν :=
  m.pairs.map Prod.snd

def value? [DecidableEq κ] (m : OneToOne κ ν) (k : κ) : Option ν :=
  (m.pairs.find? (·.1 = k)).map Prod.snd

def key? [DecidableEq ν] (m : OneToOne κ ν) (v : ν) : Option κ :=
  (m.pairs.find? (·.2 = v)).map Prod.fst

theorem value?_eq_none_iff [DecidableEq κ] {m : OneToOne κ ν} {k : κ} : m.value? k = none ↔ k ∉ m.keys := by
  rw [value?, keys, Option.map_eq_none_iff, List.find?_eq_none, List.mem_map]
  constructor
  · rintro h ⟨entry, he, rfl⟩
    exact h entry he (decide_eq_true rfl)
  · exact fun h entry he heq => h ⟨entry, he, of_decide_eq_true heq⟩

theorem key?_eq_none_iff [DecidableEq ν] {m : OneToOne κ ν} {v : ν} : m.key? v = none ↔ v ∉ m.values := by
  rw [key?, values, Option.map_eq_none_iff, List.find?_eq_none, List.mem_map]
  constructor
  · rintro h ⟨entry, he, rfl⟩
    exact h entry he (decide_eq_true rfl)
  · exact fun h entry he heq => h ⟨entry, he, of_decide_eq_true heq⟩

variable [DecidableEq κ] [DecidableEq ν]

/-- Adds a pair unless one of its sides is bound; a bound key is reported before a bound value. -/
def insert (m : OneToOne κ ν) (k : κ) (v : ν) : Except Conflict (OneToOne κ ν) :=
  if hk : k ∈ m.keys then .error .key
  else if hv : v ∈ m.values then .error .value
  else .ok {
    pairs := m.pairs ++ [(k, v)]
    keys_nodup := by
      have hfresh : ∀ key ∈ m.pairs.map Prod.fst, key ≠ k := fun key hkey heq => hk (heq ▸ hkey)
      simpa [List.nodup_append, m.keys_nodup] using hfresh
    values_nodup := by
      have hfresh : ∀ value ∈ m.pairs.map Prod.snd, value ≠ v := fun value hvalue heq => hv (heq ▸ hvalue)
      simpa [List.nodup_append, m.values_nodup] using hfresh }

theorem pairs_insert {m m' : OneToOne κ ν} {k : κ} {v : ν} (h : m.insert k v = .ok m') :
    m'.pairs = m.pairs ++ [(k, v)] := by
  unfold insert at h
  split at h
  · cases h
  · split at h <;> cases h
    rfl

theorem not_mem_keys_of_insert {m m' : OneToOne κ ν} {k : κ} {v : ν} (h : m.insert k v = .ok m') : k ∉ m.keys := by
  intro hk
  rw [insert, dif_pos hk] at h
  cases h

theorem exists_insert_of_fresh {m : OneToOne κ ν} {k : κ} {v : ν} (hk : k ∉ m.keys) (hv : v ∉ m.values) :
    ∃ m', m.insert k v = .ok m' ∧ m'.pairs = m.pairs ++ [(k, v)] := by
  rw [insert, dif_neg hk, dif_neg hv]
  exact ⟨_, rfl, rfl⟩

end OneToOne

end RecordSchema
