import RecordSchema.Proofs.Collection.Exchange
import RecordSchema.Proofs.Resolution.Bound
import Mathlib.Logic.Function.Basic

namespace RecordSchema

namespace OneToOne

variable {κ ν : Type} {m m' : OneToOne κ ν} {k : κ} {v : ν}

lemma key?_eq_some_iff [DecidableEq ν] : m.key? v = some k ↔ (k, v) ∈ m.pairs := by
  have hfind := fun entry : κ × ν => find?_eq_some_iff_of_nodup (x := entry) (k := v) m.values_nodup
  rw [key?, Option.map_eq_some_iff]
  constructor
  · rintro ⟨⟨k', v'⟩, hentry, rfl⟩
    obtain ⟨hmem, rfl⟩ := (hfind _).mp hentry
    exact hmem
  · intro hmem
    exact ⟨(k, v), (hfind _).mpr ⟨hmem, rfl⟩, rfl⟩

lemma isSome_value?_iff [DecidableEq κ] : (m.value? k).isSome ↔ k ∈ m.keys := by
  rw [← not_iff_not, Option.not_isSome_iff_eq_none, value?_eq_none_iff]

lemma isSome_key?_iff [DecidableEq ν] : (m.key? v).isSome ↔ v ∈ m.values := by
  rw [← not_iff_not, Option.not_isSome_iff_eq_none, key?_eq_none_iff]

variable [DecidableEq κ] [DecidableEq ν]

lemma value?_iff_key? : m.value? k = some v ↔ m.key? v = some k :=
  value?_eq_some_iff.trans key?_eq_some_iff.symm

lemma insert_eq_key_iff : m.insert k v = .error .key ↔ (m.value? k).isSome := by
  rw [isSome_value?_iff, insert]
  split
  · next hk => exact iff_of_true rfl hk
  · next hk =>
    refine iff_of_false ?_ hk
    split <;> rintro ⟨⟩

lemma insert_eq_value_iff : m.insert k v = .error .value ↔ m.value? k = none ∧ (m.key? v).isSome := by
  rw [isSome_key?_iff, value?_eq_none_iff, insert]
  split
  · next hk => exact iff_of_false (by rintro ⟨⟩) fun h => h.1 hk
  · next hk =>
    split
    · next hv => exact iff_of_true rfl ⟨hk, hv⟩
    · next hv => exact iff_of_false (by rintro ⟨⟩) fun h => hv h.2

structure Tables (κ ν : Type) where
  forward : κ → Option ν := fun _ => none
  inverse : ν → Option κ := fun _ => none

def Tables.offer (t : Tables κ ν) (pair : κ × ν) : Option Conflict × Tables κ ν :=
  if (t.forward pair.1).isSome then (some .key, t)
  else if (t.inverse pair.2).isSome then (some .value, t)
  else
    let t := { t with forward := Function.update t.forward pair.1 (some pair.2) }
    let t := { t with inverse := Function.update t.inverse pair.2 (some pair.1) }
    (none, t)

def offer (m : OneToOne κ ν) (pair : κ × ν) : Option Conflict × OneToOne κ ν :=
  match m.insert pair.1 pair.2 with
  | .ok m' => (none, m')
  | .error conflict => (some conflict, m)

def tables (m : OneToOne κ ν) : Tables κ ν :=
  ⟨m.value?, m.key?⟩

lemma tables_insert (h : m.insert k v = .ok m') :
    m'.tables = ⟨Function.update m.value? k (some v), Function.update m.key? v (some k)⟩ := by
  have hpairs := pairs_insert h
  rw [tables]
  congr 1
  · funext k'
    by_cases heq : k' = k
    · subst heq
      rw [Function.update_self, value?_eq_some_iff, hpairs]
      simp
    · rw [Function.update_of_ne heq, value?, value?, hpairs, List.find?_append, List.find?_singleton]
      simp [Ne.symm heq]
  · funext v'
    by_cases heq : v' = v
    · subst heq
      rw [Function.update_self, key?_eq_some_iff, hpairs]
      simp
    · rw [Function.update_of_ne heq, key?, key?, hpairs, List.find?_append, List.find?_singleton]
      simp [Ne.symm heq]

/-- The two directions agree. A pair is refused exactly if a side of it is bound, for its key if that is, and then nothing
changes; otherwise nothing changes but what is bound to its two sides. -/
structure InSync (m : OneToOne κ ν) : Prop where
  mutual_iff : ∀ k v, m.value? k = some v ↔ m.key? v = some k
  key_iff : ∀ k v, m.insert k v = .error .key ↔ (m.value? k).isSome
  value_iff : ∀ k v, m.insert k v = .error .value ↔ m.value? k = none ∧ (m.key? v).isSome
  refused : ∀ k v conflict, m.insert k v = .error conflict → (m.offer (k, v)).2.tables = m.tables
  taken : ∀ k v m', m.insert k v = .ok m' →
    m'.value? = Function.update m.value? k (some v) ∧ m'.key? = Function.update m.key? v (some k)

lemma inSync (m : OneToOne κ ν) : m.InSync where
  mutual_iff _ _ := value?_iff_key?
  key_iff _ _ := insert_eq_key_iff
  value_iff _ _ := insert_eq_value_iff
  refused k v conflict h := by rw [offer, h]
  taken k v m' h := by
    have htables := tables_insert h
    exact ⟨congrArg Tables.forward htables, congrArg Tables.inverse htables⟩

lemma offer_tables (m : OneToOne κ ν) (pair : κ × ν) :
    m.tables.offer pair = ((m.offer pair).1, (m.offer pair).2.tables) := by
  obtain ⟨k, v⟩ := pair
  rw [offer, Tables.offer]
  cases h : m.insert k v with
  | error conflict =>
    cases conflict with
    | key => exact if_pos (insert_eq_key_iff.mp h)
    | value =>
      obtain ⟨hk, hv⟩ := insert_eq_value_iff.mp h
      have hk : ¬ (m.value? k).isSome := Option.not_isSome_iff_eq_none.mpr hk
      exact (if_neg hk).trans (if_pos hv)
  | ok m' =>
    have hk : ¬ (m.value? k).isSome := by
      intro hk
      cases h.symm.trans (insert_eq_key_iff.mpr hk)
    have hv : ¬ (m.key? v).isSome := by
      intro hv
      cases h.symm.trans (insert_eq_value_iff.mpr ⟨Option.not_isSome_iff_eq_none.mp hk, hv⟩)
    rw [tables_insert h]
    exact (if_neg hk).trans (if_neg hv)

lemma exchange_tables (pairs : List (κ × ν)) :
    (exchange offer (empty : OneToOne κ ν) pairs).1 = (exchange Tables.offer {} pairs).1 ∧
    (exchange offer (empty : OneToOne κ ν) pairs).2.tables = (exchange Tables.offer {} pairs).2 := by
  apply exchange_alike (R := fun (m : OneToOne κ ν) t => m.tables = t) _ rfl
  rintro m _ pair rfl
  rw [offer_tables]
  exact ⟨rfl, rfl⟩

example : (exchange offer (empty : OneToOne String Nat) [("a", 1), ("a", 2), ("b", 1), ("b", 2)]).1.map Prod.snd =
    [none, some .key, some .value, none] := by
  decide

end OneToOne

end RecordSchema
