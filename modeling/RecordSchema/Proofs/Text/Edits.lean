import RecordSchema.Text.EditDistance
import Mathlib.Data.List.Basic
import Mathlib.Tactic.Common

/-! The edit distance of two texts is the length of the shortest script that turns the one into the other. -/

namespace RecordSchema.Text

inductive Change where
  | insert (c : Char)
  | delete
  | substitute (c : Char)
deriving DecidableEq, Repr

def Change.inFront? : Change → List Char → Option (List Char)
  | insert c, text => some (c :: text)
  | delete, _ :: text => some text
  | substitute c, _ :: text => some (c :: text)
  | delete, [] | substitute _, [] => none

def Change.at? (change : Change) : Nat → List Char → Option (List Char)
  | 0, text => change.inFront? text
  | place + 1, c :: text => (change.at? place text).map (c :: ·)
  | _ + 1, [] => none

structure Edit where
  place : Nat
  change : Change
deriving DecidableEq, Repr

def Edit.result? (e : Edit) (text : List Char) : Option (List Char) :=
  e.change.at? e.place text

def edited? (script : List Edit) (text : List Char) : Option (List Char) :=
  script.foldlM (fun text e => e.result? text) text

variable {source target text text' : List Char} {script script' : List Edit}

lemma distanceRow_cons (source : List Char) (d : Char) (target : List Char) :
    distanceRow source (d :: target) = editDistance source (d :: target) :: distanceRow source target := by
  induction source with
  | nil => rfl
  | cons c source ih =>
    rw [editDistance, distanceRow, ih]
    rfl

@[simp] lemma editDistance_nil_left (target : List Char) : editDistance [] target = target.length := by
  cases target <;> rfl

@[simp] lemma editDistance_nil_right (source : List Char) : editDistance source [] = source.length := by
  have hrow : distanceRow source [] = [source.length] := by
    induction source with
    | nil => rfl
    | cons c source ih => rw [distanceRow, extendRow, ih, List.map_singleton, List.length_cons]
  rw [editDistance, hrow, List.headD_cons]

lemma editDistance_cons_cons (c d : Char) (source target : List Char) :
    editDistance (c :: source) (d :: target) =
      min (min (editDistance source (d :: target) + 1) (editDistance (c :: source) target + 1))
        (editDistance source target + if c = d then 0 else 1) := by
  rw [editDistance, distanceRow, distanceRow_cons, extendRow]
  rfl

lemma editDistance_cons_cons_eq (c d : Char) (source target : List Char) :
    editDistance (c :: source) (d :: target) = editDistance source (d :: target) + 1 ∨
    editDistance (c :: source) (d :: target) = editDistance (c :: source) target + 1 ∨
    editDistance (c :: source) (d :: target) = editDistance source target + if c = d then 0 else 1 := by
  rw [editDistance_cons_cons]
  omega

lemma editDistance_self (text : List Char) : editDistance text text = 0 := by
  induction text with
  | nil => rfl
  | cons c text ih => simp [editDistance_cons_cons, ih]

lemma editDistance_comm (source target : List Char) : editDistance source target = editDistance target source := by
  induction source generalizing target with
  | nil => simp
  | cons c source ih =>
    induction target with
    | nil => simp
    | cons d target ih' =>
      rw [editDistance_cons_cons, editDistance_cons_cons, ih, ih, ih', Nat.min_comm (editDistance (d :: target) source + 1)]
      simp only [eq_comm]

lemma editDistance_cons_left_le (c : Char) (source target : List Char) :
    editDistance (c :: source) target ≤ editDistance source target + 1 := by
  cases target with
  | nil => simp
  | cons d target =>
    rw [editDistance_cons_cons]
    omega

lemma editDistance_le_cons_left (c : Char) (source target : List Char) :
    editDistance source target ≤ editDistance (c :: source) target + 1 := by
  induction target with
  | nil => simp; omega
  | cons d target ih =>
    have hinsert := editDistance_cons_left_le d target source
    rw [editDistance_comm, editDistance_comm target] at hinsert
    rw [editDistance_cons_cons]
    omega

lemma editDistance_cons_left_mono (c : Char) (h : ∀ target, editDistance text target ≤ editDistance text' target + 1)
    (target : List Char) : editDistance (c :: text) target ≤ editDistance (c :: text') target + 1 := by
  induction target with
  | nil => simpa using h []
  | cons d target ih =>
    have hskip := h (d :: target)
    have hmatch := h target
    rw [editDistance_cons_cons, editDistance_cons_cons]
    omega

lemma editDistance_substitute_le (c d : Char) (source target : List Char) :
    editDistance (c :: source) target ≤ editDistance (d :: source) target + 1 := by
  induction target with
  | nil => simp
  | cons t target ih =>
    rw [editDistance_cons_cons, editDistance_cons_cons]
    split <;> omega

lemma editDistance_le_of_edit {e : Edit} (h : e.result? text = some text') (target : List Char) :
    editDistance text target ≤ editDistance text' target + 1 := by
  obtain ⟨place, change⟩ := e
  rw [Edit.result?] at h
  induction place generalizing text text' target with
  | zero =>
    cases change with
    | insert c =>
      obtain rfl := Option.some.inj h
      exact editDistance_le_cons_left c text target
    | delete =>
      cases text with
      | nil => cases h
      | cons c text =>
        obtain rfl := Option.some.inj h
        exact editDistance_cons_left_le c text target
    | substitute c =>
      cases text with
      | nil => cases h
      | cons d text =>
        obtain rfl := Option.some.inj h
        exact editDistance_substitute_le d c text target
  | succ place ih =>
    cases text with
    | nil => cases h
    | cons c text =>
      obtain ⟨rest, hrest, rfl⟩ := Option.map_eq_some_iff.mp h
      exact editDistance_cons_left_mono c (fun target => ih target hrest) target

lemma editDistance_le_length (h : edited? script source = some target) : editDistance source target ≤ script.length := by
  induction script generalizing source with
  | nil =>
    cases h
    rw [editDistance_self]
    exact Nat.zero_le _
  | cons e script ih =>
    obtain ⟨text, he, hrest⟩ := Option.bind_eq_some_iff.mp h
    have hstep := editDistance_le_of_edit he target
    have hle := ih hrest
    rw [List.length_cons]
    omega

lemma edited?_cons {e : Edit} (he : e.result? source = some text) (h : edited? script text = some target) :
    edited? (e :: script) source = some target := by
  rw [edited?, List.foldlM_cons, he]
  exact h

def Edit.shift (e : Edit) : Edit :=
  ⟨e.place + 1, e.change⟩

lemma edited?_shift (c : Char) (h : edited? script source = some target) :
    edited? (script.map Edit.shift) (c :: source) = some (c :: target) := by
  induction script generalizing source with
  | nil =>
    cases h
    rfl
  | cons e script ih =>
    obtain ⟨text, he, hrest⟩ := Option.bind_eq_some_iff.mp h
    have hshift : e.shift.result? (c :: source) = some (c :: text) := Option.map_eq_some_iff.mpr ⟨text, he, rfl⟩
    exact edited?_cons hshift (ih hrest)

lemma exists_script (source target : List Char) :
    ∃ script, edited? script source = some target ∧ script.length = editDistance source target := by
  induction source generalizing target with
  | nil =>
    induction target with
    | nil => exact ⟨[], rfl, rfl⟩
    | cons d target ih =>
      obtain ⟨script, hscript, hlength⟩ := ih
      -- The rest is written first, then its first character is put in front.
      refine ⟨⟨0, .insert d⟩ :: script.map Edit.shift, edited?_cons rfl (edited?_shift d hscript), ?_⟩
      simpa using hlength
  | cons c source ih =>
    induction target with
    | nil =>
      obtain ⟨script, hscript, hlength⟩ := ih []
      refine ⟨⟨0, .delete⟩ :: script, edited?_cons rfl hscript, ?_⟩
      simpa using hlength
    | cons d target ih' =>
      rcases editDistance_cons_cons_eq c d source target with hdistance | hdistance | hdistance
      · obtain ⟨script, hscript, hlength⟩ := ih (d :: target)
        refine ⟨⟨0, .delete⟩ :: script, edited?_cons rfl hscript, ?_⟩
        rw [hdistance, List.length_cons, hlength]
      · obtain ⟨script, hscript, hlength⟩ := ih'
        refine ⟨⟨0, .insert d⟩ :: script.map Edit.shift, edited?_cons rfl (edited?_shift d hscript), ?_⟩
        rw [hdistance, List.length_cons, List.length_map, hlength]
      · obtain ⟨script, hscript, hlength⟩ := ih target
        by_cases heq : c = d
        · subst heq
          refine ⟨script.map Edit.shift, edited?_shift c hscript, ?_⟩
          rw [hdistance, if_pos rfl, Nat.add_zero, List.length_map, hlength]
        · refine ⟨⟨0, .substitute d⟩ :: script.map Edit.shift, edited?_cons rfl (edited?_shift d hscript), ?_⟩
          rw [hdistance, if_neg heq, List.length_cons, List.length_map, hlength]

lemma edited?_append (h : edited? script source = some text) (h' : edited? script' text = some target) :
    edited? (script ++ script') source = some target := by
  rw [edited?] at h
  rw [edited?, List.foldlM_append, h]
  exact h'

lemma editDistance_triangle (source text target : List Char) :
    editDistance source target ≤ editDistance source text + editDistance text target := by
  obtain ⟨script, hscript, hlength⟩ := exists_script source text
  obtain ⟨script', hscript', hlength'⟩ := exists_script text target
  have hle := editDistance_le_length (edited?_append hscript hscript')
  rwa [List.length_append, hlength, hlength'] at hle

lemma editDistance_eq_zero_iff : editDistance source target = 0 ↔ source = target := by
  constructor
  · intro h
    obtain ⟨script, hscript, hlength⟩ := exists_script source target
    rw [h, List.length_eq_zero_iff] at hlength
    subst hlength
    exact Option.some.inj hscript
  · rintro rfl
    exact editDistance_self source

lemma editDistance_cons_self (c : Char) (source target : List Char) :
    editDistance (c :: source) (c :: target) = editDistance source target := by
  have hdelete := editDistance_le_cons_left c source target
  have hinsert := editDistance_le_cons_left c target source
  rw [editDistance_comm, editDistance_comm (c :: target)] at hinsert
  rw [editDistance_cons_cons, if_pos rfl]
  omega

lemma editDistance_append_left (start source target : List Char) :
    editDistance (start ++ source) (start ++ target) = editDistance source target := by
  induction start with
  | nil => rfl
  | cons c start ih => rw [List.cons_append, List.cons_append, editDistance_cons_self, ih]

lemma min_exchange (a b c a' b' c' a'' b'' c'' k l : Nat) :
    min (min (min (min (a + 1) (b + 1)) (c + l) + 1) (min (min (a' + 1) (b' + 1)) (c' + l) + 1))
        (min (min (a'' + 1) (b'' + 1)) (c'' + l) + k) =
      min (min (min (min (a + 1) (a' + 1)) (a'' + k) + 1) (min (min (b + 1) (b' + 1)) (b'' + k) + 1))
        (min (min (c + 1) (c' + 1)) (c'' + k) + l) := by
  simp only [← Nat.add_min_add_right]
  ac_rfl

lemma editDistance_concat_concat (c d : Char) (source target : List Char) :
    editDistance (source ++ [c]) (target ++ [d]) =
      min (min (editDistance source (target ++ [d]) + 1) (editDistance (source ++ [c]) target + 1))
        (editDistance source target + if c = d then 0 else 1) := by
  induction source generalizing target with
  | nil =>
    induction target with
    | nil => simp [editDistance_cons_cons]
    | cons t target ih =>
      simp only [List.nil_append, editDistance_nil_left, List.cons_append, editDistance_cons_cons, List.length_cons,
        List.length_append, List.length_nil] at ih ⊢
      rw [ih]
      omega
  | cons s source ih =>
    induction target with
    | nil =>
      have hrest := ih []
      simp only [List.nil_append, List.cons_append, editDistance_cons_cons, editDistance_nil_right, List.length_cons,
        List.length_append, List.length_nil] at hrest ⊢
      rw [hrest]
      omega
    | cons t target ih' =>
      have hsource := ih (t :: target)
      rw [List.cons_append] at hsource ih'
      rw [List.cons_append, List.cons_append, editDistance_cons_cons, hsource, ih', ih target,
        editDistance_cons_cons s t source (target ++ [d]), editDistance_cons_cons s t (source ++ [c]) target,
        editDistance_cons_cons s t source target, min_exchange]

/-- A table of distances, filled in from the ends of two texts: its cells stand for the first characters of the one
and of the other. -/
structure Fills (source target : List Char) (cell : Nat → Nat → Nat) : Prop where
  first_row : ∀ j ≤ target.length, cell 0 j = j
  first_column : ∀ i ≤ source.length, cell i 0 = i
  next : ∀ i j (hi : i < source.length) (hj : j < target.length), cell (i + 1) (j + 1) =
    min (min (cell i (j + 1) + 1) (cell (i + 1) j + 1)) (cell i j + if source[i] = target[j] then 0 else 1)

lemma fills_iff {cell : Nat → Nat → Nat} : Fills source target cell ↔
    ∀ i ≤ source.length, ∀ j ≤ target.length, cell i j = editDistance (source.take i) (target.take j) := by
  constructor
  · intro h i hi j hj
    induction i generalizing j with
    | zero => simp [h.first_row j hj, hj]
    | succ i ih =>
      induction j with
      | zero => simp [h.first_column (i + 1) hi, hi]
      | succ j ih' =>
        rw [h.next i j hi hj, ih (by omega) _ hj, ih' (by omega), ih (by omega) _ (by omega),
          List.take_succ_eq_append_getElem hi, List.take_succ_eq_append_getElem hj, editDistance_concat_concat]
  · intro h
    refine ⟨fun j hj => ?_, fun i hi => ?_, fun i j hi hj => ?_⟩
    · simp [h 0 (Nat.zero_le _) j hj, hj]
    · simp [h i hi 0 (Nat.zero_le _), hi]
    · rw [h _ hi _ hj, h _ (Nat.le_of_lt hi) _ hj, h _ hi _ (Nat.le_of_lt hj), h _ (Nat.le_of_lt hi) _ (Nat.le_of_lt hj),
        List.take_succ_eq_append_getElem hi, List.take_succ_eq_append_getElem hj, editDistance_concat_concat]

/-- The distance of two texts is the length of a script that turns the one into the other, and no script is shorter.
It is none only between equal texts, goes both ways, is no longer than the way by a third text, and is the same behind
any common beginning. A table is filled in from the ends of the texts exactly if its cells are the distances of their
beginnings. -/
theorem editDistance_least (source target : List Char) :
    (∃ script, edited? script source = some target ∧ script.length = editDistance source target) ∧
    (∀ script, edited? script source = some target → editDistance source target ≤ script.length) ∧
    (editDistance source target = 0 ↔ source = target) ∧
    editDistance source target = editDistance target source ∧
    (∀ text, editDistance source target ≤ editDistance source text + editDistance text target) ∧
    (∀ start, editDistance (start ++ source) (start ++ target) = editDistance source target) ∧
    ∀ cell, Fills source target cell ↔
      ∀ i ≤ source.length, ∀ j ≤ target.length, cell i j = editDistance (source.take i) (target.take j) :=
  ⟨exists_script source target, fun _ h => editDistance_le_length h, editDistance_eq_zero_iff,
    editDistance_comm source target, fun text => editDistance_triangle source text target,
    fun start => editDistance_append_left start source target, fun _ => fills_iff⟩

example : editDistance "kitten".toList "sitting".toList = 3 := by decide

end RecordSchema.Text
