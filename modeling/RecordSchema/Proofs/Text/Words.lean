import RecordSchema.Name.Package
import Mathlib.Data.List.Basic

namespace RecordSchema

namespace Text

variable {separator : Char}

lemma splitOn_append_cons (rest : List Char) : ∀ text : List Char,
    splitOn separator (text ++ separator :: rest) = splitOn separator text ++ splitOn separator rest
  | [] => by simp [splitOn]
  | c :: cs => by
    rw [List.cons_append, splitOn, splitOn, splitOn_append_cons rest cs]
    split
    · rfl
    · cases hwords : splitOn separator cs with
      | nil => exact absurd hwords (splitOn_ne_nil separator cs)
      | cons word words => rfl

lemma splitOn_of_not_mem : ∀ {text : List Char}, separator ∉ text → splitOn separator text = [text]
  | [], _ => rfl
  | c :: cs, h => by
    obtain ⟨hc, hcs⟩ := not_or.mp (mt List.mem_cons.mpr h)
    rw [splitOn, if_neg (Ne.symm hc), splitOn_of_not_mem hcs]

lemma joinWith_cons {separator word : List Char} {rest : List (List Char)} (h : rest ≠ []) :
    joinWith separator (word :: rest) = word ++ separator ++ joinWith separator rest :=
  joinWith.eq_3 separator word rest h

lemma splitOn_joinWith : ∀ {words : List (List Char)}, words ≠ [] → (∀ w ∈ words, separator ∉ w) →
    splitOn separator (joinWith [separator] words) = words
  | [word], _, h => splitOn_of_not_mem (h word List.mem_cons_self)
  | word :: next :: rest, _, h => by
    obtain ⟨hword, hrest⟩ := List.forall_mem_cons.mp h
    have hne : next :: rest ≠ [] := List.cons_ne_nil next rest
    rw [joinWith_cons hne, List.append_assoc, List.singleton_append, splitOn_append_cons,
      splitOn_of_not_mem hword, splitOn_joinWith hne hrest]
    rfl

lemma not_mem_joinWith {c : Char} (hc : c ≠ separator) : ∀ {words : List (List Char)}, (∀ w ∈ words, c ∉ w) →
    c ∉ joinWith [separator] words
  | [], _ => List.not_mem_nil
  | [word], h => h word List.mem_cons_self
  | word :: next :: rest, h => by
    obtain ⟨hword, hrest⟩ := List.forall_mem_cons.mp h
    have hinner := not_mem_joinWith hc hrest
    simp [joinWith, hword, hc, hinner]

lemma joinWith_append_cons (separator first second : List Char) (rest : List (List Char)) :
    joinWith separator ((first ++ separator ++ second) :: rest) = joinWith separator (first :: second :: rest) := by
  cases rest <;> simp [joinWith]

lemma exists_joinWith_concat (separator : List Char) : ∀ front : List (List Char), ∃ before, ∀ w : List Char,
    joinWith separator (front ++ [w]) = before ++ w
  | [] => ⟨[], fun _ => rfl⟩
  | first :: rest => by
    obtain ⟨before, h⟩ := exists_joinWith_concat separator rest
    refine ⟨first ++ separator ++ before, fun w => ?_⟩
    have hne : rest ++ [w] ≠ [] := List.append_ne_nil_of_right_ne_nil rest (List.cons_ne_nil w [])
    rw [List.cons_append, joinWith_cons hne, h w, List.append_assoc _ before]

end Text

lemma Name.ne_of_mem {g : NameGrammar} {d : Char} (hfirst : g.first d = false) (hrest : g.rest d = false)
    (n : Name g) : ∀ c ∈ n.text.toList, c ≠ d := by
  have hvalid := n.valid
  cases htext : n.text.toList with
  | nil => simp
  | cons e es =>
    rw [htext, NameGrammar.accepts, Bool.and_eq_true, List.all_eq_true] at hvalid
    refine List.forall_mem_cons.mpr ⟨?_, fun c hc => ?_⟩
    · rintro rfl
      exact absurd hvalid.1 (by simp [hfirst])
    · rintro rfl
      exact absurd (hvalid.2 c hc) (by simp [hrest])

lemma Name.toList_ne_nil {g : NameGrammar} (n : Name g) : n.text.toList ≠ [] := by
  intro hnil
  have hvalid := n.valid
  rw [hnil] at hvalid
  cases hvalid

namespace PackageName

def words (name : PackageName) : List (List Char) :=
  name.segments.map fun s => s.text.toList

lemma words_ne_nil (name : PackageName) : name.words ≠ [] :=
  mt List.map_eq_nil_iff.mp name.segments_ne_nil

lemma words_injective : Function.Injective words := by
  intro p q h
  refine ext_segments (List.map_injective_iff.mpr (fun s t hst => Name.ext_text ?_) h)
  exact String.ext hst

lemma not_mem_words {c : Char} (hfirst : isLowerLetter c = false) (hrest : isLowerOrDigit c = false)
    (name : PackageName) : ∀ w ∈ name.words, w ≠ [] ∧ c ∉ w := by
  intro w hw
  obtain ⟨s, _, rfl⟩ := List.mem_map.mp hw
  exact ⟨s.toList_ne_nil, fun hc => s.ne_of_mem hfirst hrest c hc rfl⟩

lemma slash_not_mem_words (name : PackageName) : ∀ w ∈ name.words, w ≠ [] ∧ '/' ∉ w :=
  name.not_mem_words (by decide +kernel) (by decide +kernel)

lemma dot_not_mem_words (name : PackageName) : ∀ w ∈ name.words, w ≠ [] ∧ '.' ∉ w :=
  name.not_mem_words (by decide +kernel) (by decide +kernel)

lemma splitOn_chars (name : PackageName) : Text.splitOn '.' name.chars = name.words :=
  Text.splitOn_joinWith name.words_ne_nil fun w hw => (name.dot_not_mem_words w hw).2

lemma chars_injective : Function.Injective chars := by
  intro p q h
  refine words_injective ?_
  rw [← p.splitOn_chars, ← q.splitOn_chars, h]

end PackageName

end RecordSchema
