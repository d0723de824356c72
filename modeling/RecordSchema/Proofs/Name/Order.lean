import RecordSchema.Proofs.Schema.Exact
import RecordSchema.Proofs.Text.Words
import Mathlib.Data.String.Basic

/-! Names of packages are in the order of the texts that they are written as. -/

namespace RecordSchema

namespace Text

open Std

lemma compare_eq_lt_iff : ∀ {text text' : List Char}, compare text text' = .lt ↔ text < text'
  | [], [] => by simp
  | [], _ :: _ => by simp
  | _ :: _, [] => by simp
  | c :: text, c' :: text' => by
    rw [List.compare_cons_cons, Ordering.then_eq_lt, List.cons_lt_cons_iff, compare_eq_lt_iff,
      LawfulLTCmp.eq_lt_iff_lt, LawfulEqCmp.compare_eq_iff_eq]

lemma compare_toList (s t : String) : compare s.toList t.toList = compare s t := by
  cases h : compare s.toList t.toList with
  | lt =>
    have hlt : s < t := String.lt_iff_toList_lt.mpr (compare_eq_lt_iff.mp h)
    exact (LawfulLTCmp.eq_lt_iff_lt.mpr hlt).symm
  | eq =>
    have heq : s = t := String.toList_inj.mp (LawfulEqCmp.eq_of_compare h)
    exact (LawfulEqCmp.compare_eq_iff_eq.mpr heq).symm
  | gt =>
    have hgt : t < s := String.lt_iff_toList_lt.mpr (compare_eq_lt_iff.mp (OrientedCmp.gt_iff_lt.mp h))
    exact (LawfulLTCmp.eq_gt_iff_gt.mpr hgt).symm

variable {separator : Char}

lemma joinWith_eq_append (word : List Char) : ∀ rest : List (List Char),
    joinWith [separator] (word :: rest) = word ++ rest.flatMap (separator :: ·)
  | [] => (List.append_nil word).symm
  | next :: rest => by
    rw [joinWith_cons (List.cons_ne_nil next rest), joinWith_eq_append next rest, List.append_assoc]
    rfl

lemma compare_append {text text' : List Char} (htext : ∀ c ∈ text.head?, c = separator)
    (htext' : ∀ c ∈ text'.head?, c = separator) : ∀ {word word' : List Char}, (∀ c ∈ word, separator < c) →
      (∀ c ∈ word', separator < c) →
      compare (word ++ text) (word' ++ text') = (compare word word').then (compare text text')
  | [], [], _, _ => by simp
  | [], c' :: word', _, hword' => by
    cases text with
    | nil => simp
    | cons c text =>
      obtain rfl := htext c rfl
      have hlt : compare c c' = .lt := LawfulLTCmp.eq_lt_iff_lt.mpr (hword' c' List.mem_cons_self)
      simp [hlt]
  | c :: word, [], hword, _ => by
    cases text' with
    | nil => simp
    | cons c' text' =>
      obtain rfl := htext' c' rfl
      have hgt : compare c c' = .gt := LawfulLTCmp.eq_gt_iff_gt.mpr (hword c List.mem_cons_self)
      simp [hgt]
  | c :: word, c' :: word', hword, hword' => by
    have hrest := compare_append htext htext' (List.forall_mem_cons.mp hword).2 (List.forall_mem_cons.mp hword').2
    rw [List.cons_append, List.cons_append, List.compare_cons_cons, List.compare_cons_cons, hrest, Ordering.then_assoc]

lemma head?_flatMap_cons (words : List (List Char)) : ∀ c ∈ (words.flatMap (separator :: ·)).head?, c = separator := by
  cases words with
  | nil => exact nofun
  | cons word words =>
    rintro c ⟨⟩
    rfl

lemma compare_flatMap_cons : ∀ {words words' : List (List Char)}, (∀ w ∈ words, ∀ c ∈ w, separator < c) →
    (∀ w ∈ words', ∀ c ∈ w, separator < c) →
    compare (words.flatMap (separator :: ·)) (words'.flatMap (separator :: ·)) = compare words words'
  | [], [], _, _ => by simp
  | [], _ :: _, _, _ => by simp
  | _ :: _, [], _, _ => by simp
  | word :: words, word' :: words', h, h' => by
    obtain ⟨hword, hwords⟩ := List.forall_mem_cons.mp h
    obtain ⟨hword', hwords'⟩ := List.forall_mem_cons.mp h'
    have hseparator : compare separator separator = .eq := LawfulEqCmp.compare_eq_iff_eq.mpr rfl
    rw [List.flatMap_cons, List.flatMap_cons, List.cons_append, List.cons_append, List.compare_cons_cons, hseparator,
      Ordering.eq_then, compare_append (head?_flatMap_cons words) (head?_flatMap_cons words') hword hword',
      compare_flatMap_cons hwords hwords', List.compare_cons_cons]

lemma compare_joinWith {word word' : List Char} {words words' : List (List Char)}
    (h : ∀ w ∈ word :: words, ∀ c ∈ w, separator < c) (h' : ∀ w ∈ word' :: words', ∀ c ∈ w, separator < c) :
    compare (joinWith [separator] (word :: words)) (joinWith [separator] (word' :: words')) =
      compare (word :: words) (word' :: words') := by
  obtain ⟨hword, hwords⟩ := List.forall_mem_cons.mp h
  obtain ⟨hword', hwords'⟩ := List.forall_mem_cons.mp h'
  rw [joinWith_eq_append, joinWith_eq_append,
    compare_append (head?_flatMap_cons words) (head?_flatMap_cons words') hword hword',
    compare_flatMap_cons hwords hwords', List.compare_cons_cons]

end Text

lemma dot_lt_of_isLowercase {c : Char} (h : Text.isLowercase c = true) : '.' < c := by
  by_contra hlt
  have hle : c.toNat ≤ '.'.toNat := not_lt.mp hlt
  have hbelow : c.toNat < 0x61 := Nat.lt_of_le_of_lt hle (by decide)
  rw [Text.isLowercase, Text.lowercaseRanges, Text.inRanges, if_pos hbelow] at h
  cases h

lemma dot_lt_of_isLowerOrDigit {c : Char} (h : isLowerOrDigit c = true) : '.' < c := by
  rw [isLowerOrDigit, Bool.or_eq_true, Bool.or_eq_true, decide_eq_true_iff] at h
  rcases h with (hletter | hdigit) | rfl
  · exact dot_lt_of_isLowercase (Bool.and_eq_true_iff.mp hletter).1
  · have hzero : '0' ≤ c := (Bool.and_eq_true_iff.mp hdigit).1 |> of_decide_eq_true
    exact lt_of_lt_of_le (by decide) hzero
  · decide

namespace PackageName

lemma dot_lt_of_mem_words (name : PackageName) : ∀ w ∈ name.words, ∀ c ∈ w, '.' < c := by
  intro w hw c hc
  obtain ⟨s, _, rfl⟩ := List.mem_map.mp hw
  have hvalid := s.valid
  cases htext : s.text.toList with
  | nil =>
    rw [htext] at hc
    cases hc
  | cons first rest =>
    rw [htext, NameGrammar.accepts, Bool.and_eq_true_iff, List.all_eq_true] at hvalid
    rw [htext] at hc
    rcases List.mem_cons.mp hc with rfl | hc
    · exact dot_lt_of_isLowercase (Bool.and_eq_true_iff.mp hvalid.1).1
    · exact dot_lt_of_isLowerOrDigit (hvalid.2 c hc)

lemma compare_eq_words (p q : PackageName) : p.compare q = Ord.compare p.words q.words := by
  have hmap : ∀ segments segments' : List Segment,
      Ord.compare (segments.map Name.text) (segments'.map Name.text) =
        Ord.compare (segments.map fun s => s.text.toList) (segments'.map fun s => s.text.toList) := by
    intro segments
    induction segments with
    | nil => rintro (_ | _) <;> simp
    | cons s segments ih =>
      rintro (_ | ⟨s', segments'⟩)
      · simp
      · rw [List.map_cons, List.map_cons, List.map_cons, List.map_cons, List.compare_cons_cons, List.compare_cons_cons,
          ih, Text.compare_toList]
  exact hmap p.segments q.segments

lemma compare_chars (p q : PackageName) : Ord.compare p.chars q.chars = Ord.compare p.words q.words := by
  have hp := p.dot_lt_of_mem_words
  have hq := q.dot_lt_of_mem_words
  change Ord.compare (Text.joinWith ['.'] p.words) (Text.joinWith ['.'] q.words) = _
  cases hwords : p.words with
  | nil => exact absurd hwords p.words_ne_nil
  | cons word words =>
    cases hwords' : q.words with
    | nil => exact absurd hwords' q.words_ne_nil
    | cons word' words' =>
      rw [hwords] at hp
      rw [hwords'] at hq
      exact Text.compare_joinWith hp hq

lemma ofSegments_eq_ok_iff {segments : List Segment} {p : PackageName} :
    ofSegments segments = .ok p ↔ p.segments = segments := by
  constructor
  · intro h
    unfold ofSegments at h
    split at h <;> cases h
    rfl
  · rintro rfl
    exact dif_neg p.segments_ne_nil

/-- Every list of segments but the empty one makes a name. The texts that are accepted as names are exactly those
that names are written as, and names are in the order of these texts. -/
theorem written_in_order :
    (∀ (segments : List Segment) (p : PackageName), ofSegments segments = .ok p ↔ p.segments = segments) ∧
    (∀ (text : String) (p : PackageName), parse text = .ok p ↔ p.render = text) ∧
    ∀ p q : PackageName, p.compare q = Ord.compare p.render q.render := by
  refine ⟨fun _ _ => ofSegments_eq_ok_iff, fun text p => parse_eq_ok_iff.trans eq_comm, fun p q => ?_⟩
  rw [compare_eq_words, ← compare_chars, ← Text.compare_toList, render, render, String.toList_ofList,
    String.toList_ofList]

end PackageName

end RecordSchema
