import RecordSchema.Compile.Sources
import RecordSchema.Proofs.Text.Words

namespace RecordSchema

namespace Path

def lead (words : List (List Char)) : List (List Char) :=
  if words.head? = some ['.'] then [['.']] else []

def kept (words : List (List Char)) : List (List Char) :=
  words.filter fun w => w ≠ [] ∧ w ≠ ['.']

lemma parts_ofText (text : String) :
    (ofText text).parts = lead (Text.splitOn '/' text.toList) ++ kept (Text.splitOn '/' text.toList) := by
  rw [ofText]
  generalize Text.splitOn '/' text.toList = words
  split
  · next rest => simp [lead, kept]
  · next rest => simp [lead, kept]
  · next hne hdot =>
    have hlead : lead words = [] := by
      rw [lead, if_neg]
      intro h
      obtain ⟨rest, rfl⟩ := List.head?_eq_some_iff.mp h
      exact hdot rest rfl
    rw [hlead]
    rfl

def Clean (words : List (List Char)) : Prop :=
  ∀ w ∈ words, w ≠ [] ∧ w ≠ ['.'] ∧ '/' ∉ w

namespace Clean

variable {words : List (List Char)}

lemma kept_eq (h : Clean words) : kept words = words :=
  List.filter_eq_self.mpr fun w hw => decide_eq_true ⟨(h w hw).1, (h w hw).2.1⟩

lemma lead_eq (h : Clean words) : lead words = [] := by
  rw [lead, if_neg]
  intro hhead
  exact (h _ (List.mem_of_head? hhead)).2.1 rfl

lemma head?_joinWith (h : Clean words) : (Text.joinWith ['/'] words).head? ≠ some '/' := by
  match words, h with
  | [], _ => simp [Text.joinWith]
  | [] :: rest, h => exact absurd rfl (h _ List.mem_cons_self).1
  | (c :: cs) :: rest, h =>
    have hne : c ≠ '/' := fun heq => (h _ List.mem_cons_self).2.2 (heq ▸ List.mem_cons_self)
    cases rest <;> simpa [Text.joinWith] using hne

lemma exists_parts_join (base : List Char) : ∃ front, ∀ {words : List (List Char)}, words ≠ [] → Clean words →
    (ofText (String.ofList (join base (Text.joinWith ['/'] words)))).parts = front ++ words := by
  have hsplit {words : List (List Char)} (hne : words ≠ []) (h : Clean words) :
      Text.splitOn '/' (Text.joinWith ['/'] words) = words :=
    Text.splitOn_joinWith hne fun w hw => (h w hw).2.2
  have hfrom (base : List Char) : ∃ front, ∀ {words : List (List Char)}, words ≠ [] → Clean words →
      (ofText (String.ofList (base ++ '/' :: Text.joinWith ['/'] words))).parts = front ++ words := by
    refine ⟨lead (Text.splitOn '/' base) ++ kept (Text.splitOn '/' base), fun {words} hne h => ?_⟩
    rw [parts_ofText, String.toList_ofList, Text.splitOn_append_cons, hsplit hne h, List.append_assoc]
    congr 1
    · obtain ⟨w, ws, hw⟩ := List.exists_cons_of_ne_nil (Text.splitOn_ne_nil '/' base)
      rw [hw]
      rfl
    · rw [kept, List.filter_append]
      congr 1
      exact h.kept_eq
  by_cases hbase : base = []
  · refine ⟨[], fun hne h => ?_⟩
    rw [join, if_pos (.inl hbase), parts_ofText, String.toList_ofList, hsplit hne h, h.lead_eq, h.kept_eq]
  · by_cases hlast : base.getLast? = some '/'
    · obtain ⟨before, rfl⟩ := List.getLast?_eq_some_iff.mp hlast
      obtain ⟨front, hfront⟩ := hfrom before
      refine ⟨front, fun hne h => ?_⟩
      rw [join, if_neg (not_or.mpr ⟨hbase, h.head?_joinWith⟩), if_pos hlast, List.append_assoc]
      exact hfront hne h
    · obtain ⟨front, hfront⟩ := hfrom base
      refine ⟨front, fun hne h => ?_⟩
      rw [join, if_neg (not_or.mpr ⟨hbase, h.head?_joinWith⟩), if_neg hlast]
      exact hfront hne h

end Clean

end Path

namespace Library

def path (l : Library) (name : PackageName) : String :=
  match l with
  | texts _ => String.ofList (name.chars ++ sourceSuffix)
  | files tree => tree.packagePath name

def place (l : Library) (name : PackageName) : Place :=
  match l with
  | texts _ => [name.chars ++ sourceSuffix]
  | files _ => FileTree.placeOf name

lemma exists_path_eq (l : Library) :
    ∃ base, ∀ name, l.path name = String.ofList (Path.join base (Text.joinWith ['/'] (l.place name))) := by
  cases l with
  | texts sources => exact ⟨[], fun name => rfl⟩
  | files tree =>
    refine ⟨tree.root.toList, fun name => ?_⟩
    change String.ofList (Path.join _ (String.ofList _).toList) = _
    rw [String.toList_ofList]
    rfl

lemma placeOf_eq (name : PackageName) : FileTree.placeOf name =
    name.words.dropLast ++ [name.words.getLast name.words_ne_nil ++ sourceSuffix] := by
  have hwords : name.segments.map (fun s => s.text.toList) = name.words := rfl
  rw [FileTree.placeOf]
  simp only [hwords, List.getLast?_eq_some_getLast name.words_ne_nil, Option.map_some, Option.toList_some]

lemma place_ne_nil (l : Library) (name : PackageName) : l.place name ≠ [] := by
  cases l with
  | texts sources => exact List.cons_ne_nil _ _
  | files tree =>
    rw [place, placeOf_eq]
    simp

lemma clean_append_suffix {w : List Char} (h : '/' ∉ w) :
    w ++ sourceSuffix ≠ [] ∧ w ++ sourceSuffix ≠ ['.'] ∧ '/' ∉ w ++ sourceSuffix := by
  have hsuffix : '/' ∉ sourceSuffix ∧ sourceSuffix.length = 4 := by decide
  refine ⟨fun heq => ?_, fun heq => ?_, fun hmem => ?_⟩
  · have hlength := congrArg List.length heq
    simp [hsuffix.2] at hlength
  · have hlength := congrArg List.length heq
    simp [hsuffix.2] at hlength
  · exact (List.mem_append.mp hmem).elim h hsuffix.1

lemma place_clean (l : Library) (name : PackageName) : Path.Clean (l.place name) := by
  have hslash := name.slash_not_mem_words
  cases l with
  | texts sources =>
    intro w hw
    rw [List.mem_singleton.mp hw]
    exact clean_append_suffix (Text.not_mem_joinWith (by decide) fun w hw => (hslash w hw).2)
  | files tree =>
    intro w hw
    rw [place, placeOf_eq, List.mem_append, List.mem_singleton] at hw
    rcases hw with hw | rfl
    · have hw := List.dropLast_subset _ hw
      refine ⟨(hslash w hw).1, ?_, (hslash w hw).2⟩
      rintro rfl
      exact (name.dot_not_mem_words _ hw).2 List.mem_cons_self
    · exact clean_append_suffix (hslash _ (List.getLast_mem _)).2

lemma place_injective (l : Library) : Function.Injective l.place := by
  cases l with
  | texts sources =>
    intro p q h
    exact PackageName.chars_injective (List.append_cancel_right (List.cons.inj h).1)
  | files tree =>
    intro p q h
    rw [place, place, placeOf_eq, placeOf_eq] at h
    obtain ⟨hfront, hlast⟩ := List.append_inj' h rfl
    refine PackageName.words_injective ?_
    rw [← List.dropLast_concat_getLast p.words_ne_nil, ← List.dropLast_concat_getLast q.words_ne_nil, hfront,
      List.append_cancel_right (List.cons.inj hlast).1]

theorem path_injective (l : Library) {p q : PackageName} (h : Path.ofText (l.path p) = Path.ofText (l.path q)) :
    p = q := by
  obtain ⟨base, hbase⟩ := l.exists_path_eq
  obtain ⟨front, hfront⟩ := Path.Clean.exists_parts_join base
  have hparts (name : PackageName) : (Path.ofText (l.path name)).parts = front ++ l.place name := by
    rw [hbase, hfront (l.place_ne_nil name) (l.place_clean name)]
  have heq : front ++ l.place p = front ++ l.place q := by rw [← hparts, ← hparts, h]
  exact l.place_injective (List.append_cancel_left heq)

end Library

end RecordSchema
