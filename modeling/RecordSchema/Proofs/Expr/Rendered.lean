import RecordSchema.Proofs.Expr.Position
import RecordSchema.Proofs.Expr.Written

/-! Where the written form of a tree is read as this tree, and what is read where it is not. -/

namespace RecordSchema.Expr

open Reader (Progress Cursor)
open Reader.Progress (isDelimiter Halts)
open Text (joinWith)
open Text.Quoted (escape)

instance : DecidablePred IsQuotable :=
  fun c => inferInstanceAs (Decidable (Text.Quoted.isPlain c = true ∨ c = '"' ∨ c = '\\'))

def Worded (e : Expr) : Prop :=
  ∀ text p, (atom text p).Node e → IsWord text.toList

def Quotable (e : Expr) : Prop :=
  ∀ text p, (quoted text p).Node e → ∀ c ∈ text.toList, IsQuotable c

/-- The character `c` is the first in the strings of the tree that is written with an escape unknown to the reader,
and `before` is what is written before this escape. -/
inductive Obscures : Expr → List Char → Char → Prop
  | quoted {text : String} {front back : List Char} {c : Char} {p : Position} (text_eq : text.toList = front ++ c :: back)
      (front_quotable : ∀ d ∈ front, IsQuotable d) (obscure : ¬IsQuotable c) :
      Obscures (quoted text p) ('"' :: front.flatMap escape) c
  | list {bracket : Bracket} {front back : List Expr} {e : Expr} {before : List Char} {c : Char} {p : Position}
      (front_quotable : ∀ item ∈ front, item.Quotable) (obscures : Obscures e before c) :
      Obscures (list bracket (front ++ e :: back) p) (bracket.opening :: joinWith [' '] (charsEach front ++ [before])) c

section

variable {n e : Expr} {text : String} {bracket : Bracket} {items : List Expr} {p : Position}

@[simp] lemma node_atom_iff : n.Node (atom text p) ↔ n = atom text p := by
  constructor
  · intro h
    cases h
    rfl
  · rintro rfl
    exact .root

@[simp] lemma node_quoted_iff : n.Node (quoted text p) ↔ n = quoted text p := by
  constructor
  · intro h
    cases h
    rfl
  · rintro rfl
    exact .root

@[simp] lemma node_list_iff : n.Node (list bracket items p) ↔ n = list bracket items p ∨ ∃ e ∈ items, n.Node e := by
  constructor
  · intro h
    cases h with
    | root => exact .inl rfl
    | item mem node => exact .inr ⟨_, mem, node⟩
  · rintro (rfl | ⟨e, he, hn⟩)
    · exact .root
    · exact .item he hn

lemma Worded.item (h : (list bracket items p).Worded) (he : e ∈ items) : e.Worded :=
  fun _ _ hn => h _ _ (.item he hn)

@[simp] lemma quotable_list_iff : (list bracket items p).Quotable ↔ ∀ e ∈ items, e.Quotable := by
  constructor
  · intro h e he text q hn
    exact h text q (.item he hn)
  · intro h text q hn
    obtain hroot | ⟨e, he, hitem⟩ := node_list_iff.mp hn
    · cases hroot
    · exact h e he text q hitem

lemma Worded.legible : ∀ {e : Expr}, e.Worded → e.Quotable → e.Legible
  | atom text p, h, _ => .atom (h text p .root)
  | quoted text p, _, h => .quoted (h text p .root)
  | list _ items _, hworded, hquotable =>
    .list fun _ he => (hworded.item he).legible (quotable_list_iff.mp hquotable _ he)

end

lemma exists_escape {c : Char} (h : ¬IsQuotable c) :
    ∃ found tail, escape c = '\\' :: found :: tail ∧ ¬(found = '"' ∨ found = '\\') := by
  obtain ⟨hplain, hother⟩ := not_or.mp h
  obtain ⟨hquote, hbackslash⟩ := not_or.mp hother
  unfold escape
  rw [if_neg hplain]
  split
  · exact absurd rfl hquote
  · exact absurd rfl hbackslash
  · exact ⟨'0', [], rfl, by decide⟩
  · exact ⟨'t', [], rfl, by decide⟩
  · exact ⟨'r', [], rfl, by decide⟩
  · exact ⟨'n', [], rfl, by decide⟩
  · exact ⟨'u', _, rfl, by decide⟩

lemma exists_first {α : Type} {holds : α → Prop} {xs : List α} (h : ¬∀ x ∈ xs, holds x) :
    ∃ front x back, xs = front ++ x :: back ∧ (∀ y ∈ front, holds y) ∧ ¬holds x := by
  induction xs with
  | nil => exact absurd nofun h
  | cons x xs ih =>
    by_cases hx : holds x
    · obtain ⟨front, y, back, rfl, hfront, hy⟩ := ih fun hxs => h (List.forall_mem_cons.mpr ⟨hx, hxs⟩)
      exact ⟨x :: front, y, back, rfl, List.forall_mem_cons.mpr ⟨hx, hfront⟩, hy⟩
    · exact ⟨[], x, xs, rfl, nofun, hx⟩

lemma exists_obscures : ∀ {e : Expr}, ¬e.Quotable → ∃ before c, e.Obscures before c
  | atom text p, h => by
    refine absurd (fun text' q hn => ?_) h
    cases hn
  | quoted text p, h => by
    have htext : ¬∀ c ∈ text.toList, IsQuotable c := by
      intro hall
      refine h fun text' q hn => ?_
      cases hn
      exact hall
    obtain ⟨front, c, back, heq, hfront, hc⟩ := exists_first htext
    exact ⟨_, c, .quoted heq hfront hc⟩
  | list bracket items p, h => by
    obtain ⟨front, e, back, hitems, hfront, he⟩ := exists_first (mt quotable_list_iff.mpr h)
    have hmem : e ∈ items := by simp [hitems]
    obtain ⟨before, c, hobscures⟩ := exists_obscures he
    subst hitems
    exact ⟨_, c, .list hfront hobscures⟩

def toLead : List Expr → Passage
  | [] => .nil
  | e :: es => .phrase e.toPhrase (.blank ' ' (toLead es))

lemma fits_toLead {es : List Expr} (h : ∀ e ∈ es, e.Legible) (after : List Char) : (toLead es).Fits after := by
  induction es with
  | nil => trivial
  | cons e es ih =>
    obtain ⟨he, hes⟩ := List.forall_mem_cons.mp h
    refine ⟨fits_toPhrase he ?_, rfl, ih hes⟩
    rintro c ⟨⟩
    rfl

lemma chars_toLead {es : List Expr} (h : ∀ e ∈ es, e.Legible) (word : List Char) (words : List (List Char)) :
    joinWith [' '] (charsEach es ++ word :: words) = (toLead es).chars ++ joinWith [' '] (word :: words) := by
  induction es with
  | nil => rfl
  | cons e es ih =>
    obtain ⟨he, hes⟩ := List.forall_mem_cons.mp h
    have hjoin : joinWith [' '] (e.chars :: (charsEach es ++ word :: words)) =
        e.chars ++ [' '] ++ joinWith [' '] (charsEach es ++ word :: words) := by
      cases es <;> rfl
    rw [charsEach, List.cons_append, hjoin, ih hes, toLead, Passage.chars, Passage.chars, chars_toPhrase he]
    simp

lemma exists_joinWith (word : List Char) (words : List (List Char)) :
    ∃ rest, joinWith [' '] (word :: words) = word ++ rest := by
  cases words with
  | nil => exact ⟨[], (List.append_nil word).symm⟩
  | cons next words => exact ⟨' ' :: joinWith [' '] (next :: words), List.append_assoc word [' '] _⟩

section

variable {e : Expr} {before : List Char} {c : Char}

lemma exists_chars_list (bracket : Bracket) {front : List Expr} (hfront : ∀ item ∈ front, item.Legible) (e : Expr)
    (back : List Expr) (p : Position) : ∃ rest, (list bracket (front ++ e :: back) p).chars =
      bracket.opening :: ((toLead front).chars ++ (e.chars ++ rest)) := by
  obtain ⟨rest, hrest⟩ := exists_joinWith e.chars (charsEach back)
  have hitems : charsEach (front ++ e :: back) = charsEach front ++ e.chars :: charsEach back := by
    simp [charsEach_eq_map]
  exact ⟨rest ++ [bracket.closing], by rw [chars, hitems, chars_toLead hfront, hrest]; simp⟩

lemma Obscures.legible_front {bracket : Bracket} {front back : List Expr} {p : Position}
    (hworded : (Expr.list bracket (front ++ e :: back) p).Worded) (hfront : ∀ item ∈ front, item.Quotable) :
    (∀ item ∈ front, item.Legible) ∧ e.Worded :=
  ⟨fun item hitem => (hworded.item (List.mem_append_left _ hitem)).legible (hfront item hitem),
    hworded.item (List.mem_append_right _ List.mem_cons_self)⟩

lemma Obscures.not_isQuotable (h : e.Obscures before c) : ¬IsQuotable c := by
  induction h with
  | quoted _ _ obscure => exact obscure
  | list _ _ ih => exact ih

lemma Obscures.chars_eq (h : e.Obscures before c) (hworded : e.Worded) :
    ∃ after, e.chars = before ++ (escape c ++ after) := by
  induction h with
  | @quoted text front back c p text_eq _ _ =>
    refine ⟨back.flatMap escape ++ ['"'], ?_⟩
    rw [Expr.chars, Text.Quoted.encode, text_eq]
    simp
  | @list bracket front back e before c p front_quotable _ ih =>
    obtain ⟨hfront, he⟩ := legible_front hworded front_quotable
    obtain ⟨rest, hchars⟩ := exists_chars_list bracket hfront e back p
    obtain ⟨after, hafter⟩ := ih he
    refine ⟨after ++ rest, ?_⟩
    rw [hchars, chars_toLead hfront, hafter]
    simp [joinWith]

lemma Obscures.halts {file : FileId} {found : Char} {tail : List Char} (h : e.Obscures before c) (hworded : e.Worded)
    (hescape : escape c = '\\' :: found :: tail) (hfound : ¬(found = '"' ∨ found = '\\')) (after : List Char) {p : Progress}
    (hp : p.mode = .between) :
    p.Halts file (e.chars ++ after) ⟨.invalidEscape found, (p.cursor.through before).position file⟩ := by
  induction h generalizing p after with
  | @quoted text front back c position text_eq front_quotable _ =>
    have hfront : front.flatMap escape = front.flatMap stringItem :=
      List.flatMap_congr fun d hd => (stringItem_of_isQuotable (front_quotable d hd)).symm
    have hchars : (Expr.quoted text position).chars ++ after =
        '"' :: (front.flatMap stringItem ++ '\\' :: found :: (tail ++ back.flatMap escape ++ '"' :: after)) := by
      rw [chars, Text.Quoted.encode, text_eq, List.flatMap_append, List.flatMap_cons, hescape, hfront]
      simp
    rw [hchars, hfront]
    exact Progress.halts_escape file front _ hfound hp
  | @list bracket front back e before c position front_quotable _ ih =>
    obtain ⟨hfront, he⟩ := legible_front hworded front_quotable
    obtain ⟨rest, hchars⟩ := exists_chars_list bracket hfront e back position
    let q := (p.inside file bracket).past (toLead front).chars
      ((toLead front).exprsAt file (p.cursor.advance bracket.opening))
    have hcursor : p.cursor.through (bracket.opening :: joinWith [' '] (charsEach front ++ [before])) =
        q.cursor.through before := by
      rw [chars_toLead hfront, Cursor.through_cons, Cursor.through_append]
      rfl
    rw [hchars, hcursor, List.cons_append, List.append_assoc, List.append_assoc]
    apply (ih he hescape (rest ++ after) (p := q) rfl).of_outcome
    · rw [Progress.outcome_opening file bracket hp]
      exact Progress.outcome_passage file (toLead front) (fits_toLead hfront _) rfl
    · exact Progress.complete_inside p file bracket _ _

end

/-- A tree is read from its written form unless a string of it is written with an escape that the reader does not
know. Of such a tree nothing is read but the fault at the first of these escapes. -/
theorem read_render (file : FileId) {e : Expr} (hworded : e.Worded) :
    (e.Quotable → ∃ e', (read file e.render).stream = [.ok e'] ∧ e'.Alike e) ∧
    (¬e.Quotable → ∃ before c found tail after, e.Obscures before c ∧ e.chars = before ++ (escape c ++ after) ∧
      escape c = '\\' :: found :: tail ∧
      (read file e.render).stream = [.error ⟨.invalidEscape found, (Cursor.behind before).position file⟩] ∧
      (e.render.utf8ByteSize < UInt32.size → (Cursor.behind before).position file = .piece file before [])) := by
  have hread : read file e.render = readChars file e.chars := by
    rw [read, render, String.toList_ofList]
  rw [hread]
  constructor
  · intro hquotable
    have hlegible := hworded.legible hquotable
    obtain ⟨e', hstream, halike⟩ := Phrase.stream_chars file file (fits_toPhrase hlegible (by simp)) {}
    rw [chars_toPhrase hlegible] at hstream
    refine ⟨e', hstream, halike.trans ?_⟩
    rw [Phrase.withPositions_exprAt, Phrase.withPositions_expr, expr_toPhrase]
  · intro hquotable
    obtain ⟨before, c, hobscures⟩ := exists_obscures hquotable
    obtain ⟨found, tail, hescape, hfound⟩ := exists_escape hobscures.not_isQuotable
    obtain ⟨after, hchars⟩ := hobscures.chars_eq hworded
    refine ⟨before, c, found, tail, after, hobscures, hchars, hescape, ?_, fun hsize => ?_⟩
    · obtain ⟨finish, hhalts⟩ : Progress.Halts {} file (e.chars ++ []) _ := hobscures.halts hworded hescape hfound [] rfl
      rw [List.append_nil] at hhalts
      change readChars file e.chars = _ at hhalts
      rw [hhalts, ← Cursor.through_eq_behind]
      rfl
    · have hrest : escape c ++ after ≠ [] := by
        rw [hescape]
        exact List.cons_ne_nil _ _
      rw [render, hchars] at hsize
      rw [Cursor.position_behind, Position.wrap_piece_of_rest [] hrest hsize]

theorem read_render_names :
    (∃ e, (read default (list .round [atom "doc" default, quoted "an \"id\"" default] default).render).stream = [.ok e] ∧
      e.Alike (list .round [atom "doc" default, quoted "an \"id\"" default] default)) ∧
    ∃ error, (read default (list .round [atom "doc" default, quoted "one\ntwo" default] default).render).stream =
      [.error error] := by
  have hworded (text : String) : (list .round [atom "doc" default, quoted text default] default).Worded := by
    intro word p hn
    have hword : word = "doc" := by
      simp at hn
      exact hn.1
    subst hword
    decide
  constructor
  · apply (read_render default (hworded _)).1
    intro text p hn
    have htext : text = "an \"id\"" := by
      simp at hn
      exact hn.1
    have hquotable : "an \"id\"".toList.all (fun c => decide (IsQuotable c)) = true := by decide +kernel
    rw [htext]
    exact fun c hc => of_decide_eq_true (List.all_eq_true.mp hquotable c hc)
  · have hbreak : ¬(list .round [atom "doc" default, quoted "one\ntwo" default] default).Quotable := by
      intro h
      have hquotable : IsQuotable '\n' := h "one\ntwo" default (by simp) '\n' (by decide)
      exact absurd hquotable (by decide +kernel)
    obtain ⟨_, _, _, _, _, _, _, _, hstream, _⟩ := (read_render default (hworded _)).2 hbreak
    exact ⟨_, hstream⟩

end RecordSchema.Expr
