import RecordSchema.Proofs.Expr.Grammar

namespace RecordSchema.Expr

open Reader.Progress (isDelimiter)

def IsQuotable (c : Char) : Prop :=
  Text.Quoted.isPlain c = true ∨ c = '"' ∨ c = '\\'

inductive Legible : Expr → Prop
  | atom {text : String} {p : Position} (word : IsWord text.toList) : Legible (atom text p)
  | quoted {text : String} {p : Position} (quotable : ∀ c ∈ text.toList, IsQuotable c) : Legible (quoted text p)
  | list {bracket : Bracket} {items : List Expr} {p : Position} (items_legible : ∀ e ∈ items, Legible e) :
      Legible (list bracket items p)

lemma isDelimiter_of_isDigit {c : Char} (h : c.isDigit = true) : Reader.Progress.isDelimiter c = false := by
  have hne {d : Char} (hd : d.isDigit = false) : c ≠ d := by
    rintro rfl
    rw [h] at hd
    cases hd
  have hblank : Text.isBlank c = false := by
    obtain ⟨hlower, hupper⟩ := Char.isDigit_iff_toNat.mp h
    have hlow : 48 ≤ c.toNat := hlower
    have hhigh : c.toNat < 133 := Nat.lt_of_le_of_lt hupper (by decide)
    rw [Text.isBlank, Text.blankRanges, Text.inRanges, if_neg (by omega), Text.inRanges, if_neg (by omega),
      Text.inRanges, if_pos hhigh, Bool.or_false, Bool.or_eq_false_iff, decide_eq_false_iff_not,
      decide_eq_false_iff_not]
    omega
  simp [Reader.Progress.isDelimiter, hblank, hne]

lemma isWord_toString (n : Nat) : IsWord (toString n).toList := by
  rw [Nat.toString_eq_ofList_toDigits, String.toList_ofList]
  refine ⟨Nat.toDigits_ne_nil, fun c hc => isDelimiter_of_isDigit ?_⟩
  exact Nat.isDigit_of_mem_toDigits (by decide) (by decide) hc

@[simp] lemma legible_atom_iff {text : String} {p : Position} : (atom text p).Legible ↔ IsWord text.toList :=
  ⟨fun h => by cases h; assumption, .atom⟩

@[simp] lemma legible_list_iff {bracket : Bracket} {items : List Expr} {p : Position} :
    (list bracket items p).Legible ↔ ∀ e ∈ items, e.Legible :=
  ⟨fun h => by cases h; assumption, .list⟩

mutual

def toPhrase : Expr → Phrase
  | atom text _ => .atom text.toList
  | quoted text _ => .string text.toList
  | list bracket items _ => .list bracket (toPassage items)

def toPassage : List Expr → Passage
  | [] => .nil
  | [e] => .phrase e.toPhrase .nil
  | e :: e' :: es => .phrase e.toPhrase (.blank ' ' (toPassage (e' :: es)))

end

mutual

lemma expr_toPhrase : ∀ e : Expr, e.toPhrase.expr = e.withPositions default
  | atom text p => by rw [toPhrase, Phrase.expr, String.ofList_toList, withPositions]
  | quoted text p => by rw [toPhrase, Phrase.expr, String.ofList_toList, withPositions]
  | list bracket items p => by
    rw [toPhrase, Phrase.expr, exprs_toPassage items, withPositions, withPositionsEach_eq_map]

lemma exprs_toPassage : ∀ es : List Expr, (toPassage es).exprs = es.map (withPositions default)
  | [] => rfl
  | [e] => by rw [toPassage, Passage.exprs, expr_toPhrase e]; rfl
  | e :: e' :: es => by
    rw [toPassage, Passage.exprs, Passage.exprs, expr_toPhrase e, exprs_toPassage (e' :: es)]
    rfl

end

lemma stringItem_of_isQuotable {c : Char} (h : IsQuotable c) : stringItem c = Text.Quoted.escape c := by
  rcases h with hplain | rfl | rfl
  · have hne : ¬(c = '"' ∨ c = '\\') := by
      rintro (rfl | rfl)
      · exact absurd hplain (by decide +kernel)
      · exact absurd hplain (by decide +kernel)
    rw [Text.Quoted.escape_plain hplain, stringItem, if_neg hne]
  · decide +kernel
  · decide +kernel

mutual

lemma chars_toPhrase : ∀ {e : Expr}, e.Legible → e.toPhrase.chars = e.chars
  | atom text p, _ => rfl
  | quoted text p, .quoted hquotable => by
    have hitems : text.toList.flatMap stringItem = text.toList.flatMap Text.Quoted.escape :=
      List.flatMap_congr fun c hc => stringItem_of_isQuotable (hquotable c hc)
    rw [toPhrase, Phrase.chars, hitems]
    rfl
  | list bracket items p, .list hitems => by
    rw [toPhrase, Phrase.chars, chars, chars_toPassage hitems]
    rfl

lemma chars_toPassage : ∀ {es : List Expr}, (∀ e ∈ es, e.Legible) →
    (toPassage es).chars = Text.joinWith [' '] (charsEach es)
  | [], _ => rfl
  | [e], h => by
    rw [toPassage, Passage.chars, Passage.chars, chars_toPhrase (h e List.mem_cons_self), List.append_nil]
    rfl
  | e :: e' :: es, h => by
    obtain ⟨he, hes⟩ := List.forall_mem_cons.mp h
    have hwritten : Text.joinWith [' '] (charsEach (e :: e' :: es)) =
        e.chars ++ [' '] ++ Text.joinWith [' '] (charsEach (e' :: es)) := rfl
    rw [toPassage, Passage.chars, Passage.chars, chars_toPhrase he, chars_toPassage hes, hwritten, List.append_assoc]
    rfl

end

mutual

lemma fits_toPhrase : ∀ {e : Expr} {after : List Char}, e.Legible → (∀ c ∈ after.head?, isDelimiter c = true) →
    e.toPhrase.Fits after
  | atom text p, _, .atom hword, hafter => ⟨hword, hafter⟩
  | quoted text p, _, _, _ => trivial
  | list bracket items p, _, .list hitems, _ => by
    refine fits_toPassage hitems ?_
    rintro c ⟨⟩
    cases bracket <;> rfl

lemma fits_toPassage : ∀ {es : List Expr} {after : List Char}, (∀ e ∈ es, e.Legible) →
    (∀ c ∈ after.head?, isDelimiter c = true) → (toPassage es).Fits after
  | [], _, _, _ => trivial
  | [e], _, h, hafter => ⟨fits_toPhrase (h e List.mem_cons_self) hafter, trivial⟩
  | e :: e' :: es, after, h, hafter => by
    obtain ⟨he, hes⟩ := List.forall_mem_cons.mp h
    refine ⟨fits_toPhrase he ?_, rfl, fits_toPassage hes hafter⟩
    rintro c ⟨⟩
    rfl

end

theorem readChars_written (file : FileId) {es : List Expr} (h : ∀ e ∈ es, e.Legible) :
    ∃ found finish, readChars file (Text.joinWith [' '] (charsEach es)) = ⟨found, none, finish⟩ ∧
      List.Forall₂ Alike found es := by
  obtain ⟨found, finish, hread, hfound⟩ := readChars_derived file ⟨chars_toPassage h, fits_toPassage h nofun⟩
  refine ⟨found, finish, hread, ?_⟩
  rw [exprs_toPassage, ← List.forall₂_eq_eq_eq, List.forall₂_map_left_iff, List.forall₂_map_right_iff] at hfound
  exact hfound

end RecordSchema.Expr
