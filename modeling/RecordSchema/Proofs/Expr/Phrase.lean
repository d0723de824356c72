import RecordSchema.Expr.Reader
import Mathlib.Data.List.TakeDrop
import Mathlib.Data.List.TakeWhile
import Mathlib.Tactic.Common

namespace RecordSchema.Expr

open Reader.Progress (isDelimiter)

def IsWord (text : List Char) : Prop :=
  text ≠ [] ∧ ∀ c ∈ text, isDelimiter c = false

instance (text : List Char) : Decidable (IsWord text) :=
  decidable_of_iff (text ≠ [] ∧ text.all (!isDelimiter ·) = true) (by simp [IsWord])

def stringItem (c : Char) : List Char :=
  if c = '"' ∨ c = '\\' then ['\\', c] else [c]

mutual

inductive Phrase where
  | atom (text : List Char)
  | string (items : List Char)
  | list (bracket : Bracket) (body : Passage)

/-- Expressions with the white space and the comments around them: what a text, or a list, consists of. The
line end after a comment is white space. -/
inductive Passage where
  | nil
  | blank (c : Char) (rest : Passage)
  | comment (text : List Char) (rest : Passage)
  | phrase (first : Phrase) (rest : Passage)

end

mutual

def Phrase.chars : Phrase → List Char
  | .atom text => text
  | .string items => '"' :: (items.flatMap stringItem ++ ['"'])
  | .list bracket body => bracket.opening :: (body.chars ++ [bracket.closing])

def Passage.chars : Passage → List Char
  | .nil => []
  | .blank c rest => c :: rest.chars
  | .comment text rest => ';' :: (text ++ rest.chars)
  | .phrase first rest => first.chars ++ rest.chars

end

mutual

def Phrase.expr : Phrase → Expr
  | .atom text => .atom (String.ofList text) default
  | .string items => .quoted (String.ofList items) default
  | .list bracket body => .list bracket body.exprs default

def Passage.exprs : Passage → List Expr
  | .nil => []
  | .blank _ rest => rest.exprs
  | .comment _ rest => rest.exprs
  | .phrase first rest => first.expr :: rest.exprs

end

mutual

/-- The phrase follows the grammar when `after` comes next: an atom is as long as it can be. -/
def Phrase.Fits : Phrase → List Char → Prop
  | .atom text, after => IsWord text ∧ ∀ c ∈ after.head?, isDelimiter c = true
  | .string _, _ => True
  | .list bracket body, _ => body.Fits [bracket.closing]

def Passage.Fits : Passage → List Char → Prop
  | .nil, _ => True
  | .blank c rest, after => Text.isBlank c = true ∧ rest.Fits after
  | .comment text rest, after =>
    '\n' ∉ text ∧ (∀ c ∈ (rest.chars ++ after).head?, c = '\n') ∧ rest.Fits after
  | .phrase first rest, after => first.Fits (rest.chars ++ after) ∧ rest.Fits after

end

def Passage.Derives (q : Passage) (text : List Char) : Prop :=
  q.chars = text ∧ q.Fits []

inductive Lead where
  | blank
  | comment
  | quote
  | opening (bracket : Bracket)
  | closing (bracket : Bracket)
  | word
deriving DecidableEq

def leadOf (c : Char) : Lead :=
  if Text.isBlank c then .blank
  else match c with
    | ';' => .comment
    | '"' => .quote
    | '(' => .opening .round
    | '[' => .opening .square
    | ')' => .closing .round
    | ']' => .closing .square
    | _ => .word

@[simp] lemma leadOf_opening (bracket : Bracket) : leadOf bracket.opening = .opening bracket := by
  cases bracket <;> rfl

@[simp] lemma leadOf_closing (bracket : Bracket) : leadOf bracket.closing = .closing bracket := by
  cases bracket <;> rfl

lemma leadOf_blank {c : Char} (h : Text.isBlank c = true) : leadOf c = .blank := by
  unfold leadOf
  exact if_pos h

lemma isDelimiter_iff {c : Char} : isDelimiter c = true ↔ leadOf c ≠ .word := by
  by_cases h : Text.isBlank c = true
  · rw [isDelimiter, leadOf_blank h, h]
    exact ⟨fun _ => nofun, fun _ => rfl⟩
  · unfold leadOf isDelimiter
    rw [if_neg h]
    split <;> simp_all

lemma leadOf_begins (c : Char) : match leadOf c with
    | .blank => Text.isBlank c = true
    | .comment => c = ';'
    | .quote => c = '"'
    | .opening bracket => c = bracket.opening
    | .closing bracket => c = bracket.closing
    | .word => isDelimiter c = false := by
  cases hlead : leadOf c with
  | word => exact Bool.eq_false_iff.mpr fun h => isDelimiter_iff.mp h hlead
  | _ =>
    unfold leadOf at hlead
    split at hlead
    · cases hlead <;> assumption
    · split at hlead <;> cases hlead <;> rfl

lemma leadOf_word {c : Char} (h : isDelimiter c = false) : leadOf c = .word := by
  by_contra hc
  rw [isDelimiter_iff.mpr hc] at h
  cases h

lemma exists_run (sort : Char → Bool) (text : List Char) : ∃ run after, text = run ++ after ∧
    (∀ c ∈ run, sort c = true) ∧ ∀ c ∈ after.head?, sort c = false := by
  refine ⟨text.takeWhile sort, text.dropWhile sort, List.takeWhile_append_dropWhile.symm,
    fun c hc => List.mem_takeWhile_imp hc, fun c hc => ?_⟩
  have hstop := List.head?_dropWhile_not sort text
  rw [Option.mem_def.mp hc] at hstop
  exact hstop

lemma run_unique {sort : Char → Bool} {run run' after after' : List Char} (hrun : ∀ c ∈ run, sort c = true)
    (hrun' : ∀ c ∈ run', sort c = true) (hafter : ∀ c ∈ after.head?, sort c = false)
    (hafter' : ∀ c ∈ after'.head?, sort c = false) (h : run ++ after = run' ++ after') :
    run = run' ∧ after = after' := by
  have hlongest {run after : List Char} (hrun : ∀ c ∈ run, sort c = true) (hafter : ∀ c ∈ after.head?, sort c = false) :
      (run ++ after).takeWhile sort = run := by
    rw [List.takeWhile_append_of_pos hrun]
    cases after with
    | nil => exact List.append_nil run
    | cons c after => rw [List.takeWhile_cons_of_neg (by simp [hafter c rfl]), List.append_nil]
  have heq : run = run' := by rw [← hlongest hrun hafter, h, hlongest hrun' hafter']
  subst heq
  exact ⟨rfl, List.append_cancel_left h⟩

lemma stringItem_ne {c : Char} {rest after : List Char} : stringItem c ++ rest ≠ '"' :: after := by
  intro h
  unfold stringItem at h
  split at h
  · cases (List.cons.inj h).1
  · exact absurd (Or.inl (List.cons.inj h).1) ‹¬_›

lemma stringItem_unique {c c' : Char} {rest rest' : List Char} (h : stringItem c ++ rest = stringItem c' ++ rest') :
    c = c' ∧ rest = rest' := by
  unfold stringItem at h
  split at h <;> split at h
  · obtain ⟨-, htail⟩ := List.cons.inj h
    exact List.cons.inj htail
  · exact absurd (Or.inr (List.cons.inj h).1.symm) ‹¬_›
  · exact absurd (Or.inr (List.cons.inj h).1) ‹¬_›
  · exact List.cons.inj h

lemma strings_unique : ∀ {items items' after after' : List Char},
    items.flatMap stringItem ++ '"' :: after = items'.flatMap stringItem ++ '"' :: after' →
      items = items' ∧ after = after'
  | [], [], _, _, h => ⟨rfl, (List.cons.inj h).2⟩
  | [], c :: items', _, _, h => by
    rw [List.flatMap_cons, List.append_assoc] at h
    exact absurd h.symm stringItem_ne
  | c :: items, [], _, _, h => by
    rw [List.flatMap_cons, List.append_assoc] at h
    exact absurd h stringItem_ne
  | c :: items, c' :: items', after, after', h => by
    rw [List.flatMap_cons, List.flatMap_cons, List.append_assoc, List.append_assoc] at h
    obtain ⟨rfl, hrest⟩ := stringItem_unique h
    obtain ⟨rfl, rfl⟩ := strings_unique hrest
    exact ⟨rfl, rfl⟩

def Ends (after : List Char) : Prop :=
  ∀ c ∈ after.head?, ∃ bracket, leadOf c = .closing bracket

namespace Phrase

def lead : Phrase → Lead
  | .atom _ => .word
  | .string _ => .quote
  | .list bracket _ => .opening bracket

lemma exists_lead {p : Phrase} {after : List Char} (h : p.Fits after) :
    ∃ c tail, p.chars = c :: tail ∧ leadOf c = p.lead := by
  cases p with
  | atom text =>
    cases text with
    | nil => exact absurd rfl h.1.1
    | cons c tail => exact ⟨c, tail, rfl, leadOf_word (h.1.2 c List.mem_cons_self)⟩
  | string items => exact ⟨_, _, rfl, rfl⟩
  | list bracket body => exact ⟨_, _, rfl, leadOf_opening bracket⟩

end Phrase

namespace Passage

def lead? : Passage → Option Lead
  | .nil => none
  | .blank _ _ => some .blank
  | .comment _ _ => some .comment
  | .phrase first _ => some first.lead

lemma leadOf_head {q : Passage} {after : List Char} (h : q.Fits after) :
    (q.chars ++ after).head?.map leadOf = q.lead?.or (after.head?.map leadOf) := by
  cases q with
  | nil => rfl
  | blank c rest => exact congrArg some (leadOf_blank h.1)
  | comment text rest => rfl
  | phrase first rest =>
    obtain ⟨c, tail, hchars, hlead⟩ := Phrase.exists_lead h.1
    rw [chars, hchars]
    exact congrArg some hlead

end Passage

lemma Ends.lead {after : List Char} (h : Ends after) :
    after.head?.map leadOf = none ∨ ∃ bracket, after.head?.map leadOf = some (.closing bracket) := by
  cases after with
  | nil => exact .inl rfl
  | cons c after =>
    obtain ⟨bracket, hc⟩ := h c rfl
    exact .inr ⟨bracket, congrArg some hc⟩

lemma ends_closing (bracket : Bracket) (after : List Char) : Ends (bracket.closing :: after) := by
  rintro c ⟨⟩
  exact ⟨bracket, leadOf_closing bracket⟩

lemma Passage.fits_congr {q : Passage} {after after' : List Char} (hhead : after.head? = after'.head?)
    (h : q.Fits after) : q.Fits after' := by
  have hnext (r : Passage) : (r.chars ++ after).head? = (r.chars ++ after').head? := by
    rw [List.head?_append, List.head?_append, hhead]
  match q with
  | .nil => trivial
  | .blank c rest => exact ⟨h.1, fits_congr hhead h.2⟩
  | .comment text rest => exact ⟨h.1, hnext rest ▸ h.2.1, fits_congr hhead h.2.2⟩
  | .phrase first rest =>
    refine ⟨?_, fits_congr hhead h.2⟩
    cases first with
    | atom text => exact ⟨h.1.1, hnext rest ▸ h.1.2⟩
    | string items => trivial
    | list bracket body => exact h.1

lemma Phrase.fits_list_iff {bracket : Bracket} {body : Passage} {after : List Char} (after' : List Char) :
    (list bracket body).Fits after ↔ body.Fits (bracket.closing :: after') := by
  have hhead : [bracket.closing].head? = (bracket.closing :: after').head? := rfl
  exact ⟨fun h => Passage.fits_congr hhead h, fun h => Passage.fits_congr hhead.symm h⟩

lemma Phrase.lead_unique {p p' : Phrase} {after after' : List Char} (h : p.Fits after) (h' : p'.Fits after')
    (heq : p.chars ++ after = p'.chars ++ after') : p.lead = p'.lead := by
  obtain ⟨c, tail, hchars, hlead⟩ := p.exists_lead h
  obtain ⟨c', tail', hchars', hlead'⟩ := p'.exists_lead h'
  rw [hchars, hchars'] at heq
  rw [← hlead, ← hlead', (List.cons.inj heq).1]

lemma Passage.lead?_ne_closing (q : Passage) (bracket : Bracket) : q.lead? ≠ some (.closing bracket) := by
  cases q with
  | phrase first rest => cases first <;> exact nofun
  | _ => exact nofun

lemma Passage.lead?_unique {q q' : Passage} {after after' : List Char} (h : q.Fits after) (h' : q'.Fits after')
    (hends : Ends after) (hends' : Ends after') (heq : q.chars ++ after = q'.chars ++ after') :
    q.lead? = q'.lead? := by
  have hheads : q.lead?.or (after.head?.map leadOf) = q'.lead?.or (after'.head?.map leadOf) := by
    rw [← leadOf_head h, ← leadOf_head h', heq]
  have hq := q.lead?_ne_closing
  have hq' := q'.lead?_ne_closing
  have hafter := hends.lead
  have hafter' := hends'.lead
  generalize q.lead? = first at *
  generalize q'.lead? = first' at *
  rcases first with _ | lead <;> rcases first' with _ | lead'
  · rfl
  · rw [Option.none_or, Option.some_or] at hheads
    rw [hheads] at hafter
    exact absurd hafter (not_or_intro nofun (not_exists_of_forall_not hq'))
  · rw [Option.none_or, Option.some_or] at hheads
    rw [← hheads] at hafter'
    exact absurd hafter' (not_or_intro nofun (not_exists_of_forall_not hq))
  · exact hheads

mutual

theorem Phrase.unique (p p' : Phrase) {after after' : List Char} (h : p.Fits after) (h' : p'.Fits after')
    (heq : p.chars ++ after = p'.chars ++ after') : p = p' ∧ after = after' := by
  match p, p', Phrase.lead_unique h h' heq with
  | .atom text, .atom text', _ =>
    have hword {text : List Char} (h : IsWord text) : ∀ c ∈ text, (!isDelimiter c) = true := by
      intro c hc
      rw [h.2 c hc, Bool.not_false]
    have hstop {after : List Char} (h : ∀ c ∈ after.head?, isDelimiter c = true) :
        ∀ c ∈ after.head?, (!isDelimiter c) = false := by
      intro c hc
      rw [h c hc, Bool.not_true]
    obtain ⟨rfl, rfl⟩ := run_unique (hword h.1) (hword h'.1) (hstop h.2) (hstop h'.2) heq
    exact ⟨rfl, rfl⟩
  | .string items, .string items', _ =>
    rw [Phrase.chars, Phrase.chars, List.cons_append, List.cons_append, List.append_assoc, List.append_assoc] at heq
    obtain ⟨rfl, rfl⟩ := strings_unique (List.cons.inj heq).2
    exact ⟨rfl, rfl⟩
  | .list bracket body, .list bracket' body', hlead =>
    obtain rfl : bracket = bracket' := Lead.opening.inj hlead
    rw [Phrase.chars, Phrase.chars, List.cons_append, List.cons_append, List.append_assoc, List.append_assoc] at heq
    obtain ⟨rfl, hafter⟩ := Passage.unique body body' ((Phrase.fits_list_iff after).mp h) ((Phrase.fits_list_iff after').mp h')
      (ends_closing bracket after) (ends_closing bracket after') (List.cons.inj heq).2
    exact ⟨rfl, (List.cons.inj hafter).2⟩

theorem Passage.unique (q q' : Passage) {after after' : List Char} (h : q.Fits after) (h' : q'.Fits after')
    (hends : Ends after) (hends' : Ends after') (heq : q.chars ++ after = q'.chars ++ after') :
    q = q' ∧ after = after' := by
  match q, q', Passage.lead?_unique h h' hends hends' heq with
  | .nil, .nil, _ => exact ⟨rfl, heq⟩
  | .blank c rest, .blank c' rest', _ =>
    obtain ⟨rfl, hrest⟩ := List.cons.inj heq
    obtain ⟨rfl, rfl⟩ := Passage.unique rest rest' h.2 h'.2 hends hends' hrest
    exact ⟨rfl, rfl⟩
  | .comment text rest, .comment text' rest', _ =>
    have hwithin {text : List Char} (h : '\n' ∉ text) : ∀ c ∈ text, decide (c ≠ '\n') = true := by
      intro c hc
      exact decide_eq_true (ne_of_mem_of_not_mem hc h)
    have hstop {after : List Char} (h : ∀ c ∈ after.head?, c = '\n') :
        ∀ c ∈ after.head?, decide (c ≠ '\n') = false := by
      intro c hc
      exact decide_eq_false (not_not_intro (h c hc))
    rw [Passage.chars, Passage.chars, List.cons_append, List.cons_append, List.append_assoc, List.append_assoc] at heq
    obtain ⟨rfl, hrest⟩ := run_unique (hwithin h.1) (hwithin h'.1) (hstop h.2.1) (hstop h'.2.1) (List.cons.inj heq).2
    obtain ⟨rfl, rfl⟩ := Passage.unique rest rest' h.2.2 h'.2.2 hends hends' hrest
    exact ⟨rfl, rfl⟩
  | .phrase first rest, .phrase first' rest', _ =>
    rw [Passage.chars, Passage.chars, List.append_assoc, List.append_assoc] at heq
    obtain ⟨rfl, hrest⟩ := Phrase.unique first first' h.1 h'.1 heq
    obtain ⟨rfl, rfl⟩ := Passage.unique rest rest' h.2 h'.2 hends hends' hrest
    exact ⟨rfl, rfl⟩
  | .blank _ _, .phrase first' _, hlead => cases first' <;> cases hlead
  | .comment _ _, .phrase first' _, hlead => cases first' <;> cases hlead
  | .phrase first _, .blank _ _, hlead => cases first <;> cases hlead
  | .phrase first _, .comment _ _, hlead => cases first <;> cases hlead

end

end RecordSchema.Expr
