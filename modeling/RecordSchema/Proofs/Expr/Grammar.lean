import RecordSchema.Proofs.Expr.Located

/-! The reader takes apart exactly the texts of the grammar, and any other text up to where it leaves the
grammar. -/

namespace RecordSchema

def Reading.stream (r : Reading) : List (Except ReadError Expr) :=
  r.exprs.map .ok ++ (r.error.map .error).toList

namespace Expr

namespace Reader

variable {file : FileId} {p q : Progress}

lemma run_append (s : State) (text text' : List Char) :
    run file s (text ++ text') = run file (run file s text) text' :=
  List.foldl_append

lemma run_cons (p : Progress) (c : Char) (text : List Char) :
    run file (.reading p) (c :: text) = run file (p.step file c) text :=
  rfl

namespace Progress

def outcome (p : Progress) (file : FileId) (text : List Char) : Reading :=
  (run file (.reading p) text).finish file

def past (p : Progress) (text : List Char) (es : List Expr) : Progress where
  cursor := p.cursor.through text
  items := es.reverse ++ p.items
  enclosing := p.enclosing

def inside (p : Progress) (file : FileId) (bracket : Bracket) : Progress :=
  p.enter file bracket (p.cursor.advance bracket.opening)

lemma past_past (p : Progress) (text text' : List Char) (es es' : List Expr) :
    (p.past text es).past text' es' = p.past (text ++ text') (es ++ es') := by
  simp [past]

lemma outcome_step {c : Char} (h : p.step file c = .reading q) (text : List Char) :
    p.outcome file (c :: text) = q.outcome file text := by
  rw [outcome, run_cons, h, outcome]

lemma outcome_run {text : List Char} (h : run file (.reading p) text = .reading q) (after : List Char) :
    p.outcome file (text ++ after) = q.outcome file after := by
  rw [outcome, run_append, h, outcome]

lemma step_between (hp : p.mode = .between) (c : Char) : p.step file c = p.start file c := by
  simp only [step, hp]

lemma outcome_endAtom {start : Cursor} {text after : List Char} (h : p.mode = .atom start text)
    (hafter : ∀ c ∈ after.head?, isDelimiter c = true) :
    p.outcome file after = (p.endAtom file start text).outcome file after := by
  cases after with
  | nil =>
    change p.finish file = (p.endAtom file start text).finish file
    simp only [finish, h]
    rfl
  | cons c after =>
    have hstep : p.step file c = (p.endAtom file start text).step file c := by
      simp only [step, h, if_pos (hafter c rfl)]
      rfl
    rw [outcome, outcome, run_cons, run_cons, hstep]

lemma outcome_endComment {after : List Char} (h : p.mode = .comment) (hafter : ∀ c ∈ after.head?, c = '\n') :
    p.outcome file after = { p with mode := .between : Progress }.outcome file after := by
  cases after with
  | nil =>
    obtain ⟨cursor, mode, items, enclosing⟩ := p
    cases h
    cases enclosing <;> rfl
  | cons c after =>
    obtain rfl := hafter c rfl
    rw [outcome, outcome, run_cons, run_cons, step, step, h]
    rfl

lemma run_within_atom {start : Cursor} {text : List Char} (before : List Char)
    (h : ∀ c ∈ text, isDelimiter c = false) (hm : p.mode = .atom start before) : run file (.reading p) text =
      .reading { p with cursor := p.cursor.through text, mode := .atom start (text.reverse ++ before) } := by
  induction text generalizing p before with
  | nil =>
    rw [List.reverse_nil, List.nil_append, ← hm]
    rfl
  | cons c text ih =>
    obtain ⟨hc, htext⟩ := List.forall_mem_cons.mp h
    let next : Progress := { p with cursor := p.cursor.advance c, mode := .atom start (c :: before) }
    have hstep : p.step file c = .reading next := by
      rw [step, hm]
      simp only [hc, Bool.false_eq_true, if_false]
      rfl
    rw [run_cons, hstep, ih (c :: before) htext rfl, List.reverse_cons, List.append_assoc]
    rfl

lemma run_within_comment (file : FileId) {text : List Char} (h : '\n' ∉ text) (hm : p.mode = .comment) :
    run file (.reading p) text = .reading { p with cursor := p.cursor.through text } := by
  induction text generalizing p with
  | nil => rfl
  | cons c text ih =>
    obtain ⟨hc, htext⟩ := not_or.mp (List.mem_cons.not.mp h)
    have hstep : p.step file c = .reading { p with cursor := p.cursor.advance c } := by
      rw [step, hm]
      simp only [if_neg (Ne.symm hc)]
    rw [run_cons, hstep, ih (p := { p with cursor := p.cursor.advance c }) htext hm]
    rfl

lemma run_stringItem (file : FileId) {start : Cursor} {before : List Char} (hm : p.mode = .string start before) (c : Char) :
    run file (.reading p) (stringItem c) =
      .reading { p with cursor := p.cursor.through (stringItem c), mode := .string start (c :: before) } := by
  by_cases hc : c = '"' ∨ c = '\\'
  · let within : Progress := { p with cursor := p.cursor.advance '\\', mode := .escape start p.cursor before }
    have hbackslash : p.step file '\\' = .reading within := by
      rw [step, hm]
      rfl
    have hescaped : within.step file c =
        .reading { within with cursor := within.cursor.advance c, mode := .string start (c :: before) } := by
      simp only [step, within, if_pos hc]
    rw [stringItem, if_pos hc, run_cons, hbackslash, run_cons, hescaped]
    rfl
  · have hplain : p.step file c =
        .reading { p with cursor := p.cursor.advance c, mode := .string start (c :: before) } := by
      obtain ⟨hquote, hbackslash⟩ := not_or.mp hc
      simp only [step, hm, if_neg hquote, if_neg hbackslash]
    rw [stringItem, if_neg hc, run_cons, hplain]
    rfl

lemma run_within_string (file : FileId) {start : Cursor} (items before : List Char) (hm : p.mode = .string start before) :
    run file (.reading p) (items.flatMap stringItem) = .reading { p with
      cursor := p.cursor.through (items.flatMap stringItem), mode := .string start (items.reverse ++ before) } := by
  induction items generalizing p before with
  | nil =>
    rw [List.reverse_nil, List.nil_append, ← hm]
    rfl
  | cons c items ih =>
    let next : Progress := { p with cursor := p.cursor.through (stringItem c), mode := .string start (c :: before) }
    have hrest := ih (p := next) (c :: before) rfl
    rw [List.flatMap_cons, run_append, run_stringItem file hm c, hrest, List.reverse_cons, List.append_assoc,
      Cursor.through_append]
    rfl

lemma start_word {c : Char} (hc : isDelimiter c = false) :
    p.start file c = .reading { p with cursor := p.cursor.advance c, mode := .atom p.cursor [c] } := by
  simp only [isDelimiter, Bool.or_eq_false_iff, decide_eq_false_iff_not] at hc
  obtain ⟨⟨⟨⟨⟨⟨hblank, hopen⟩, hclose⟩, hopen'⟩, hclose'⟩, hquote⟩, hcomment⟩ := hc
  unfold start
  rw [if_neg (by simp [hblank])]
  split <;> first | rfl | contradiction

lemma outcome_atom {text after : List Char} (h : IsWord text) (hafter : ∀ c ∈ after.head?, isDelimiter c = true)
    (hp : p.mode = .between) : p.outcome file (text ++ after) =
      (p.past text [(Phrase.atom text).exprAt file p.cursor]).outcome file after := by
  obtain ⟨hne, hword⟩ := h
  cases text with
  | nil => exact absurd rfl hne
  | cons c rest =>
    obtain ⟨hc, hrest⟩ := List.forall_mem_cons.mp hword
    let first : Progress := { p with cursor := p.cursor.advance c, mode := .atom p.cursor [c] }
    have hstep : p.step file c = .reading first := (step_between hp c).trans (start_word hc)
    have hrun : run file (.reading first) rest = _ := run_within_atom [c] hrest rfl
    let last : Progress :=
      { p with cursor := p.cursor.through (c :: rest), mode := .atom p.cursor (rest.reverse ++ [c]) }
    have hend : last.endAtom file p.cursor (rest.reverse ++ [c]) =
        p.past (c :: rest) [(Phrase.atom (c :: rest)).exprAt file p.cursor] := by
      rw [endAtom, List.reverse_append, List.reverse_reverse]
      rfl
    rw [List.cons_append, outcome_step hstep, outcome_run hrun, ← hend]
    exact outcome_endAtom rfl hafter

lemma outcome_within_string (file : FileId) (items after : List Char) (hp : p.mode = .between) :
    p.outcome file ('"' :: (items.flatMap stringItem ++ after)) = { p with
      cursor := p.cursor.through ('"' :: items.flatMap stringItem)
      mode := .string p.cursor items.reverse : Progress }.outcome file after := by
  let first : Progress := { p with cursor := p.cursor.advance '"', mode := .string p.cursor [] }
  have hopen : p.step file '"' = .reading first := step_between hp '"'
  have hrun := run_within_string file (p := first) items [] rfl
  rw [outcome_step hopen, outcome_run hrun, List.append_nil]
  rfl

lemma outcome_string (file : FileId) (items after : List Char) (hp : p.mode = .between) :
    p.outcome file ((Phrase.string items).chars ++ after) =
      (p.past (Phrase.string items).chars [(Phrase.string items).exprAt file p.cursor]).outcome file after := by
  let within : Progress := { p with
    cursor := p.cursor.through ('"' :: items.flatMap stringItem), mode := .string p.cursor items.reverse }
  have hclose : within.step file '"' =
      .reading (p.past (Phrase.string items).chars [(Phrase.string items).exprAt file p.cursor]) := by
    have hcursor : within.cursor.advance '"' = p.cursor.through (Phrase.string items).chars := by
      rw [Phrase.chars, ← List.cons_append, Cursor.through_append]
      rfl
    have hstep : within.step file '"' = .reading { p with
        cursor := within.cursor.advance '"'
        mode := .between
        items := .quoted (String.ofList items.reverse.reverse) (p.cursor.upTo (within.cursor.advance '"') file) :: p.items } :=
      rfl
    rw [hstep, hcursor, List.reverse_reverse]
    rfl
  rw [Phrase.chars, List.cons_append, List.append_assoc, outcome_within_string file items _ hp]
  exact outcome_step hclose after

lemma outcome_blank {c : Char} (h : Text.isBlank c = true) (hp : p.mode = .between) (text : List Char) :
    p.outcome file (c :: text) = (p.past [c] []).outcome file text := by
  refine outcome_step ?_ text
  rw [step_between hp]
  unfold start
  refine (if_pos h).trans ?_
  rw [hp]
  rfl

lemma outcome_comment (file : FileId) {text after : List Char} (h : '\n' ∉ text) (hafter : ∀ c ∈ after.head?, c = '\n')
    (hp : p.mode = .between) :
    p.outcome file (';' :: (text ++ after)) = (p.past (';' :: text) []).outcome file after := by
  let first : Progress := { p with cursor := p.cursor.advance ';', mode := .comment }
  have hopen : p.step file ';' = .reading first := step_between hp ';'
  have hrun := run_within_comment file (p := first) h rfl
  rw [outcome_step hopen, outcome_run hrun, outcome_endComment rfl hafter]
  rfl

lemma outcome_opening (file : FileId) (bracket : Bracket) (hp : p.mode = .between) (text : List Char) :
    p.outcome file (bracket.opening :: text) = (p.inside file bracket).outcome file text := by
  refine outcome_step ?_ text
  rw [step_between hp]
  cases bracket <;> rfl

lemma step_closing (hp : p.mode = .between) (bracket : Bracket) :
    p.step file bracket.closing = p.close file bracket (p.cursor.advance bracket.closing) := by
  rw [step_between hp]
  cases bracket <;> rfl

lemma outcome_closing (file : FileId) (p : Progress) (bracket : Bracket) (body : Passage) (after : List Char) :
    ((p.inside file bracket).past body.chars (body.exprsAt file (p.cursor.advance bracket.opening))).outcome file
      (bracket.closing :: after) = (p.past (Phrase.list bracket body).chars
        [(Phrase.list bracket body).exprAt file p.cursor]).outcome file after := by
  let start := p.cursor.advance bracket.opening
  let q := (p.inside file bracket).past body.chars (body.exprsAt file start)
  let stop := q.cursor.advance bracket.closing
  have hstop : stop = p.cursor.through (Phrase.list bracket body).chars := by
    rw [Phrase.chars, Cursor.through_cons, Cursor.through_append]
    rfl
  have hspan : (p.cursor.upTo start file).span.cover (q.cursor.upTo stop file).span = ⟨p.cursor.offset, stop.offset⟩ := by
    have hopen : p.cursor.offset < start.offset := p.cursor.offset_lt_advance bracket.opening
    have hbody : start.offset ≤ q.cursor.offset := start.offset_le_through body.chars
    have hclose : q.cursor.offset < stop.offset := q.cursor.offset_lt_advance bracket.closing
    simp only [Cursor.upTo, Span.cover, Span.mk.injEq]
    omega
  have hitems : q.items.reverse = body.exprsAt file start := by
    change (_ ++ []).reverse = _
    rw [List.append_nil, List.reverse_reverse]
  have hclose : q.close file bracket stop = .reading { p with
      cursor := stop
      mode := .between
      items := .list bracket q.items.reverse ⟨file, p.cursor.line.toNat, p.cursor.column.toNat,
        (p.cursor.upTo start file).span.cover (q.cursor.upTo stop file).span⟩ :: p.items } :=
    if_pos rfl
  refine outcome_step ?_ after
  rw [step_closing rfl]
  refine hclose.trans ?_
  rw [hspan, hitems, hstop]
  rfl

mutual

theorem outcome_phrase (file : FileId) (f : Phrase) {after : List Char} {p : Progress} (h : f.Fits after)
    (hp : p.mode = .between) :
    p.outcome file (f.chars ++ after) = (p.past f.chars [f.exprAt file p.cursor]).outcome file after := by
  match f with
  | .atom text => exact outcome_atom h.1 h.2 hp
  | .string items => exact outcome_string file items after hp
  | .list bracket body =>
    have hbody := outcome_passage file body (p := p.inside file bracket) ((Phrase.fits_list_iff after).mp h) rfl
    have hopen := outcome_opening file bracket hp (body.chars ++ bracket.closing :: after)
    rw [← outcome_closing, Phrase.chars, List.cons_append, List.append_assoc]
    exact hopen.trans hbody

theorem outcome_passage (file : FileId) (f : Passage) {after : List Char} {p : Progress} (h : f.Fits after)
    (hp : p.mode = .between) :
    p.outcome file (f.chars ++ after) = (p.past f.chars (f.exprsAt file p.cursor)).outcome file after := by
  match f with
  | .nil =>
    obtain ⟨cursor, mode, items, enclosing⟩ := p
    cases hp
    rfl
  | .blank c rest =>
    have hrest := outcome_passage file rest (p := p.past [c] []) h.2 rfl
    rw [past_past] at hrest
    exact (outcome_blank h.1 hp _).trans hrest
  | .comment text rest =>
    have hrest := outcome_passage file rest (p := p.past (';' :: text) []) h.2.2 rfl
    rw [past_past] at hrest
    rw [Passage.chars, List.cons_append, List.append_assoc, outcome_comment file h.1 h.2.1 hp]
    exact hrest
  | .phrase first rest =>
    have hrest := outcome_passage file rest (p := p.past first.chars [first.exprAt file p.cursor]) h.2 rfl
    rw [past_past] at hrest
    rw [Passage.chars, List.append_assoc, outcome_phrase file first h.1 hp]
    exact hrest

end

lemma complete_extend (henclosing : q.enclosing = p.enclosing) (hitems : p.items <:+ q.items) :
    p.complete <+: q.complete := by
  rw [complete, complete, henclosing]
  cases p.enclosing.getLast? with
  | none => exact List.reverse_prefix.mpr hitems
  | some _ => exact List.prefix_rfl

lemma complete_within {bracket : Bracket} {position : Position}
    (h : q.enclosing = ⟨bracket, position, p.items⟩ :: p.enclosing) : q.complete = p.complete := by
  rw [complete, complete, h]
  cases p.enclosing with
  | nil => rfl
  | cons innermost outer => rw [List.getLast?_cons_cons, List.getLast?_cons]

end Progress

def State.complete : State → List Expr
  | .reading p => p.complete
  | .failed exprs _ _ _ => exprs

namespace Progress

lemma complete_close (file : FileId) (p : Progress) (found : Bracket) (next : Cursor) :
    p.complete <+: (p.close file found next).complete := by
  obtain ⟨cursor, mode, items, enclosing⟩ := p
  cases enclosing with
  | nil => exact List.prefix_rfl
  | cons innermost outer =>
    obtain ⟨bracket, opened, before⟩ := innermost
    let outside : Progress := { items := before, enclosing := outer }
    have hcomplete : complete ⟨cursor, mode, items, ⟨bracket, opened, before⟩ :: outer⟩ = outside.complete :=
      complete_within rfl
    unfold close
    dsimp only
    split
    · rw [hcomplete]
      exact complete_extend rfl (List.suffix_cons _ _)
    · exact List.prefix_rfl

lemma complete_start (file : FileId) (p : Progress) (c : Char) : p.complete <+: (p.start file c).complete := by
  have henter (bracket : Bracket) (next : Cursor) : p.complete <+: (p.enter file bracket next).complete := by
    have hcomplete : (p.enter file bracket next).complete = p.complete := complete_within rfl
    exact hcomplete ▸ List.prefix_rfl
  unfold start
  dsimp only
  split
  · exact List.prefix_rfl
  · split
    · exact List.prefix_rfl
    · exact List.prefix_rfl
    · exact henter _ _
    · exact henter _ _
    · exact complete_close file p _ _
    · exact complete_close file p _ _
    · exact List.prefix_rfl

lemma complete_step (file : FileId) (p : Progress) (c : Char) : p.complete <+: (p.step file c).complete := by
  unfold step
  dsimp only
  split
  · exact complete_start file p c
  · exact List.prefix_rfl
  · rename_i start text _
    have hatom : p.complete <+: (p.endAtom file start text).complete := complete_extend rfl (List.suffix_cons _ _)
    split
    · exact hatom.trans (complete_start file _ c)
    · exact List.prefix_rfl
  · split
    · exact complete_extend rfl (List.suffix_cons _ _)
    · split <;> exact List.prefix_rfl
  · split <;> exact List.prefix_rfl

end Progress

lemma step_failed (file : FileId) (exprs : List Expr) (error : ReadError) (cursor : Cursor) (trailing : Trailing)
    (c : Char) : ∃ cursor' trailing', State.step file (.failed exprs error cursor trailing) c =
      .failed exprs error cursor' trailing' := by
  cases trailing with
  | between =>
    by_cases hblank : Text.isBlank c = true
    · exact ⟨_, _, if_pos hblank⟩
    · by_cases hcomment : c = ';'
      · exact ⟨_, _, (if_neg hblank).trans (if_pos hcomment)⟩
      · exact ⟨_, _, (if_neg hblank).trans (if_neg hcomment)⟩
  | comment => exact ⟨_, _, rfl⟩
  | halted => exact ⟨_, _, rfl⟩

lemma run_failed (file : FileId) (exprs : List Expr) (error : ReadError) : ∀ (text : List Char) (cursor : Cursor)
    (trailing : Trailing), ∃ cursor' trailing', run file (.failed exprs error cursor trailing) text =
      .failed exprs error cursor' trailing'
  | [], cursor, trailing => ⟨cursor, trailing, rfl⟩
  | c :: text, cursor, trailing => by
    obtain ⟨cursor', trailing', hstep⟩ := step_failed file exprs error cursor trailing c
    obtain ⟨cursor'', trailing'', hrun⟩ := run_failed file exprs error text cursor' trailing'
    exact ⟨cursor'', trailing'', by rw [← hrun, ← hstep]; rfl⟩

lemma complete_step (file : FileId) (s : State) (c : Char) : s.complete <+: (s.step file c).complete := by
  cases s with
  | reading p => exact p.complete_step file c
  | failed exprs error cursor trailing =>
    obtain ⟨_, _, hstep⟩ := step_failed file exprs error cursor trailing c
    rw [hstep]
    exact List.prefix_rfl

lemma complete_run (file : FileId) : ∀ (text : List Char) (s : State), s.complete <+: (run file s text).complete
  | [], _ => List.prefix_rfl
  | c :: text, s => (complete_step file s c).trans (complete_run file text (s.step file c))

lemma complete_finish (file : FileId) (s : State) : s.complete <+: (s.finish file).exprs := by
  cases s with
  | failed exprs error cursor trailing => exact List.prefix_rfl
  | reading p =>
    obtain ⟨cursor, mode, items, enclosing⟩ := p
    cases mode with
    | atom start text => exact Progress.complete_extend rfl (List.suffix_cons _ _)
    | _ => exact List.prefix_rfl

namespace Progress

lemma complete_outcome (file : FileId) (p : Progress) (text : List Char) :
    p.complete <+: (p.outcome file text).exprs :=
  (complete_run file text (.reading p)).trans (complete_finish file _)

def Halts (p : Progress) (file : FileId) (text : List Char) (error : ReadError) : Prop :=
  ∃ finish, p.outcome file text = ⟨p.complete, some error, finish⟩

lemma halts_of_fail {c : Char} {problem : ReadProblem} {position : Position} {next : Cursor}
    (h : p.step file c = p.fail problem position next) (text : List Char) : p.Halts file (c :: text) ⟨problem, position⟩ := by
  obtain ⟨cursor, trailing, hrun⟩ := run_failed file p.complete ⟨problem, position⟩ text next .between
  refine ⟨cursor.position file, ?_⟩
  rw [outcome, run_cons, h, fail, hrun]
  rfl

lemma Halts.of_outcome {text after : List Char} {error : ReadError} (h : q.Halts file after error)
    (houtcome : p.outcome file text = q.outcome file after) (hcomplete : q.complete = p.complete) :
    p.Halts file text error := by
  obtain ⟨finish, hhalts⟩ := h
  exact ⟨finish, by rw [houtcome, hhalts, hcomplete]⟩

lemma complete_inside (p : Progress) (file : FileId) (bracket : Bracket) (text : List Char) (es : List Expr) :
    ((p.inside file bracket).past text es).complete = p.complete :=
  complete_within rfl

def Unquoted (text : List Char) : Prop :=
  text = [] ∨ text = ['\\'] ∨ ∃ c after, text = '\\' :: c :: after ∧ ¬(c = '"' ∨ c = '\\')

lemma halts_escape (file : FileId) (items : List Char) {c : Char} (after : List Char) (hc : ¬(c = '"' ∨ c = '\\'))
    (hp : p.mode = .between) : p.Halts file ('"' :: (items.flatMap stringItem ++ '\\' :: c :: after))
      ⟨.invalidEscape c, (p.cursor.through ('"' :: items.flatMap stringItem)).position file⟩ := by
  let cursor := p.cursor.through ('"' :: items.flatMap stringItem)
  let within : Progress := { p with cursor, mode := .string p.cursor items.reverse }
  let escaped : Progress :=
    { p with cursor := cursor.advance '\\', mode := .escape p.cursor cursor items.reverse }
  have hbackslash : within.step file '\\' = .reading escaped := rfl
  have hfail : escaped.step file c =
      escaped.fail (.invalidEscape c) (cursor.position file) (escaped.cursor.advance c) := by
    simp only [step, escaped, if_neg hc]
  apply ((halts_of_fail hfail after).of_outcome (outcome_step hbackslash _) rfl).of_outcome
  · exact outcome_within_string file items _ hp
  · rfl

lemma halts_string (file : FileId) {items text : List Char} (h : Unquoted text) (hp : p.mode = .between) :
    ∃ error, p.Halts file ('"' :: (items.flatMap stringItem ++ text)) error := by
  have houtcome (text : List Char) := outcome_within_string file items text hp
  rcases h with rfl | rfl | ⟨c, after, rfl, hc⟩
  · exact ⟨_, _, houtcome _⟩
  · exact ⟨_, _, houtcome _⟩
  · exact ⟨_, halts_escape file items after hc hp⟩

def Unclosed (bracket : Bracket) (text : List Char) : Prop :=
  text = [] ∨ (∃ found after, found ≠ bracket ∧ text = found.closing :: after) ∨
    ∀ (file : FileId) (p : Progress), p.mode = .between → ∃ error, p.Halts file text error

lemma halts_list (file : FileId) {bracket : Bracket} {body : Passage} {text : List Char} (hbody : body.Fits text)
    (h : Unclosed bracket text) (hp : p.mode = .between) :
    ∃ error, p.Halts file (bracket.opening :: (body.chars ++ text)) error := by
  let start := p.cursor.advance bracket.opening
  let q := (p.inside file bracket).past body.chars (body.exprsAt file start)
  have houtcome : p.outcome file (bracket.opening :: (body.chars ++ text)) = q.outcome file text :=
    (outcome_opening file bracket hp _).trans (outcome_passage file body (p := p.inside file bracket) hbody rfl)
  have hcomplete : q.complete = p.complete := complete_inside p file bracket _ _
  rcases h with rfl | ⟨found, after, hfound, rfl⟩ | h
  · refine ⟨⟨.unclosedList bracket, p.cursor.upTo start file⟩, q.cursor.position file, ?_⟩
    rw [houtcome, ← hcomplete]
    rfl
  · have hfail : q.step file found.closing = q.fail (.mismatchedClose bracket found)
        (q.cursor.upTo (q.cursor.advance found.closing) file) (q.cursor.advance found.closing) :=
      (step_closing rfl found).trans (if_neg (Ne.symm hfound))
    exact ⟨_, (halts_of_fail hfail after).of_outcome houtcome hcomplete⟩
  · obtain ⟨error, hhalts⟩ := h file q rfl
    exact ⟨error, hhalts.of_outcome houtcome hcomplete⟩

end Progress

end Reader

open Reader Progress

def Stops (text : List Char) : Prop :=
  text = [] ∨ (∃ (bracket : Bracket) (after : List Char), text = bracket.closing :: after) ∨
    ∀ (file : FileId) (p : Progress), p.mode = .between → ∃ error, p.Halts file text error

lemma exists_string : ∀ text : List Char, ∃ items rest : List Char, text = items.flatMap stringItem ++ rest ∧
    ((∃ after, rest = '"' :: after) ∨ Unquoted rest)
  | [] => ⟨[], [], rfl, .inr (.inl rfl)⟩
  | c :: text => by
    by_cases hquote : c = '"'
    · exact ⟨[], _, rfl, .inl ⟨text, congrArg (· :: text) hquote⟩⟩
    by_cases hbackslash : c = '\\'
    · subst hbackslash
      match text with
      | [] => exact ⟨[], _, rfl, .inr (.inr (.inl rfl))⟩
      | escaped :: text =>
        by_cases hescaped : escaped = '"' ∨ escaped = '\\'
        · obtain ⟨items, rest, rfl, hrest⟩ := exists_string text
          exact ⟨escaped :: items, rest, by rw [List.flatMap_cons, stringItem, if_pos hescaped]; rfl, hrest⟩
        · exact ⟨[], _, rfl, .inr (.inr (.inr ⟨escaped, text, rfl, hescaped⟩))⟩
    · obtain ⟨items, rest, rfl, hrest⟩ := exists_string text
      exact ⟨c :: items, rest, by rw [List.flatMap_cons, stringItem, if_neg (not_or_intro hquote hbackslash)]; rfl, hrest⟩

theorem Passage.exists_longest (text : List Char) : ∃ (f : Passage) (after : List Char),
    text = f.chars ++ after ∧ f.Fits after ∧ Stops after := by
  induction hlength : text.length using Nat.strong_induction_on generalizing text with
  | _ n ih =>
    cases text with
    | nil => exact ⟨.nil, [], rfl, trivial, .inl rfl⟩
    | cons c text =>
      have hrest (rest : List Char) (hle : rest.length ≤ text.length) : ∃ (f : Passage) (after : List Char),
          rest = f.chars ++ after ∧ f.Fits after ∧ Stops after :=
        ih rest.length (by rw [← hlength, List.length_cons]; omega) rest rfl
      have hc := leadOf_begins c
      cases hlead : leadOf c <;> rw [hlead] at hc
      case blank =>
        obtain ⟨f, after, rfl, hf, hafter⟩ := hrest text (Nat.le_refl text.length)
        exact ⟨.blank c f, after, rfl, ⟨hc, hf⟩, hafter⟩
      case comment =>
        subst hc
        obtain ⟨line, rest, rfl, hline, hend⟩ := exists_run (fun c => decide (c ≠ '\n')) text
        obtain ⟨f, after, rfl, hf, hafter⟩ := hrest rest (by rw [List.length_append]; omega)
        refine ⟨.comment line f, after, by rw [Passage.chars, List.cons_append, List.append_assoc], ⟨?_, ?_, hf⟩, hafter⟩
        · exact fun hmem => of_decide_eq_true (hline _ hmem) rfl
        · exact fun c hc => not_not.mp (of_decide_eq_false (hend c hc))
      case quote =>
        subst hc
        obtain ⟨items, rest, rfl, ⟨rest, rfl⟩ | hunquoted⟩ := exists_string text
        · obtain ⟨f, after, rfl, hf, hafter⟩ := hrest rest (by rw [List.length_append, List.length_cons]; omega)
          refine ⟨.phrase (.string items) f, after, ?_, ⟨trivial, hf⟩, hafter⟩
          rw [Passage.chars, Phrase.chars]
          simp only [List.cons_append, List.append_assoc, List.nil_append]
        · exact ⟨.nil, _, rfl, trivial, .inr (.inr fun file p hp => halts_string file hunquoted hp)⟩
      case opening bracket =>
        subst hc
        obtain ⟨body, rest, rfl, hbody, hstops⟩ := hrest text (Nat.le_refl text.length)
        have hunclosed (h : Unclosed bracket rest) : Stops (bracket.opening :: (body.chars ++ rest)) :=
          .inr (.inr fun file p hp => halts_list file hbody h hp)
        rcases hstops with rfl | ⟨found, rest, rfl⟩ | hhalts
        · exact ⟨.nil, _, rfl, trivial, hunclosed (.inl rfl)⟩
        · by_cases hfound : found = bracket
          · subst hfound
            obtain ⟨f, after, rfl, hf, hafter⟩ := hrest rest (by rw [List.length_append, List.length_cons]; omega)
            refine ⟨.phrase (.list found body) f, after, ?_, ⟨(Phrase.fits_list_iff _).mpr hbody, hf⟩, hafter⟩
            rw [Passage.chars, Phrase.chars]
            simp only [List.cons_append, List.append_assoc, List.nil_append]
          · exact ⟨.nil, _, rfl, trivial, hunclosed (.inr (.inl ⟨found, rest, hfound, rfl⟩))⟩
        · exact ⟨.nil, _, rfl, trivial, hunclosed (.inr (.inr hhalts))⟩
      case closing bracket => exact ⟨.nil, _, rfl, trivial, .inr (.inl ⟨bracket, text, by rw [hc]⟩)⟩
      case word =>
        obtain ⟨word, rest, htext, hword, hend⟩ := exists_run (fun c => !isDelimiter c) text
        subst htext
        obtain ⟨f, after, rfl, hf, hafter⟩ := hrest rest (by rw [List.length_append]; omega)
        refine ⟨.phrase (.atom (c :: word)) f, after, ?_, ⟨⟨⟨List.cons_ne_nil c word, ?_⟩, ?_⟩, hf⟩, hafter⟩
        · rw [Passage.chars, Phrase.chars, List.append_assoc, List.cons_append]
        · exact List.forall_mem_cons.mpr ⟨hc, fun d hd => Bool.not_eq_true' _ ▸ hword d hd⟩
        · exact fun d hd => Bool.not_eq_false' _ ▸ hend d hd

lemma readChars_passage (file : FileId) {f : Passage} {after : List Char} (h : f.Fits after) :
    readChars file (f.chars ++ after) = (({} : Progress).past f.chars (f.exprsAt file {})).outcome file after :=
  outcome_passage file f (p := {}) h rfl

lemma complete_passage (file : FileId) (f : Passage) :
    (({} : Progress).past f.chars (f.exprsAt file {})).complete = f.exprsAt file {} := by
  change (_ ++ []).reverse = _
  rw [List.append_nil, List.reverse_reverse]

theorem readChars_exact (file : FileId) {f : Passage} {text : List Char} (h : f.Derives text) :
    readChars file text = ⟨f.exprsAt file {}, none, (({} : Cursor).through text).position file⟩ := by
  obtain ⟨rfl, hf⟩ := h
  have hread := readChars_passage file hf
  rw [List.append_nil] at hread
  exact hread.trans (congrArg (Reading.mk · none _) (complete_passage file f))

lemma readChars_derived (file : FileId) {f : Passage} {text : List Char} (h : f.Derives text) :
    ∃ es finish, readChars file text = ⟨es, none, finish⟩ ∧ es.map (withPositions default) = f.exprs :=
  ⟨_, _, readChars_exact file h, f.map_exprsAt file {}⟩

theorem readChars_stopped_exact (file : FileId) {f : Passage} {after : List Char} (h : f.Fits after) (hstops : Stops after)
    (hafter : after ≠ []) : ∃ error finish, readChars file (f.chars ++ after) = ⟨f.exprsAt file {}, some error, finish⟩ := by
  let q := ({} : Progress).past f.chars (f.exprsAt file {})
  have hhalts : ∃ error, q.Halts file after error := by
    rcases hstops with rfl | ⟨found, rest, rfl⟩ | hhalts
    · exact absurd rfl hafter
    · have hfail : q.step file found.closing = q.fail (.unexpectedClose found)
          (q.cursor.upTo (q.cursor.advance found.closing) file) (q.cursor.advance found.closing) :=
        step_closing rfl found
      exact ⟨_, halts_of_fail hfail rest⟩
    · exact hhalts file q rfl
  obtain ⟨error, finish, hread⟩ := hhalts
  rw [complete_passage] at hread
  exact ⟨error, finish, (readChars_passage file h).trans hread⟩

lemma readChars_stopped (file : FileId) {f : Passage} {after : List Char} (h : f.Fits after) (hstops : Stops after)
    (hafter : after ≠ []) : ∃ es error finish, readChars file (f.chars ++ after) = ⟨es, some error, finish⟩ ∧
      es.map (withPositions default) = f.exprs := by
  obtain ⟨error, finish, hread⟩ := readChars_stopped_exact file h hstops hafter
  exact ⟨_, error, finish, hread, f.map_exprsAt file {}⟩

lemma exists_exprsAt (file : FileId) (text : List Char) : ∃ (f : Passage) (after : List Char), text = f.chars ++ after ∧
    f.Fits after ∧ (readChars file text).exprs = f.exprsAt file {} ∧ ((readChars file text).error = none → after = []) := by
  obtain ⟨f, after, rfl, hf, hstops⟩ := Passage.exists_longest text
  refine ⟨f, after, rfl, hf, ?_⟩
  by_cases hafter : after = []
  · subst hafter
    rw [readChars_exact file ⟨(List.append_nil f.chars).symm, hf⟩]
    exact ⟨rfl, fun _ => rfl⟩
  · obtain ⟨error, finish, hread⟩ := readChars_stopped_exact file hf hstops hafter
    rw [hread]
    exact ⟨rfl, nofun⟩

lemma exprs_isPrefix (file : FileId) {f : Passage} {after : List Char} (h : f.Fits after) :
    f.exprs <+: (readChars file (f.chars ++ after)).exprs.map (withPositions default) := by
  let q := ({} : Progress).past f.chars (f.exprsAt file {})
  have hcomplete : q.complete.map (withPositions default) = f.exprs := by
    rw [complete_passage, f.map_exprsAt]
  rw [readChars_passage file h, ← hcomplete]
  exact (q.complete_outcome file after).map _

end Expr

namespace Reading

lemma stream_of_none {r : Reading} (h : r.error = none) : r.stream = r.exprs.map .ok := by
  rw [stream, h]
  exact List.append_nil _

lemma stream_of_some {r : Reading} {error : ReadError} (h : r.error = some error) :
    r.stream = r.exprs.map .ok ++ [.error error] := by
  rw [stream, h]
  rfl

lemma error_eq_none {r : Reading} {es : List Expr} (h : r.stream = es.map .ok) : r.error = none := by
  cases herror : r.error with
  | none => rfl
  | some error =>
    have hmem : Except.error error ∈ r.stream := by
      rw [stream_of_some herror]
      exact List.mem_append_right _ (List.mem_singleton_self _)
    rw [h] at hmem
    obtain ⟨_, _, hok⟩ := List.mem_map.mp hmem
    cases hok

end Reading

namespace Expr

/-- The reader hands out trees and no fault exactly for the texts of the grammar. They are the trees of the
derivation, which is the only one. Of any other text it hands out the trees that are complete before the fault, so
as many as a passage can have that the text begins with, and then one fault. -/
theorem read_follows_grammar (file : FileId) (text : String) :
    ((∃ es : List Expr, (read file text).stream = es.map .ok) ↔ ∃ f : Passage, f.Derives text.toList) ∧
    (∀ f : Passage, f.Derives text.toList →
      (∃ es : List Expr, (read file text).stream = es.map .ok ∧ es.map (withPositions default) = f.exprs) ∧
      ∀ f' : Passage, f'.Derives text.toList → f' = f) ∧
    ((¬∃ f : Passage, f.Derives text.toList) → ∃ (es : List Expr) (error : ReadError) (f : Passage) (after : List Char),
      (read file text).stream = es.map .ok ++ [.error error] ∧ es.map (withPositions default) = f.exprs ∧
      text.toList = f.chars ++ after ∧ f.Fits after ∧
      ∀ (f' : Passage) (after' : List Char), text.toList = f'.chars ++ after' → f'.Fits after' →
        f'.exprs <+: f.exprs) := by
  obtain ⟨f, after, htext, hf, hstops⟩ := Passage.exists_longest text.toList
  have hread (f : Passage) (h : f.Derives text.toList) :
      ∃ es : List Expr, (read file text).stream = es.map .ok ∧ es.map (withPositions default) = f.exprs := by
    obtain ⟨es, finish, heq, hexprs⟩ := readChars_derived file h
    refine ⟨es, ?_, hexprs⟩
    rw [read, heq]
    exact Reading.stream_of_none rfl
  have hfault (hafter : after ≠ []) : ∃ es error finish, read file text = ⟨es, some error, finish⟩ ∧
      es.map (withPositions default) = f.exprs := by
    rw [read, htext]
    exact readChars_stopped file hf hstops hafter
  refine ⟨⟨fun ⟨es, hes⟩ => ?_, fun ⟨f, h⟩ => (hread f h).imp fun _ => And.left⟩, fun f h => ⟨hread f h, ?_⟩, fun hnone => ?_⟩
  · have herror := Reading.error_eq_none hes
    have hafter : after = [] := by
      by_contra hafter
      obtain ⟨_, _, _, heq, -⟩ := hfault hafter
      rw [heq] at herror
      cases herror
    subst hafter
    exact ⟨f, by rw [htext, List.append_nil], hf⟩
  · intro f' h'
    refine (Passage.unique f' f h'.2 h.2 nofun nofun ?_).1
    rw [h'.1, h.1]
  · have hafter : after ≠ [] := by
      rintro rfl
      exact hnone ⟨f, by rw [htext, List.append_nil], hf⟩
    obtain ⟨es, error, finish, heq, hexprs⟩ := hfault hafter
    refine ⟨es, error, f, after, by rw [heq]; exact Reading.stream_of_some rfl, hexprs, htext, hf, ?_⟩
    intro f' after' htext' hf'
    have hprefix := exprs_isPrefix file hf'
    rw [← htext'] at hprefix
    change _ <+: (read file text).exprs.map _ at hprefix
    rw [heq, hexprs] at hprefix
    exact hprefix

end Expr

end RecordSchema
