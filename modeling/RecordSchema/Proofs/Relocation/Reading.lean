import RecordSchema.Proofs.Expr.Position
import RecordSchema.Proofs.Relocation.Basic

namespace RecordSchema.Expr

section

variable {r r' : Relocation}

mutual

lemma relocate_congr : ∀ {e : Expr}, (∀ p, e.Covers p → r.position p = r'.position p) → e.relocate r = e.relocate r'
  | atom _ p, h => by rw [relocate, relocate, h p ⟨_, .root, rfl⟩]
  | quoted _ p, h => by rw [relocate, relocate, h p ⟨_, .root, rfl⟩]
  | list bracket items p, h => by
    rw [relocate, relocate, h p ⟨_, .root, rfl⟩, relocateEach_congr]
    rintro e he q ⟨n, hn, rfl⟩
    exact h _ ⟨n, .item he hn, rfl⟩

lemma relocateEach_congr : ∀ {es : List Expr}, (∀ e ∈ es, ∀ p, e.Covers p → r.position p = r'.position p) →
    relocateEach r es = relocateEach r' es
  | [], _ => rfl
  | e :: es, h => by
    rw [relocateEach, relocateEach, relocate_congr (h e List.mem_cons_self),
      relocateEach_congr fun e' he' => h e' (List.mem_cons_of_mem e he')]

end

end

namespace Reader

variable (r : Relocation) (place : Cursor → Cursor) (base : List Expr)

structure Moves (file file' : FileId) : Prop where
  advance_eq : ∀ here c, (place here).advance c = place (here.advance c)
  upTo_eq : ∀ start stop, (place start).upTo (place stop) file' = r.position (start.upTo stop file)
  cover_eq : ∀ opened position : Position, r.position { opened with span := opened.span.cover position.span } =
    { r.position opened with span := (r.position opened).span.cover (r.position position).span }

@[simp] def Mode.move : Mode → Mode
  | between => between
  | comment => comment
  | atom start text => atom (place start) text
  | string start text => string (place start) text
  | escape start backslash text => escape (place start) (place backslash) text

/-- The lists that are open, and the same ones elsewhere, behind the expressions `base`. -/
inductive Stacked : List Expr → List OpenList → List Expr → List OpenList → Prop
  | outside {items : List Expr} : Stacked items [] (items.map (.relocate r) ++ base) []
  | within {items before before' : List Expr} {outer outer' : List OpenList} {bracket : Bracket} {position : Position}
      (around : Stacked before outer before' outer') : Stacked items (⟨bracket, position, before⟩ :: outer)
        (items.map (.relocate r)) (⟨bracket, r.position position, before'⟩ :: outer')

structure Progress.Moved (p p' : Progress) : Prop where
  cursor_eq : p'.cursor = place p.cursor
  mode_eq : p'.mode = p.mode.move place
  stacked : Stacked r base p.items p.enclosing p'.items p'.enclosing

inductive State.Moved : State → State → Prop
  | reading {p p' : Progress} (moved : p.Moved r place base p') : State.Moved (.reading p) (.reading p')
  | failed {exprs : List Expr} {error : ReadError} {cursor : Cursor} {trailing : Trailing} :
      State.Moved (.failed exprs error cursor trailing)
        (.failed (base.reverse ++ exprs.map (.relocate r)) (error.relocate r) (place cursor) trailing)

variable {r place base} {file file' : FileId} {p p' : Progress} {s s' : State} {items items' : List Expr}
  {enclosing enclosing' : List OpenList}

lemma Moves.position_eq (hm : Moves r place file file') (here : Cursor) :
    (place here).position file' = r.position (here.position file) :=
  hm.upTo_eq here here

namespace Stacked

lemma push (h : Stacked r base items enclosing items' enclosing') (e : Expr) :
    Stacked r base (e :: items) enclosing (e.relocate r :: items') enclosing' := by
  cases h with
  | outside => exact .outside
  | within around => exact .within around

lemma complete (h : Stacked r base items enclosing items' enclosing') (cursor cursor' : Cursor) (mode mode' : Mode) :
    Progress.complete ⟨cursor', mode', items', enclosing'⟩ =
      base.reverse ++ (Progress.complete ⟨cursor, mode, items, enclosing⟩).map (.relocate r) := by
  induction h with
  | outside => simp [Progress.complete]
  | @within items before before' outer outer' bracket position around ih =>
    have hleft : Progress.complete ⟨cursor, mode, items, ⟨bracket, position, before⟩ :: outer⟩ =
        Progress.complete ⟨cursor, mode, before, outer⟩ :=
      Progress.complete_within rfl
    have hright : Progress.complete ⟨cursor', mode', items.map (.relocate r),
        ⟨bracket, r.position position, before'⟩ :: outer'⟩ = Progress.complete ⟨cursor', mode', before', outer'⟩ :=
      Progress.complete_within rfl
    rw [hleft, hright, ih]

end Stacked

namespace Progress.Moved

lemma complete (h : p.Moved r place base p') : p'.complete = base.reverse ++ p.complete.map (.relocate r) :=
  h.stacked.complete _ _ _ _

lemma fail (h : p.Moved r place base p') (problem : ReadProblem) (position : Position) (cursor : Cursor) :
    State.Moved r place base (p.fail problem position cursor)
      (p'.fail problem (r.position position) (place cursor)) := by
  rw [Progress.fail, Progress.fail, h.complete]
  exact .failed

variable (hm : Moves r place file file')

include hm

lemma endAtom (h : p.Moved r place base p') (start : Cursor) (text : List Char) :
    (p.endAtom file start text).Moved r place base (p'.endAtom file' (place start) text) where
  cursor_eq := h.cursor_eq
  mode_eq := rfl
  stacked := by
    rw [Progress.endAtom, Progress.endAtom, h.cursor_eq, hm.upTo_eq]
    exact h.stacked.push _

lemma enter (h : p.Moved r place base p') (bracket : Bracket) (next : Cursor) :
    (p.enter file bracket next).Moved r place base (p'.enter file' bracket (place next)) where
  cursor_eq := rfl
  mode_eq := rfl
  stacked := by
    rw [Progress.enter, Progress.enter, h.cursor_eq, hm.upTo_eq]
    exact .within h.stacked

lemma close (h : p.Moved r place base p') (found : Bracket) (next : Cursor) :
    State.Moved r place base (p.close file found next) (p'.close file' found (place next)) := by
  have hposition : p'.cursor.upTo (place next) file' = r.position (p.cursor.upTo next file) := by
    rw [h.cursor_eq, hm.upTo_eq]
  have hfail (problem : ReadProblem) := h.fail problem (p.cursor.upTo next file) next
  rw [← hposition] at hfail
  obtain ⟨cursor, mode, items, enclosing⟩ := p
  obtain ⟨cursor', mode', items', enclosing'⟩ := p'
  obtain ⟨rfl, rfl, hstacked⟩ := h
  cases hstacked with
  | outside => exact hfail (.unexpectedClose found)
  | @within _ before before' outer outer' bracket position around =>
    unfold Progress.close
    dsimp only
    split
    · refine .reading ⟨rfl, rfl, ?_⟩
      have hpush := around.push
        (.list bracket items.reverse { position with span := position.span.cover (cursor.upTo next file).span })
      rw [relocate, relocateEach_eq_map, hm.cover_eq, ← hposition, List.map_reverse] at hpush
      exact hpush
    · exact hfail (.mismatchedClose bracket found)

lemma move (h : p.Moved r place base p') (c : Char) {mode mode' : Mode} (hmode : mode' = mode.move place) :
    State.Moved r place base (.reading { p with cursor := p.cursor.advance c, mode })
      (.reading { p' with cursor := p'.cursor.advance c, mode := mode' }) :=
  .reading ⟨by rw [h.cursor_eq, hm.advance_eq], hmode, h.stacked⟩

lemma start (h : p.Moved r place base p') (c : Char) :
    State.Moved r place base (p.start file c) (p'.start file' c) := by
  have hnext (c : Char) : p'.cursor.advance c = place (p.cursor.advance c) := by rw [h.cursor_eq, hm.advance_eq]
  unfold Progress.start
  dsimp only
  split
  · exact h.move hm c h.mode_eq
  · split
    · exact h.move hm _ rfl
    · exact h.move hm _ (by rw [h.cursor_eq]; rfl)
    · rw [hnext]
      exact .reading (h.enter hm .round _)
    · rw [hnext]
      exact .reading (h.enter hm .square _)
    · rw [hnext]
      exact h.close hm .round _
    · rw [hnext]
      exact h.close hm .square _
    · exact h.move hm _ (by rw [h.cursor_eq]; rfl)

lemma step (h : p.Moved r place base p') (c : Char) :
    State.Moved r place base (p.step file c) (p'.step file' c) := by
  have hnext : p'.cursor.advance c = place (p.cursor.advance c) := by rw [h.cursor_eq, hm.advance_eq]
  unfold Progress.step
  dsimp only
  rw [h.mode_eq]
  cases p.mode with
  | between => exact h.start hm c
  | comment =>
    refine h.move hm c ?_
    split <;> rfl
  | atom start text =>
    dsimp only [Mode.move]
    split
    · exact (h.endAtom hm start text).start hm c
    · exact h.move hm c rfl
  | string start text =>
    dsimp only [Mode.move]
    split
    · rw [hnext, hm.upTo_eq]
      exact .reading ⟨rfl, rfl, h.stacked.push _⟩
    · split
      · exact h.move hm c (by rw [h.cursor_eq]; rfl)
      · exact h.move hm c rfl
  | escape start backslash text =>
    dsimp only [Mode.move]
    split
    · exact h.move hm c rfl
    · rw [hnext, hm.position_eq]
      exact h.fail _ _ _

lemma finish (h : p.Moved r place base p') : (p'.finish file').exprs =
    base.reverse ++ (p.finish file).exprs.map (.relocate r) ∧
      (p'.finish file').error = (p.finish file).error.map (.relocate r) ∧
      (p'.finish file').finish = r.position (p.finish file).finish := by
  have hcomplete := h.complete
  have hended (start : Cursor) (text : List Char) := (h.endAtom hm start text).complete
  obtain ⟨cursor, mode, items, enclosing⟩ := p
  obtain ⟨cursor', mode', items', enclosing'⟩ := p'
  obtain ⟨rfl, rfl, hstacked⟩ := h
  cases mode with
  | atom start text =>
    refine ⟨hended start text, ?_, hm.position_eq cursor⟩
    cases hstacked <;> rfl
  | string start text | escape start backslash text =>
    refine ⟨hcomplete, ?_, hm.position_eq cursor⟩
    exact congrArg (fun p => some (ReadError.mk .unterminatedString p)) (hm.position_eq start)
  | between | comment =>
    refine ⟨hcomplete, ?_, hm.position_eq cursor⟩
    cases hstacked <;> rfl

end Progress.Moved

namespace State.Moved

variable (hm : Moves r place file file')

include hm

lemma step (h : s.Moved r place base s') (c : Char) : (s.step file c).Moved r place base (s'.step file' c) := by
  cases h with
  | reading moved => exact moved.step hm c
  | @failed exprs error cursor trailing =>
    cases trailing with
    | between =>
      unfold State.step
      dsimp only
      rw [hm.advance_eq]
      split
      · exact .failed
      · split <;> exact .failed
    | comment =>
      unfold State.step
      dsimp only
      rw [hm.advance_eq]
      exact .failed
    | halted => exact .failed

lemma run : ∀ (text : List Char) {s s' : State}, s.Moved r place base s' →
    (run file s text).Moved r place base (run file' s' text)
  | [], _, _, h => h
  | c :: text, _, _, h => State.Moved.run text (h.step hm c)

lemma finish (h : s.Moved r place base s') : (s'.finish file').exprs =
    base.reverse ++ (s.finish file).exprs.map (.relocate r) ∧
      (s'.finish file').error = (s.finish file).error.map (.relocate r) ∧
      (s'.finish file').finish = r.position (s.finish file).finish := by
  cases h with
  | reading moved => exact moved.finish hm
  | failed => exact ⟨rfl, rfl, hm.position_eq _⟩

end State.Moved

end Reader

end RecordSchema.Expr
