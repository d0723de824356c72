import RecordSchema.Proofs.Expr.Located

namespace RecordSchema.Expr

namespace Reader

variable {file : FileId} {text : List Char} {here : Cursor} {p : Position}

namespace Cursor

def Within (here : Cursor) (text : List Char) : Prop :=
  ∃ before after, text = before ++ after ∧ after ≠ [] ∧ here = behind before

lemma Within.append (h : here.Within text) (more : List Char) : here.Within (text ++ more) := by
  obtain ⟨before, after, rfl, hafter, rfl⟩ := h
  exact ⟨before, after ++ more, List.append_assoc _ _ _, List.append_ne_nil_of_left_ne_nil hafter more, rfl⟩

lemma behind_concat (text : List Char) (c : Char) : behind (text ++ [c]) = (behind text).advance c := by
  rw [← through_eq_behind, through_append, through_eq_behind]
  rfl

end Cursor

/-- The position is that of a piece of the text: offset, line and column tell of one and the same place. -/
def Locates (file : FileId) (text : List Char) (p : Position) : Prop :=
  ∃ before slice after, text = before ++ slice ++ after ∧ slice ++ after ≠ [] ∧
    p = (Position.piece file before slice).wrap ∧
    ((String.ofList text).utf8ByteSize < UInt32.size → p = .piece file before slice)

lemma Locates.append (h : Locates file text p) (more : List Char) : Locates file (text ++ more) p := by
  obtain ⟨before, slice, after, htext, hrest, hwrap, hexact⟩ := h
  have hlonger : slice ++ (after ++ more) ≠ [] := by
    rw [← List.append_assoc]
    exact List.append_ne_nil_of_left_ne_nil hrest more
  refine ⟨before, slice, after ++ more, by rw [htext, List.append_assoc], hlonger, hwrap, fun hsize => hexact ?_⟩
  rw [String.ofList_append, String.utf8ByteSize_append] at hsize
  omega

lemma locates_of_rest (file : FileId) (before slice : List Char) {after : List Char} (h : slice ++ after ≠ []) :
    Locates file (before ++ slice ++ after) ((Cursor.behind before).upTo (.behind (before ++ slice)) file) := by
  refine ⟨before, slice, after, rfl, h, Cursor.upTo_behind file before slice, fun hsize => ?_⟩
  rw [List.append_assoc] at hsize
  rw [Cursor.upTo_behind, Position.wrap_piece_of_rest slice h hsize]

lemma Cursor.Within.locates (h : here.Within text) : Locates file text (here.position file) := by
  obtain ⟨before, after, rfl, hafter, rfl⟩ := h
  have hplace := locates_of_rest file before [] hafter
  rwa [List.append_nil] at hplace

lemma locates_last (file : FileId) (text : List Char) (c : Char) :
    Locates file (text ++ [c]) ((Cursor.behind text).upTo ((Cursor.behind text).advance c) file) := by
  have hlast := locates_of_rest file text [c] (List.append_ne_nil_of_left_ne_nil (List.cons_ne_nil c []) [])
  rwa [List.append_nil, Cursor.behind_concat] at hlast

def Mode.Within (text : List Char) : Mode → Prop
  | .string start _ => start.Within text
  | .escape start backslash _ => start.Within text ∧ backslash.Within text
  | _ => True

lemma Mode.Within.append {mode : Mode} (h : mode.Within text) (more : List Char) : mode.Within (text ++ more) := by
  cases mode with
  | string => exact Cursor.Within.append h more
  | escape => exact ⟨h.1.append more, h.2.append more⟩
  | between | comment | atom => trivial

structure Progress.Within (file : FileId) (text : List Char) (q : Progress) : Prop where
  cursor : q.cursor = .behind text
  mode : q.mode.Within text
  enclosing : ∀ opened ∈ q.enclosing, Locates file text opened.position

def State.Within (file : FileId) (text : List Char) : State → Prop
  | .reading q => q.Within file text
  | .failed _ error _ _ => Locates file text error.position

namespace Progress

variable {q q' : Progress} {c : Char}

lemma Within.locates (h : q.Within file text) (c : Char) :
    Locates file (text ++ [c]) (q.cursor.upTo (q.cursor.advance c) file) := by
  rw [h.cursor]
  exact locates_last file text c

lemma Within.cursor_within (h : q.Within file text) (c : Char) : q.cursor.Within (text ++ [c]) :=
  ⟨text, [c], rfl, List.cons_ne_nil c [], h.cursor⟩

lemma Within.move (h : q.Within file text) (hcursor : q'.cursor = q.cursor.advance c)
    (hmode : q'.mode.Within (text ++ [c])) (henclosing : ∀ opened ∈ q'.enclosing, opened ∈ q.enclosing ∨
      opened.position = q.cursor.upTo (q.cursor.advance c) file) : q'.Within file (text ++ [c]) where
  cursor := by rw [hcursor, h.cursor, Cursor.behind_concat]
  mode := hmode
  enclosing opened hopened := by
    rcases henclosing opened hopened with hbefore | hlast
    · exact (h.enclosing opened hbefore).append [c]
    · rw [hlast]
      exact h.locates c

lemma Within.close (h : q.Within file text) (found : Bracket) :
    (q.close file found (q.cursor.advance c)).Within file (text ++ [c]) := by
  unfold Progress.close
  split
  · exact h.locates c
  · next bracket opened before outer houter =>
    split
    · refine h.move rfl trivial fun opened hopened => .inl ?_
      rw [houter]
      exact List.mem_cons_of_mem _ hopened
    · exact h.locates c

lemma Within.enter (h : q.Within file text) (bracket : Bracket) (c : Char) :
    (q.enter file bracket (q.cursor.advance c)).Within file (text ++ [c]) := by
  refine h.move rfl trivial fun opened hopened => ?_
  rcases List.mem_cons.mp hopened with rfl | hopened
  · exact .inr rfl
  · exact .inl hopened

lemma Within.start (h : q.Within file text) (c : Char) : (q.start file c).Within file (text ++ [c]) := by
  unfold Progress.start
  dsimp only
  split
  · exact h.move rfl (h.mode.append [c]) fun _ => .inl
  split
  · exact h.move rfl trivial fun _ => .inl
  · exact h.move rfl (h.cursor_within _) fun _ => .inl
  · exact h.enter .round _
  · exact h.enter .square _
  · exact h.close .round
  · exact h.close .square
  · exact h.move rfl trivial fun _ => .inl

lemma Within.step (h : q.Within file text) (c : Char) : (q.step file c).Within file (text ++ [c]) := by
  unfold Progress.step
  dsimp only
  have hmode := h.mode
  split
  · exact h.start c
  · refine h.move rfl ?_ fun _ => .inl
    dsimp only
    split <;> trivial
  · next start word _ =>
    split
    · have hended : (q.endAtom file start word).Within file text := ⟨h.cursor, trivial, h.enclosing⟩
      exact hended.start c
    · exact h.move rfl trivial fun _ => .inl
  · next start _ hstring =>
    rw [hstring] at hmode
    have hstart : start.Within (text ++ [c]) := Cursor.Within.append hmode [c]
    split
    · exact h.move rfl trivial fun _ => .inl
    split
    · exact h.move rfl ⟨hstart, h.cursor_within _⟩ fun _ => .inl
    · exact h.move rfl hstart fun _ => .inl
  · next start backslash _ hescape =>
    rw [hescape] at hmode
    split
    · exact h.move rfl (hmode.1.append [c]) fun _ => .inl
    · exact (hmode.2.append [c]).locates

end Progress

lemma State.Within.step {s : State} (h : s.Within file text) (c : Char) :
    (s.step file c).Within file (text ++ [c]) := by
  cases s with
  | reading q => exact Progress.Within.step h c
  | failed exprs error cursor trailing =>
    have hlater : Locates file (text ++ [c]) error.position := Locates.append h [c]
    cases trailing with
    | comment | halted => exact hlater
    | between =>
      unfold State.step
      dsimp only
      split
      · exact hlater
      · split <;> exact hlater

lemma within_run (file : FileId) : ∀ (more : List Char) {text : List Char} {s : State}, s.Within file text →
    (run file s more).Within file (text ++ more)
  | [], text, s, h => by rwa [List.append_nil]
  | c :: more, text, s, h => by
    rw [List.append_cons]
    exact within_run file more (h.step c)

lemma Progress.Within.error_finish {q : Progress} (h : q.Within file text) {error : ReadError}
    (herror : (q.finish file).error = some error) : Locates file text error.position := by
  have hmode := h.mode
  have hinnermost : ∀ {opened outer}, q.enclosing = opened :: outer → Locates file text opened.position := by
    intro opened outer houter
    apply h.enclosing
    rw [houter]
    exact List.mem_cons_self
  unfold Progress.finish at herror
  dsimp only at herror
  cases hq : q.mode with
  | string start _ =>
    simp only [hq] at herror hmode
    cases herror
    exact Cursor.Within.locates hmode
  | escape start backslash _ =>
    simp only [hq] at herror hmode
    cases herror
    exact hmode.1.locates
  | between | comment | atom =>
    simp only [hq, Progress.endAtom] at herror
    cases henclosing : q.enclosing with
    | nil =>
      simp only [henclosing] at herror
      cases herror
    | cons opened outer =>
      simp only [henclosing] at herror
      cases herror
      exact hinnermost henclosing

lemma State.Within.error_finish {s : State} (h : s.Within file text) {error : ReadError}
    (herror : (s.finish file).error = some error) : Locates file text error.position := by
  cases s with
  | reading q => exact Progress.Within.error_finish h herror
  | failed exprs error' cursor trailing =>
    cases herror
    exact h

end Reader

lemma locates_of_error {file : FileId} {text : List Char} {error : ReadError}
    (h : (readChars file text).error = some error) : Reader.Locates file text error.position := by
  have hinitial : (Reader.State.reading {}).Within file [] := ⟨rfl, trivial, nofun⟩
  exact (Reader.within_run file text hinitial).error_finish h

end RecordSchema.Expr
