import RecordSchema.Proofs.Expr.Fault
import RecordSchema.Proofs.Relocation.Reading

namespace RecordSchema

namespace Reading

variable {r : Reading}

lemma ok_mem_stream_iff {e : Expr} : .ok e ∈ r.stream ↔ e ∈ r.exprs := by
  rw [stream]
  cases r.error <;> simp

lemma error_mem_stream_iff {error : ReadError} : .error error ∈ r.stream ↔ r.error = some error := by
  rw [stream]
  cases r.error <;> simp [eq_comm]

lemma error_eq_none_of_stream (h : ∀ error, .error error ∉ r.stream) : r.error = none :=
  Option.eq_none_iff_forall_ne_some.mpr fun error herror => h error (error_mem_stream_iff.mpr herror)

end Reading

@[simps] def Position.below (lines bytes : Nat) (p : Position) : Position :=
  ⟨p.file, p.line + lines, p.column, ⟨p.span.start + bytes, p.span.stop + bytes⟩⟩

def Relocation.below (lines bytes : Nat) : Relocation :=
  ⟨.below lines bytes, id, Function.injective_id⟩

def Relocation.wrappedBelow (lines bytes : Nat) : Relocation :=
  ⟨fun p => (p.below lines bytes).wrap, id, Function.injective_id⟩

def Reading.relocateItem (r : Relocation) (x : Except ReadError Expr) : Except ReadError Expr :=
  (x.map (.relocate r)).mapError (.relocate r)

def Reading.itemBelow (lines bytes : Nat) : Except ReadError Expr → Except ReadError Expr :=
  relocateItem (.below lines bytes)

namespace Expr.Reader

def Cursor.below (lines bytes : Nat) (here : Cursor) : Cursor :=
  ⟨here.line + .ofNat lines, here.column, here.offset + bytes⟩

variable {lines bytes : Nat} {base : List Expr} {file : FileId}

lemma moves_below (lines bytes : Nat) (file : FileId) :
    Moves (.wrappedBelow lines bytes) (.below lines bytes) file file where
  advance_eq here c := by
    unfold Cursor.advance
    split
    · have hline : here.line + .ofNat lines + 1 = here.line + 1 + .ofNat lines := by
        rw [UInt32.add_assoc, UInt32.add_comm (.ofNat lines), ← UInt32.add_assoc]
      simp only [Cursor.below, hline, Nat.add_right_comm]
    · simp only [Cursor.below, Nat.add_right_comm]
  upTo_eq start stop := by
    simp only [Cursor.upTo, Cursor.below, Relocation.wrappedBelow, Position.below, Position.wrap, UInt32.toNat_add,
      UInt32.toNat_ofNat', Nat.add_mod_mod, Nat.mod_eq_of_lt start.column.toNat_lt_size]
  cover_eq opened position := by
    simp only [Relocation.wrappedBelow, Position.below, Position.wrap, Span.cover, Nat.add_min_add_right,
      Nat.add_max_add_right]

lemma stream_moved {r : Relocation} {place : Cursor → Cursor} (hm : Moves r place file file) {s s' : State}
    (h : s.Moved r place base s') :
    (s'.finish file).stream = base.reverse.map .ok ++ (s.finish file).stream.map (Reading.relocateItem r) := by
  obtain ⟨hexprs, herror, -⟩ := h.finish hm
  rw [Reading.stream, Reading.stream, hexprs, herror]
  cases (s.finish file).error <;> simp [Reading.relocateItem, Except.map, Except.mapError]

lemma wrap_below_piece {text before rest : List Char} (slice : List Char) (hrest : rest ≠ [])
    (hsize : (String.ofList (text ++ (before ++ rest))).utf8ByteSize < UInt32.size) :
    ((Position.piece file before slice).below (text.count '\n') bytes).wrap =
      (Position.piece file before slice).below (text.count '\n') bytes := by
  have hbefore := utf8ByteSize_lt_append before hrest
  have hlines : text.count '\n' ≤ (String.ofList text).utf8ByteSize :=
    List.count_le_length.trans (length_le_utf8ByteSize text)
  have hline := Position.line_piece_le file before slice
  have hcolumn := Position.column_piece_le file before slice
  rw [String.ofList_append, String.utf8ByteSize_append] at hsize
  exact Position.wrap_of_lt (by rw [Position.below_line]; omega) (by rw [Position.below_column]; omega)

lemma relocateItem_wrappedBelow {text more : List Char}
    (hsize : (String.ofList (text ++ more)).utf8ByteSize < UInt32.size) {x : Except ReadError Expr}
    (hx : x ∈ (readChars file more).stream) :
    Reading.relocateItem (.wrappedBelow (text.count '\n') bytes) x = Reading.itemBelow (text.count '\n') bytes x := by
  have hmore : (String.ofList more).utf8ByteSize < UInt32.size := by
    rw [String.ofList_append, String.utf8ByteSize_append] at hsize
    omega
  have hpiece : ∀ {before rest : List Char} (slice : List Char), more = before ++ rest → rest ≠ [] →
      (Relocation.wrappedBelow (text.count '\n') bytes).position (.piece file before slice) =
        (Relocation.below (text.count '\n') bytes).position (.piece file before slice) := by
    rintro before rest slice rfl hrest
    exact wrap_below_piece slice hrest hsize
  cases x with
  | ok e =>
    have he := Reading.ok_mem_stream_iff.mp hx
    refine congrArg Except.ok (relocate_congr ?_)
    rintro p ⟨n, hn, rfl⟩
    obtain ⟨g, before, rest, hchars, hg, rfl⟩ := exists_phrase_of_node he hn
    rw [Phrase.position_eq_piece hg hchars hmore]
    exact hpiece g.chars hchars (List.append_ne_nil_of_left_ne_nil (Phrase.chars_ne_nil hg) rest)
  | error error =>
    have herror := Reading.error_mem_stream_iff.mp hx
    obtain ⟨before, slice, after, hchars, hrest, -, hexact⟩ := locates_of_error herror
    have hmoved := hpiece slice (by rw [hchars, List.append_assoc]) hrest
    rw [← hexact hmore] at hmoved
    exact congrArg (fun p => Except.error (ReadError.mk error.problem p)) hmoved

lemma Progress.step_newline {q p : Progress} (h : q.step file '\n' = .reading p) :
    p.mode = .between ∨ ∃ start text, p.mode = .string start text := by
  have hblank (q : Progress) : q.start file '\n' = .reading { q with cursor := q.cursor.advance '\n' } := rfl
  unfold Progress.step at h
  dsimp only at h
  cases hmode : q.mode with
  | between =>
    rw [hmode] at h
    dsimp only at h
    rw [hblank] at h
    cases h
    exact .inl hmode
  | comment =>
    rw [hmode] at h
    cases h
    exact .inl rfl
  | atom start text =>
    rw [hmode] at h
    cases h
    exact .inl rfl
  | string start text =>
    rw [hmode] at h
    cases h
    exact .inr ⟨start, _, rfl⟩
  | escape start backslash text =>
    rw [hmode] at h
    cases h

lemma Progress.error_finish_eq_none {p : Progress} (h : (p.finish file).error = none) :
    p.enclosing = [] ∧ ∀ start text, p.mode ≠ .string start text := by
  obtain ⟨cursor, mode, items, enclosing⟩ := p
  cases mode with
  | string | escape => cases h
  | between | comment | atom =>
    cases enclosing with
    | nil => exact ⟨rfl, nofun⟩
    | cons => cases h

lemma Cursor.behind_line (line : List Char) : behind (line ++ ['\n']) =
    ({} : Cursor).below ((line ++ ['\n']).count '\n') (String.ofList (line ++ ['\n'])).utf8ByteSize := by
  simp [behind, below]

lemma exists_below {text : List Char} (hlines : text = [] ∨ ∃ line, text = line ++ ['\n'])
    (herror : (readChars file text).error = none) : ∃ base, (readChars file text).exprs = base.reverse ∧
      (State.reading {}).Moved (.wrappedBelow (text.count '\n') (String.ofList text).utf8ByteSize)
        (.below (text.count '\n') (String.ofList text).utf8ByteSize) base (run file (.reading {}) text) := by
  have hinitial : (State.reading {}).Within file [] := ⟨rfl, trivial, nofun⟩
  have hwithin := within_run file text hinitial
  rw [readChars] at herror ⊢
  rcases hlines with rfl | ⟨line, rfl⟩
  · exact ⟨[], rfl, .reading ⟨rfl, rfl, .outside⟩⟩
  · cases hrun : run file (.reading {}) (line ++ ['\n']) with
    | failed exprs error cursor trailing =>
      rw [hrun] at herror
      cases herror
    | reading p =>
      rw [hrun] at herror hwithin
      obtain ⟨henclosing, hstring⟩ := Progress.error_finish_eq_none herror
      have hmode : p.mode = .between := by
        rw [run_append] at hrun
        cases hline : run file (.reading {}) line with
        | failed exprs error cursor trailing =>
          obtain ⟨_, _, hfailed⟩ := step_failed file exprs error cursor trailing '\n'
          rw [hline] at hrun
          exact absurd (hfailed.symm.trans hrun) nofun
        | reading q =>
          rw [hline] at hrun
          exact (Progress.step_newline hrun).resolve_right fun ⟨start, text, h⟩ => hstring start text h
      have hcursor : p.cursor = Cursor.behind (line ++ ['\n']) := hwithin.cursor
      obtain ⟨cursor, mode, items, enclosing⟩ := p
      subst hmode hcursor henclosing
      exact ⟨items, rfl, .reading ⟨Cursor.behind_line line, rfl, .outside⟩⟩

lemma stream_append {text : List Char} (hlines : text = [] ∨ ∃ line, text = line ++ ['\n'])
    (herror : (readChars file text).error = none) {more : List Char}
    (hsize : (String.ofList (text ++ more)).utf8ByteSize < UInt32.size) : (readChars file (text ++ more)).stream =
      (readChars file text).stream ++ (readChars file more).stream.map
        (Reading.itemBelow (text.count '\n') (String.ofList text).utf8ByteSize) := by
  obtain ⟨base, hexprs, hbelow⟩ := exists_below hlines herror
  have hwrapped := stream_moved (moves_below _ _ file) (hbelow.run (moves_below _ _ file) more)
  have hcounted : (readChars file more).stream.map (Reading.relocateItem (.wrappedBelow _ _)) =
      (readChars file more).stream.map (Reading.itemBelow (text.count '\n') (String.ofList text).utf8ByteSize) :=
    List.map_congr_left fun _ hx => relocateItem_wrappedBelow hsize hx
  rw [Reading.stream_of_none herror, hexprs, readChars, run_append, hwrapped, ← hcounted]
  rfl

end Expr.Reader

end RecordSchema
