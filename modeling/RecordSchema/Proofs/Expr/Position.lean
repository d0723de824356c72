import RecordSchema.Proofs.Expr.Grammar

/-! Expressions stand where their positions say. -/

namespace RecordSchema.Expr

open Reader (Cursor)

inductive Node (n : Expr) : Expr → Prop
  | root : Node n n
  | item {e : Expr} {bracket : Bracket} {items : List Expr} {p : Position} (mem : e ∈ items) (node : Node n e) :
      Node n (list bracket items p)

def Covers (e : Expr) (p : Position) : Prop :=
  ∃ n : Expr, n.Node e ∧ n.position = p

def InOrder (es : List Expr) : Prop :=
  es.Pairwise fun e e' => e.position.span.stop ≤ e'.position.span.start

def Encloses (e : Expr) : Prop :=
  ∀ bracket items p, e = list bracket items p → InOrder items ∧ ∀ item ∈ items,
    p.span.start < item.position.span.start ∧ item.position.span.stop < p.span.stop

/-- The position of the expression is that of a piece of the text which is read as this expression alone. -/
def Marks (e : Expr) (file : FileId) (text : String) : Prop :=
  ∃ before slice after : String, text = before ++ slice ++ after ∧ slice ≠ "" ∧
    e.position = .piece file before.toList slice.toList ∧
    ∀ file', ∃ e', (read file' slice).stream = [.ok e'] ∧ e'.Alike e

lemma Phrase.chars_ne_nil {f : Phrase} {after : List Char} (h : f.Fits after) : f.chars ≠ [] := by
  obtain ⟨c, tail, hchars, _⟩ := f.exists_lead h
  rw [hchars]
  exact List.cons_ne_nil c tail

lemma Phrase.fits_nil {f : Phrase} {after : List Char} (h : f.Fits after) : f.Fits [] := by
  cases f with
  | atom text => exact ⟨h.1, nofun⟩
  | string items => trivial
  | list bracket body => exact h

mutual

lemma Phrase.exists_of_node {file : FileId} {n : Expr} {after : List Char} (f : Phrase) (start : Cursor)
    (h : f.Fits after) (hn : n.Node (f.exprAt file start)) : ∃ (g : Phrase) (before rest : List Char),
      f.chars = before ++ (g.chars ++ rest) ∧ g.Fits [] ∧ n = g.exprAt file (start.through before) := by
  match f with
  | .atom text =>
    cases hn
    exact ⟨.atom text, [], [], by simp, Phrase.fits_nil h, rfl⟩
  | .string items =>
    cases hn
    exact ⟨.string items, [], [], by simp, Phrase.fits_nil h, rfl⟩
  | .list bracket body =>
    cases hn with
    | root => exact ⟨.list bracket body, [], [], by simp, Phrase.fits_nil h, rfl⟩
    | item mem node =>
      obtain ⟨g, before, rest, hchars, hg, rfl⟩ := Passage.exists_of_node body _ h mem node
      refine ⟨g, bracket.opening :: before, rest ++ [bracket.closing], ?_, hg, rfl⟩
      rw [Phrase.chars, hchars]
      simp

lemma Passage.exists_of_node {file : FileId} {n e : Expr} {after : List Char} (f : Passage) (start : Cursor)
    (h : f.Fits after) (he : e ∈ f.exprsAt file start) (hn : n.Node e) : ∃ (g : Phrase) (before rest : List Char),
      f.chars = before ++ (g.chars ++ rest) ∧ g.Fits [] ∧ n = g.exprAt file (start.through before) := by
  match f with
  | .nil => cases he
  | .blank c f =>
    obtain ⟨g, before, rest, hchars, hg, rfl⟩ := Passage.exists_of_node f _ h.2 he hn
    exact ⟨g, c :: before, rest, by rw [Passage.chars, hchars]; rfl, hg, rfl⟩
  | .comment text f =>
    obtain ⟨g, before, rest, hchars, hg, rfl⟩ := Passage.exists_of_node f _ h.2.2 he hn
    refine ⟨g, ';' :: text ++ before, rest, by rw [Passage.chars, hchars]; simp, hg, ?_⟩
    rw [Cursor.through_append]
  | .phrase first f =>
    rcases List.mem_cons.mp he with rfl | he
    · obtain ⟨g, before, rest, hchars, hg, rfl⟩ := Phrase.exists_of_node first _ h.1 hn
      exact ⟨g, before, rest ++ f.chars, by rw [Passage.chars, hchars]; simp, hg, rfl⟩
    · obtain ⟨g, before, rest, hchars, hg, rfl⟩ := Passage.exists_of_node f _ h.2 he hn
      refine ⟨g, first.chars ++ before, rest, by rw [Passage.chars, hchars]; simp, hg, ?_⟩
      rw [Cursor.through_append]

end

lemma exists_phrase_of_node {file : FileId} {text : List Char} {e n : Expr} (he : e ∈ (readChars file text).exprs)
    (hn : n.Node e) : ∃ (g : Phrase) (before rest : List Char),
      text = before ++ (g.chars ++ rest) ∧ g.Fits [] ∧ n = g.exprAt file (({} : Cursor).through before) := by
  obtain ⟨f, after, htext, hf, hexprs, -⟩ := exists_exprsAt file text
  rw [hexprs] at he
  obtain ⟨g, before, rest, hchars, hg, rfl⟩ := f.exists_of_node _ hf he hn
  exact ⟨g, before, rest ++ after, by rw [htext, hchars]; simp, hg, rfl⟩

namespace Passage

variable {file : FileId}

lemma offset_of_mem {e : Expr} (f : Passage) (start : Cursor) (he : e ∈ f.exprsAt file start) :
    start.offset ≤ e.position.span.start ∧ e.position.span.stop ≤ (start.through f.chars).offset := by
  match f with
  | .nil => cases he
  | .blank c f =>
    have hrest := f.offset_of_mem _ he
    have hstart := start.offset_lt_advance c
    rw [chars, Cursor.through_cons]
    omega
  | .comment text f =>
    have hrest := f.offset_of_mem _ he
    have hstart := start.offset_le_through (';' :: text)
    rw [chars, ← List.cons_append, Cursor.through_append]
    omega
  | .phrase first f =>
    have hfirst := start.offset_le_through first.chars
    have hlast := (start.through first.chars).offset_le_through f.chars
    rw [chars, Cursor.through_append]
    rcases List.mem_cons.mp he with rfl | he
    · rw [first.position_exprAt]
      exact ⟨Nat.le_refl _, hlast⟩
    · have hrest := f.offset_of_mem _ he
      omega

lemma inOrder_exprsAt (f : Passage) (start : Cursor) : InOrder (f.exprsAt file start) := by
  cases f with
  | nil => exact .nil
  | blank _ f | comment _ f => exact f.inOrder_exprsAt _
  | phrase first f =>
    refine .cons (fun e he => ?_) (f.inOrder_exprsAt _)
    rw [first.position_exprAt]
    exact (f.offset_of_mem _ he).1

end Passage

namespace Phrase

variable {file : FileId}

lemma encloses_exprAt (f : Phrase) (start : Cursor) : (f.exprAt file start).Encloses := by
  intro bracket items p h
  cases f with
  | atom | string => cases h
  | list bracket body =>
    cases h
    refine ⟨body.inOrder_exprsAt _, fun e he => ?_⟩
    have hwithin := body.offset_of_mem _ he
    have hopen := start.offset_lt_advance bracket.opening
    have hclose := ((start.advance bracket.opening).through body.chars).offset_lt_advance bracket.closing
    simp only [Cursor.upTo, chars, Cursor.through_cons, Cursor.through_append, Cursor.through_nil]
    omega

lemma stream_chars (file file' : FileId) {f : Phrase} (h : f.Fits []) (start : Cursor) :
    ∃ e, (readChars file' f.chars).stream = [.ok e] ∧ e.Alike (f.exprAt file start) := by
  have hderives : (Passage.phrase f .nil).Derives f.chars := ⟨List.append_nil _, h, trivial⟩
  refine ⟨f.exprAt file' {}, ?_, ?_⟩
  · rw [readChars_exact file' hderives]
    exact Reading.stream_of_none rfl
  · rw [Alike, f.withPositions_exprAt, f.withPositions_exprAt]

lemma position_eq_piece {text : List Char} {before rest : List Char} {f : Phrase} (h : f.Fits [])
    (htext : text = before ++ (f.chars ++ rest)) (hsize : (String.ofList text).utf8ByteSize < UInt32.size) :
    (f.exprAt file (({} : Cursor).through before)).position = .piece file before f.chars := by
  subst htext
  have hrest : f.chars ++ rest ≠ [] := List.append_ne_nil_of_left_ne_nil (chars_ne_nil h) rest
  rw [f.position_exprAt, ← Cursor.through_append, Cursor.through_eq_behind, Cursor.through_eq_behind,
    Cursor.upTo_behind, Position.wrap_piece_of_rest _ hrest hsize]

lemma marks_exprAt {text : String} {before rest : List Char} {f : Phrase} (h : f.Fits [])
    (htext : text.toList = before ++ (f.chars ++ rest)) (hsize : text.utf8ByteSize < UInt32.size) :
    (f.exprAt file (({} : Cursor).through before)).Marks file text := by
  refine ⟨String.ofList before, String.ofList f.chars, String.ofList rest, ?_, ?_, ?_, fun file' => ?_⟩
  · rw [← String.toList_inj, htext]
    simp
  · rw [Ne, ← String.toList_inj, String.toList_ofList]
    exact chars_ne_nil h
  · rw [String.toList_ofList, String.toList_ofList]
    exact position_eq_piece h htext (by rwa [String.ofList_toList])
  · rw [read, String.toList_ofList]
    exact stream_chars file file' h _

end Phrase

lemma finish_of_whole {file : FileId} {text : String} (h : (read file text).error = none) :
    (read file text).finish = (Cursor.behind text.toList).position file := by
  obtain ⟨f, after, htext, hf, _, herror⟩ := exists_exprsAt file text.toList
  obtain rfl := herror h
  have hderives : f.Derives text.toList := ⟨by rw [htext, List.append_nil], hf⟩
  rw [read, readChars_exact file hderives, Cursor.through_eq_behind]

/-- The expressions that are read, and all trees in them, are marked by their positions as pieces of the text, one
after the other and one within the other. Without a fault the reader comes to the end of the text, whose line and
column are counted in 32 bits. -/
theorem read_positions_exact (file : FileId) {text : String} (hsize : text.utf8ByteSize < UInt32.size) :
    (∀ e ∈ (read file text).exprs, ∀ n : Expr, n.Node e → n.Marks file text ∧ n.Encloses) ∧
    InOrder (read file text).exprs ∧
    ((read file text).error = none → (read file text).finish = (Position.piece file text.toList []).wrap ∧
      (text.utf8ByteSize + 1 < UInt32.size → (read file text).finish = .piece file text.toList [])) := by
  obtain ⟨f, after, -, -, hexprs, -⟩ := exists_exprsAt file text.toList
  refine ⟨fun e he n hn => ?_, ?_, fun hnone => ?_⟩
  · obtain ⟨g, before, rest, hchars, hg, rfl⟩ := exists_phrase_of_node he hn
    exact ⟨Phrase.marks_exprAt hg hchars hsize, g.encloses_exprAt _⟩
  · rw [read, hexprs]
    exact f.inOrder_exprsAt _
  · have hfinish := finish_of_whole hnone
    rw [Cursor.position_behind] at hfinish
    refine ⟨hfinish, fun hshort => hfinish.trans (Position.wrap_piece _ ?_)⟩
    rwa [String.ofList_toList]

theorem second_line_marked : let text := "; é\n(a)\n"
    text.utf8ByteSize < UInt32.size ∧ (∀ e ∈ (read ⟨0⟩ text).exprs, e.Marks ⟨0⟩ text) ∧
      (read ⟨0⟩ text).exprs.map position = [⟨⟨0⟩, 2, 1, ⟨5, 8⟩⟩] ∧
      (read ⟨0⟩ text).finish = .piece ⟨0⟩ text.toList [] := by
  have hsize : "; é\n(a)\n".utf8ByteSize + 1 < UInt32.size := by decide
  obtain ⟨hmarks, _, hfinish⟩ := read_positions_exact ⟨0⟩ (Nat.lt_of_succ_lt hsize)
  exact ⟨Nat.lt_of_succ_lt hsize, fun e he => (hmarks e he e .root).1, by decide +kernel, (hfinish (by decide +kernel)).2 hsize⟩

namespace Passage

def lineEnds : Nat → Passage
  | 0 => nil
  | n + 1 => blank '\n' (lineEnds n)

lemma derives_lineEnds : ∀ n : Nat, (lineEnds n).Derives (List.replicate n '\n')
  | 0 => ⟨rfl, trivial⟩
  | n + 1 => by
    obtain ⟨hchars, hfits⟩ := derives_lineEnds n
    exact ⟨congrArg ('\n' :: ·) hchars, rfl, hfits⟩

lemma exprsAt_lineEnds (file : FileId) : ∀ (n : Nat) (start : Cursor), (lineEnds n).exprsAt file start = []
  | 0, _ => rfl
  | n + 1, start => exprsAt_lineEnds file n (start.advance '\n')

end Passage

lemma read_lineEnds (file : FileId) (n : Nat) : read file (String.ofList (List.replicate n '\n')) =
    ⟨[], none, (Position.piece file (List.replicate n '\n') []).wrap⟩ := by
  rw [read, String.toList_ofList, readChars_exact file (Passage.derives_lineEnds n), Passage.exprsAt_lineEnds,
    Cursor.through_eq_behind, Cursor.position_behind]

lemma utf8ByteSize_lineEnds (n : Nat) : (String.ofList (List.replicate n '\n')).utf8ByteSize = n := by
  induction n with
  | zero => rfl
  | succ n ih =>
    rw [List.replicate_succ, utf8ByteSize_cons, ih, Nat.add_comm]
    rfl

lemma wrap_lineEnds (file : FileId) {n : Nat} (hn : 1 + n = UInt32.size) :
    (Position.piece file (List.replicate n '\n') []).wrap.line = 0 ∧
      (Position.piece file (List.replicate n '\n') []).wrap ≠ .piece file (List.replicate n '\n') [] := by
  have hline : (Position.piece file (List.replicate n '\n') []).line = UInt32.size := by
    rw [Position.piece, List.count_replicate_self, hn]
  have hzero : (Position.piece file (List.replicate n '\n') []).wrap.line = 0 := by
    rw [Position.wrap, hline, Nat.mod_self]
  refine ⟨hzero, fun hcounted => ?_⟩
  rw [hcounted, hline] at hzero
  cases hzero

theorem finish_line_overrun : let lines := List.replicate (UInt32.size - 1) '\n'
    (String.ofList lines).utf8ByteSize < UInt32.size ∧ (read ⟨0⟩ (String.ofList lines)).error = none ∧
      (read ⟨0⟩ (String.ofList lines)).finish.line = 0 ∧
      (read ⟨0⟩ (String.ofList lines)).finish ≠ .piece ⟨0⟩ lines [] := by
  dsimp only
  generalize hn : UInt32.size - 1 = n
  have hsize : 1 + n = UInt32.size := by rw [← hn]; rfl
  rw [read_lineEnds, utf8ByteSize_lineEnds]
  exact ⟨by omega, rfl, wrap_lineEnds ⟨0⟩ hsize⟩

end RecordSchema.Expr
