import RecordSchema.Proofs.Expr.Alike
import RecordSchema.Proofs.Expr.Phrase
import Mathlib.Data.List.Induction

namespace RecordSchema

lemma utf8ByteSize_cons (c : Char) (text : List Char) :
    (String.ofList (c :: text)).utf8ByteSize = c.utf8Size + (String.ofList text).utf8ByteSize := by
  rw [← List.singleton_append, String.ofList_append, String.utf8ByteSize_append, ← String.singleton_eq_ofList,
    String.utf8ByteSize_singleton]

lemma length_le_utf8ByteSize (text : List Char) : text.length ≤ (String.ofList text).utf8ByteSize := by
  induction text with
  | nil => exact Nat.zero_le _
  | cons c text ih =>
    have hsize := c.utf8Size_pos
    rw [utf8ByteSize_cons, List.length_cons]
    omega

lemma utf8ByteSize_lt_append (before : List Char) {after : List Char} (h : after ≠ []) :
    (String.ofList before).utf8ByteSize < (String.ofList (before ++ after)).utf8ByteSize := by
  have hlength := length_le_utf8ByteSize after
  have hpos := List.length_pos_iff.mpr h
  rw [String.ofList_append, String.utf8ByteSize_append]
  omega

namespace Position

/-- Where a piece of text stands behind another one, by counting. -/
def piece (file : FileId) (before slice : List Char) : Position where
  file
  line := 1 + before.count '\n'
  column := 1 + (before.reverse.takeWhile (· ≠ '\n')).length
  span := ⟨(String.ofList before).utf8ByteSize, (String.ofList (before ++ slice)).utf8ByteSize⟩

/-- Lines and columns in 32 bits. -/
def wrap (p : Position) : Position :=
  { p with line := p.line % UInt32.size, column := p.column % UInt32.size }

variable {file : FileId} {before : List Char}

lemma wrap_of_lt {p : Position} (hline : p.line < UInt32.size) (hcolumn : p.column < UInt32.size) : p.wrap = p := by
  rw [wrap, Nat.mod_eq_of_lt hline, Nat.mod_eq_of_lt hcolumn]

lemma line_piece_le (file : FileId) (before slice : List Char) :
    (piece file before slice).line ≤ 1 + (String.ofList before).utf8ByteSize :=
  Nat.add_le_add_left (List.count_le_length.trans (length_le_utf8ByteSize before)) 1

lemma column_piece_le (file : FileId) (before slice : List Char) :
    (piece file before slice).column ≤ 1 + (String.ofList before).utf8ByteSize := by
  have hcolumn := (List.takeWhile_prefix (· ≠ '\n') (l := before.reverse)).length_le
  rw [List.length_reverse] at hcolumn
  exact Nat.add_le_add_left (hcolumn.trans (length_le_utf8ByteSize before)) 1

lemma wrap_piece (slice : List Char) (h : (String.ofList before).utf8ByteSize + 1 < UInt32.size) :
    (piece file before slice).wrap = piece file before slice := by
  have hline := line_piece_le file before slice
  have hcolumn := column_piece_le file before slice
  exact wrap_of_lt (by omega) (by omega)

lemma wrap_piece_of_rest {after : List Char} (slice : List Char) (hafter : after ≠ [])
    (h : (String.ofList (before ++ after)).utf8ByteSize < UInt32.size) :
    (piece file before slice).wrap = piece file before slice :=
  wrap_piece slice (Nat.lt_of_le_of_lt (utf8ByteSize_lt_append before hafter) h)

end Position

namespace Expr

namespace Reader.Cursor

variable (here : Cursor) (text text' : List Char)

def through : Cursor :=
  text.foldl advance here

@[simp] lemma through_nil : here.through [] = here := rfl

@[simp] lemma through_cons (c : Char) : here.through (c :: text) = (here.advance c).through text := rfl

@[simp] lemma through_append : here.through (text ++ text') = (here.through text).through text' :=
  List.foldl_append

lemma offset_advance (c : Char) : (here.advance c).offset = here.offset + c.utf8Size := by
  unfold advance
  split <;> rfl

lemma offset_through : (here.through text).offset = here.offset + (String.ofList text).utf8ByteSize := by
  induction text generalizing here with
  | nil => rfl
  | cons c text ih => rw [through_cons, ih, offset_advance, utf8ByteSize_cons, Nat.add_assoc]

lemma offset_le_through : here.offset ≤ (here.through text).offset := by
  rw [offset_through]
  exact Nat.le_add_right _ _

lemma offset_lt_advance (c : Char) : here.offset < (here.advance c).offset := by
  rw [offset_advance]
  exact Nat.lt_add_of_pos_right c.utf8Size_pos

def behind (text : List Char) : Cursor where
  line := .ofNat (1 + text.count '\n')
  column := .ofNat (1 + (text.reverse.takeWhile (· ≠ '\n')).length)
  offset := (String.ofList text).utf8ByteSize

lemma through_eq_behind : ({} : Cursor).through text = behind text := by
  induction text using List.reverseRecOn with
  | nil => rfl
  | append_singleton text c ih =>
    rw [through_append, ih, through_cons, through_nil]
    by_cases hc : c = '\n'
    · subst hc
      simp [advance, behind, ← Nat.add_assoc]
      rfl
    · simp [advance, behind, hc, ← Nat.add_assoc]

lemma upTo_behind (file : FileId) (before slice : List Char) :
    (behind before).upTo (behind (before ++ slice)) file = (Position.piece file before slice).wrap := by
  simp only [upTo, behind, UInt32.toNat_ofNat', Position.wrap, Position.piece, UInt32.size]

lemma position_behind (file : FileId) (text : List Char) :
    (behind text).position file = (Position.piece file text []).wrap := by
  have hwhole := upTo_behind file text []
  rwa [List.append_nil] at hwhole

end Reader.Cursor

open Reader (Cursor)

mutual

def Phrase.exprAt (file : FileId) : Phrase → Cursor → Expr
  | .atom text, start => .atom (String.ofList text) (start.upTo (start.through text) file)
  | .string items, start =>
    .quoted (String.ofList items) (start.upTo (start.through (Phrase.string items).chars) file)
  | .list bracket body, start =>
    .list bracket (body.exprsAt file (start.advance bracket.opening))
      (start.upTo (start.through (Phrase.list bracket body).chars) file)

def Passage.exprsAt (file : FileId) : Passage → Cursor → List Expr
  | .nil, _ => []
  | .blank c rest, start => rest.exprsAt file (start.advance c)
  | .comment text rest, start => rest.exprsAt file (start.through (';' :: text))
  | .phrase first rest, start => first.exprAt file start :: rest.exprsAt file (start.through first.chars)

end

variable (file : FileId)

lemma Phrase.position_exprAt (f : Phrase) (start : Cursor) :
    (f.exprAt file start).position = start.upTo (start.through f.chars) file := by
  cases f <;> rfl

mutual

lemma Phrase.withPositions_exprAt (p : Position) : ∀ (f : Phrase) (start : Cursor),
    (f.exprAt file start).withPositions p = f.expr.withPositions p
  | .atom _, _ | .string _, _ => rfl
  | .list bracket body, start => by
    simp only [Phrase.exprAt, Phrase.expr, withPositions, withPositionsEach_eq_map, Passage.withPositions_exprsAt p body]

lemma Passage.withPositions_exprsAt (p : Position) : ∀ (f : Passage) (start : Cursor),
    (f.exprsAt file start).map (withPositions p) = f.exprs.map (withPositions p)
  | .nil, _ => rfl
  | .blank _ rest, _ | .comment _ rest, _ => by
    rw [Passage.exprsAt, Passage.exprs, Passage.withPositions_exprsAt p rest]
  | .phrase first rest, start => by
    rw [Passage.exprsAt, Passage.exprs, List.map_cons, List.map_cons, Phrase.withPositions_exprAt p first,
      Passage.withPositions_exprsAt p rest]

end

mutual

lemma Phrase.withPositions_expr : ∀ f : Phrase, f.expr.withPositions default = f.expr
  | .atom _ | .string _ => rfl
  | .list bracket body => by
    rw [Phrase.expr, withPositions, withPositionsEach_eq_map, Passage.withPositions_exprs body]

lemma Passage.withPositions_exprs : ∀ f : Passage, f.exprs.map (withPositions default) = f.exprs
  | .nil => rfl
  | .blank _ rest | .comment _ rest => Passage.withPositions_exprs rest
  | .phrase first rest => by
    rw [Passage.exprs, List.map_cons, Phrase.withPositions_expr first, Passage.withPositions_exprs rest]

end

lemma Passage.map_exprsAt (f : Passage) (start : Cursor) :
    (f.exprsAt file start).map (withPositions default) = f.exprs := by
  rw [f.withPositions_exprsAt, f.withPositions_exprs]

end Expr

end RecordSchema
