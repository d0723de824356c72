import RecordSchema.Proofs.Expr.Grammar
import RecordSchema.Proofs.Relocation.Basic

namespace RecordSchema.Expr

open Reader (Cursor)

inductive Token where
  | opening (bracket : Bracket)
  | closing (bracket : Bracket)
  | word (text : List Char)
  | string (items : List Char)
deriving DecidableEq

mutual

def Phrase.tokens : Phrase → List Token
  | .atom text => [.word text]
  | .string items => [.string items]
  | .list bracket body => .opening bracket :: (body.tokens ++ [.closing bracket])

def Passage.tokens : Passage → List Token
  | .nil => []
  | .blank _ rest => rest.tokens
  | .comment _ rest => rest.tokens
  | .phrase first rest => first.tokens ++ rest.tokens

end

/-- Two texts of the grammar that differ only in the white space and the comments between their tokens. -/
def Reformatted (text text' : String) : Prop :=
  ∃ f f' : Passage, f.Derives text.toList ∧ f'.Derives text'.toList ∧ f.tokens = f'.tokens

mutual

def tokens : Expr → List Token
  | atom text _ => [.word text.toList]
  | quoted text _ => [.string text.toList]
  | list bracket items _ => .opening bracket :: (tokensEach items ++ [.closing bracket])

def tokensEach : List Expr → List Token
  | [] => []
  | e :: es => e.tokens ++ tokensEach es

end

mutual

lemma Phrase.tokens_expr : ∀ f : Phrase, f.expr.tokens = f.tokens
  | .atom text => by rw [Phrase.expr, Expr.tokens, Phrase.tokens, String.toList_ofList]
  | .string items => by rw [Phrase.expr, Expr.tokens, Phrase.tokens, String.toList_ofList]
  | .list bracket body => by rw [Phrase.expr, Expr.tokens, Phrase.tokens, Passage.tokens_exprs body]

lemma Passage.tokens_exprs : ∀ f : Passage, tokensEach f.exprs = f.tokens
  | .nil => rfl
  | .blank _ rest | .comment _ rest => Passage.tokens_exprs rest
  | .phrase first rest => by
    rw [Passage.exprs, tokensEach, Passage.tokens, Phrase.tokens_expr first, Passage.tokens_exprs rest]

end

lemma exists_tokens (e : Expr) : ∃ token rest, e.tokens = token :: rest ∧ ∀ bracket, token ≠ .closing bracket := by
  cases e with
  | atom text p => exact ⟨_, _, rfl, nofun⟩
  | quoted text p => exact ⟨_, _, rfl, nofun⟩
  | list bracket items p => exact ⟨_, _, rfl, nofun⟩

def Ended (after : List Token) : Prop :=
  ∀ token ∈ after.head?, ∃ bracket, token = .closing bracket

lemma ended_nil : Ended [] :=
  nofun

lemma not_ended (e : Expr) (after : List Token) : ¬Ended (e.tokens ++ after) := by
  obtain ⟨token, rest, heq, hne⟩ := e.exists_tokens
  intro h
  obtain ⟨bracket, htoken⟩ := h token (by rw [heq]; rfl)
  exact hne bracket htoken

mutual

lemma tokens_unique : ∀ {e e' : Expr} {after after' : List Token}, e.tokens ++ after = e'.tokens ++ after' →
    e.Alike e' ∧ after = after'
  | atom text p, e', after, after', h => by
    cases e' with
    | quoted | list => cases h
    | atom text' p' =>
      obtain ⟨htext, hafter⟩ := List.cons.inj h
      exact ⟨alike_atom_iff.mpr ⟨p, by rw [String.toList_inj.mp (Token.word.inj htext)]⟩, hafter⟩
  | quoted text p, e', after, after', h => by
    cases e' with
    | atom | list => cases h
    | quoted text' p' =>
      obtain ⟨htext, hafter⟩ := List.cons.inj h
      have heq : text = text' := String.toList_inj.mp (Token.string.inj htext)
      exact ⟨by rw [heq]; rfl, hafter⟩
  | list bracket items p, e', after, after', h => by
    cases e' with
    | atom | quoted => cases h
    | list bracket' items' p' =>
      obtain ⟨hbracket, hrest⟩ := List.cons.inj h
      obtain rfl : bracket = bracket' := Token.opening.inj hbracket
      rw [List.append_eq, List.append_eq, List.append_assoc, List.append_assoc] at hrest
      have hended (after : List Token) : Ended (.closing bracket :: after) := by
        rintro token ⟨⟩
        exact ⟨bracket, rfl⟩
      obtain ⟨hitems, hafter⟩ := tokensEach_unique (hended after) (hended after') hrest
      exact ⟨alike_list_iff.mpr ⟨items, p, rfl, hitems⟩, (List.cons.inj hafter).2⟩

lemma tokensEach_unique : ∀ {es es' : List Expr} {after after' : List Token}, Ended after → Ended after' →
    tokensEach es ++ after = tokensEach es' ++ after' → List.Forall₂ Alike es es' ∧ after = after'
  | [], [], _, _, _, _, h => ⟨.nil, h⟩
  | [], e' :: es', after, after', hafter, _, h => by
    rw [tokensEach, tokensEach, List.nil_append, List.append_assoc] at h
    exact absurd (h ▸ hafter) (e'.not_ended _)
  | e :: es, [], after, after', _, hafter', h => by
    rw [tokensEach, tokensEach, List.nil_append, List.append_assoc] at h
    exact absurd (h ▸ hafter') (e.not_ended _)
  | e :: es, e' :: es', after, after', hafter, hafter', h => by
    rw [tokensEach, tokensEach, List.append_assoc, List.append_assoc] at h
    obtain ⟨he, hrest⟩ := tokens_unique h
    obtain ⟨hes, heq⟩ := tokensEach_unique hafter hafter' hrest
    exact ⟨.cons he hes, heq⟩

end

namespace Passage

variable {f f' : Passage}

lemma exprs_eq_iff_alike : f.exprs = f'.exprs ↔ List.Forall₂ Alike f.exprs f'.exprs := by
  constructor
  · intro h
    rw [h]
    exact List.forall₂_same.mpr fun _ _ => rfl
  · intro h
    rw [← f.withPositions_exprs, ← f'.withPositions_exprs, ← List.forall₂_eq_eq_eq, List.forall₂_map_left_iff,
      List.forall₂_map_right_iff]
    exact h

lemma tokens_eq_iff : f.tokens = f'.tokens ↔ f.exprs = f'.exprs := by
  constructor
  · intro h
    rw [← f.tokens_exprs, ← f'.tokens_exprs] at h
    have hlone : tokensEach f.exprs ++ [] = tokensEach f'.exprs ++ [] := by rw [h]
    exact exprs_eq_iff_alike.mpr (tokensEach_unique ended_nil ended_nil hlone).1
  · intro h
    rw [← f.tokens_exprs, ← f'.tokens_exprs, h]

end Passage

lemma exists_derives {file : FileId} {text : String} (h : (read file text).error = none) :
    ∃ f : Passage, f.Derives text.toList ∧ (read file text).exprs = f.exprsAt file {} := by
  obtain ⟨f, after, htext, hf, hexprs, hafter⟩ := exists_exprsAt file text.toList
  obtain rfl := hafter h
  exact ⟨f, ⟨by rw [htext, List.append_nil], hf⟩, hexprs⟩

theorem reformatted_iff (file : FileId) {text text' : String} : Reformatted text text' ↔
    (read file text).error = none ∧ (read file text').error = none ∧
      List.Forall₂ Alike (read file text).exprs (read file text').exprs := by
  have halike (f f' : Passage) : List.Forall₂ Alike (f.exprsAt file {}) (f'.exprsAt file {}) ↔ f.exprs = f'.exprs := by
    rw [← f.map_exprsAt file {}, ← f'.map_exprsAt file {}, ← List.forall₂_eq_eq_eq, List.forall₂_map_left_iff,
      List.forall₂_map_right_iff]
    rfl
  constructor
  · rintro ⟨f, f', hf, hf', htokens⟩
    rw [read, read, readChars_exact file hf, readChars_exact file hf']
    exact ⟨rfl, rfl, (halike f f').mpr (Passage.tokens_eq_iff.mp htokens)⟩
  · rintro ⟨herror, herror', hexprs⟩
    obtain ⟨f, hf, heq⟩ := exists_derives herror
    obtain ⟨f', hf', heq'⟩ := exists_derives herror'
    rw [heq, heq'] at hexprs
    exact ⟨f, f', hf, hf', Passage.tokens_eq_iff.mpr ((halike f f').mp hexprs)⟩

instance (text text' : String) : Decidable (Reformatted text text') :=
  decidable_of_iff _ (reformatted_iff default).symm

variable {r : Relocation} {file : FileId} {p : Position}

mutual

lemma Phrase.relocate_exprAt (hp : ∀ start stop : Cursor, r.position (start.upTo stop file) = p) :
    ∀ (f : Phrase) (start : Cursor), (f.exprAt file start).relocate r = f.expr.withPositions p
  | .atom _, _ | .string _, _ => by simp only [Phrase.exprAt, Phrase.expr, relocate, withPositions, hp]
  | .list bracket body, start => by
    simp only [Phrase.exprAt, Phrase.expr, relocate, withPositions, withPositionsEach_eq_map, relocateEach_eq_map, hp,
      Passage.relocate_exprsAt hp body]

lemma Passage.relocate_exprsAt (hp : ∀ start stop : Cursor, r.position (start.upTo stop file) = p) :
    ∀ (f : Passage) (start : Cursor), (f.exprsAt file start).map (relocate r) = f.exprs.map (withPositions p)
  | .nil, _ => rfl
  | .blank _ rest, _ | .comment _ rest, _ => by rw [Passage.exprsAt, Passage.exprs, Passage.relocate_exprsAt hp rest]
  | .phrase first rest, start => by
    rw [Passage.exprsAt, Passage.exprs, List.map_cons, List.map_cons, Phrase.relocate_exprAt hp first,
      Passage.relocate_exprsAt hp rest]

end

theorem Reformatted.read_eq (hp : ∀ start stop : Cursor, r.position (start.upTo stop file) = p) {text text' : String}
    (h : Reformatted text text') : (read file text).relocate r = (read file text').relocate r := by
  obtain ⟨f, f', hf, hf', htokens⟩ := h
  have hfinish (here : Cursor) : r.position (here.position file) = p := hp here here
  rw [read, read, readChars_exact file hf, readChars_exact file hf']
  simp only [Reading.relocate, Option.map_none, hfinish, Passage.relocate_exprsAt hp]
  rw [Passage.tokens_eq_iff.mp htokens]

end RecordSchema.Expr
