import RecordSchema.Compile.Check
import RecordSchema.Proofs.Schema.Written
import RecordSchema.Proofs.Table.Limits

/-! The notation of a type that names no declaration is read, parsed, resolved and checked as that type. -/

namespace RecordSchema

open DataType.toExpr (form word number)
open Expr.Reader.Progress (isDelimiter)

variable {c : Capabilities} {t : TypeTable} {s : Scope} {file : FileId}

namespace Expr

lemma ends_names {d : Char} (h : isDelimiter d = true) :
    fieldNameGrammar.first d = false ∧ fieldNameGrammar.rest d = false := by
  by_cases hblank : Text.isBlank d = true
  · have htable : ∀ r ∈ Text.blankRanges, ∀ n ∈ List.range' r.1 (r.2 + 1 - r.1),
        fieldNameGrammar.first (Char.ofNat n) = false ∧ fieldNameGrammar.rest (Char.ofNat n) = false := by
      decide +kernel
    obtain ⟨r, hr, hlower, hupper⟩ := Text.exists_of_inRanges hblank
    have hd := htable r hr d.toNat (List.mem_range'_1.mpr (by omega))
    rwa [Char.ofNat_toNat] at hd
  · have hd : d = '(' ∨ d = ')' ∨ d = '[' ∨ d = ']' ∨ d = '"' ∨ d = ';' := by
      simpa [isDelimiter, hblank, or_assoc] using h
    rcases hd with rfl | rfl | rfl | rfl | rfl | rfl <;> decide +kernel

lemma isWord_text (name : FieldName) : IsWord name.text.toList := by
  refine ⟨name.toList_ne_nil, fun d hd => ?_⟩
  cases hdelimiter : isDelimiter d with
  | false => rfl
  | true => exact absurd rfl (name.ne_of_mem (ends_names hdelimiter).1 (ends_names hdelimiter).2 d hd)

lemma isWord_keyword (kind : IntegerKind) : IsWord kind.keyword.toList := by
  cases kind <;> decide +kernel

lemma read_legible (file : FileId) {e : Expr} (h : e.Legible) :
    ∃ e', (read file e.render).stream = [.ok e'] ∧ e'.Alike e := by
  have hes : ∀ e' ∈ [e], e'.Legible := by simpa using h
  obtain ⟨found, finish, hread, hfound⟩ := readChars_written file hes
  obtain ⟨e', rfl, he'⟩ : ∃ e', found = [e'] ∧ e'.Alike e := by
    obtain _ | ⟨he', _ | _⟩ := hfound
    exact ⟨_, rfl, he'⟩
  refine ⟨e', ?_, he'⟩
  change readChars file e.chars = _ at hread
  rw [read, render, String.toList_ofList, hread]
  rfl

end Expr

/-- Types without declared ones that a code generator supports outside packed records, and whose encodings can be
written down. -/
inductive DataType.Writable (c : Capabilities) : DataType → Prop
  | integer {kind : IntegerKind} {bits : Nat} (positive : 0 < bits)
      (supported : c.recordIntegers.contains bits = true) : Writable c (.integer kind bits)
  | float {bits : Nat} (positive : 0 < bits) (supported : c.recordFloats.contains bits = true) :
      Writable c (.float bits)
  | vector {element : DataType} {count : Nat} (writable : Writable c element) (scalar : element.isScalar = true)
      (supported : (c.vectors element.isInteger).contains count = true) : Writable c (.vector element count)
  | matrix {element : DataType} {width height : Nat} (writable : Writable c element)
      (scalar : element.isScalar = true) (supported : (c.matrices element.isInteger).contains width height = true) :
      Writable c (.matrix element width height)
  | booleanSet {flags : List FieldName} {octets : Nat} (supported : c.booleanSets.contains octets = true)
      (nodup : flags.Nodup) (room : flags.length ≤ octets * 8) : Writable c (.booleanSet flags octets)
  | string {encoding : String} {octets : Nat} (supported : c.strings.contains octets = true)
      (encodable : c.encodings.contains encoding = true)
      (quotable : ∀ d ∈ encoding.toList, Expr.IsQuotable d) : Writable c (.string encoding octets)

lemma DataType.Writable.legible {type : DataType} (h : type.Writable c) : type.toExpr.Legible := by
  have hwords : Expr.IsWord "integer".toList ∧ Expr.IsWord "float".toList ∧ Expr.IsWord "vector".toList ∧
      Expr.IsWord "matrix".toList ∧ Expr.IsWord "boolean-set".toList ∧ Expr.IsWord "string".toList := by
    decide +kernel
  obtain ⟨hinteger, hfloat, hvector, hmatrix, hset, hstring⟩ := hwords
  induction h with
  | integer _ _ => simp [toExpr, hinteger, Expr.isWord_keyword, -String.reduceToList]
  | float _ _ => simp [toExpr, hfloat, -String.reduceToList]
  | vector _ _ _ ih => simp [toExpr, hvector, ih, -String.reduceToList]
  | matrix _ _ _ ih => simp [toExpr, hmatrix, ih, -String.reduceToList]
  | booleanSet _ _ _ => simp [toExpr, hset, Expr.isWord_text, -String.reduceToList]
  | string _ _ quotable =>
    have hencoding := Expr.Legible.quoted (p := default) quotable
    simp [toExpr, hstring, hencoding, -String.reduceToList]

inductive TypeExpr.Spells {ρ : Type} : DataType → TypeExpr ρ → Prop
  | integer {kind : IntegerKind} {bits : Nat} {p q : Position} :
      Spells (.integer kind bits) (.integer kind (.constant bits p) q)
  | float {bits : Nat} {p q : Position} : Spells (.float bits) (.float (.constant bits p) q)
  | vector {type : DataType} {element : TypeExpr ρ} {count : Nat} {p q : Position} (spells : Spells type element) :
      Spells (.vector type count) (.vector element (.constant count p) q)
  | matrix {type : DataType} {element : TypeExpr ρ} {width height : Nat} {p p' q : Position}
      (spells : Spells type element) :
      Spells (.matrix type width height) (.matrix element (.constant width p) (.constant height p') q)
  | booleanSet {flags : List (FieldName × Position)} {octets : Nat} {p q : Position} :
      Spells (.booleanSet (flags.map Prod.fst) octets) (.booleanSet (.constant octets p) flags q)
  | string {encoding : String} {octets : Nat} {p q : Position} :
      Spells (.string encoding octets) (.string (.constant octets p) encoding q)

namespace Expr

lemma toSize_number {e : Expr} {n : Nat} (h : e.Alike (number n)) : ∃ p, e.toSize = .ok (.constant n p) := by
  obtain ⟨p, rfl⟩ := alike_atom_iff.mp h
  refine ⟨p, ?_⟩
  rw [toSize, toNumber?_toString]

lemma toFlags_words {items : List Expr} {flags : List FieldName} (q : Position)
    (h : List.Forall₂ Alike items (flags.map fun flag => word flag.text)) :
    ∃ found, (list .square items q).toFlags = .ok found ∧ found.map Prod.fst = flags := by
  induction flags generalizing items with
  | nil =>
    cases h
    exact ⟨[], rfl, rfl⟩
  | cons flag flags ih =>
    obtain _ | ⟨hflag, hrest⟩ := h
    obtain ⟨p, rfl⟩ := alike_atom_iff.mp hflag
    obtain ⟨found, hfound, rfl⟩ := ih hrest
    refine ⟨(flag, p) :: found, ?_, rfl⟩
    rw [toFlags, mapM_eq_ok_iff] at hfound ⊢
    refine .cons ?_ hfound
    rw [toName_text]
    rfl

lemma toType_spells {type : DataType} (h : type.Writable c) : ∀ {e : Expr}, e.Alike type.toExpr →
    ∃ found, e.toType = .ok found ∧ found.Spells type := by
  induction h with
  | integer _ _ =>
    intro e he
    obtain ⟨found, hfound, p, q, rfl⟩ := toType_integer he
    exact ⟨_, hfound, .integer⟩
  | @float bits _ _ =>
    intro e he
    obtain ⟨r, _, q, rfl, hargs⟩ := Alike.of_form he
    obtain _ | ⟨hbits, _ | _⟩ := hargs
    obtain ⟨p, hbits⟩ := toSize_number hbits
    refine ⟨.float (.constant bits p) q, ?_, .float⟩
    rw [toType, ok_bind hbits]
  | @vector element count _ _ _ ih =>
    intro e he
    obtain ⟨r, _, q, rfl, hargs⟩ := Alike.of_form he
    obtain _ | ⟨helement, _ | ⟨hcount, _ | _⟩⟩ := hargs
    obtain ⟨found, helement, hspells⟩ := ih helement
    obtain ⟨p, hcount⟩ := toSize_number hcount
    refine ⟨.vector found (.constant count p) q, ?_, .vector hspells⟩
    rw [toType, ok_bind helement, ok_bind hcount]
  | @matrix element width height _ _ _ ih =>
    intro e he
    obtain ⟨r, _, q, rfl, hargs⟩ := Alike.of_form he
    obtain _ | ⟨helement, _ | ⟨hwidth, _ | ⟨hheight, _ | _⟩⟩⟩ := hargs
    obtain ⟨found, helement, hspells⟩ := ih helement
    obtain ⟨p, hwidth⟩ := toSize_number hwidth
    obtain ⟨p', hheight⟩ := toSize_number hheight
    refine ⟨.matrix found (.constant width p) (.constant height p') q, ?_, .matrix hspells⟩
    rw [toType, ok_bind helement, ok_bind hwidth, ok_bind hheight]
  | @booleanSet flags octets _ _ _ =>
    intro e he
    obtain ⟨r, _, q, rfl, hargs⟩ := Alike.of_form he
    obtain _ | ⟨hoctets, _ | ⟨hflags, _ | _⟩⟩ := hargs
    obtain ⟨items, q', rfl, hitems⟩ := alike_list_iff.mp hflags
    obtain ⟨found, hfound, rfl⟩ := toFlags_words q' hitems
    obtain ⟨p, hoctets⟩ := toSize_number hoctets
    refine ⟨.booleanSet (.constant octets p) found q, ?_, .booleanSet⟩
    rw [toType, ok_bind hfound, ok_bind hoctets]
  | @string encoding octets _ _ _ =>
    intro e he
    obtain ⟨r, _, q, rfl, hargs⟩ := Alike.of_form he
    obtain _ | ⟨hoctets, _ | ⟨hencoding, _ | _⟩⟩ := hargs
    obtain ⟨q', rfl⟩ := alike_quoted_iff.mp hencoding
    obtain ⟨p, hoctets⟩ := toSize_number hoctets
    refine ⟨.string (.constant octets p) encoding q, ?_, .string⟩
    rw [toType, toEncoding, ok_bind rfl, ok_bind hoctets]

end Expr

lemma TypeExpr.Spells.resolve {found : TypeExpr Mention} {type : DataType} (h : found.Spells type) (t : TypeTable)
    (s : Scope) : ∃ resolved, found.resolve t s = .ok resolved ∧ resolved.Spells type := by
  induction h with
  | integer => exact ⟨_, rfl, .integer⟩
  | float => exact ⟨_, rfl, .float⟩
  | @vector type element count p q _ ih =>
    obtain ⟨resolved, hresolved, hspells⟩ := ih
    refine ⟨.vector resolved (.constant count p) q, ?_, .vector hspells⟩
    rw [TypeExpr.resolve, ok_bind hresolved]
    rfl
  | @matrix type element width height p p' q _ ih =>
    obtain ⟨resolved, hresolved, hspells⟩ := ih
    refine ⟨.matrix resolved (.constant width p) (.constant height p') q, ?_, .matrix hspells⟩
    rw [TypeExpr.resolve, ok_bind hresolved]
    rfl
  | booleanSet => exact ⟨_, rfl, .booleanSet⟩
  | string => exact ⟨_, rfl, .string⟩

namespace Check

lemma positive_of_pos {what : Positive} {n : Nat} (h : 0 < n) (p : Position) : positive what n p = .ok () :=
  if_neg (Nat.pos_iff_ne_zero.mp h)

lemma supported_of_isSupported {m : Measured} (h : m.isSupported = true) (p : Position) : supported m p = .ok () :=
  if_pos h

lemma distinctFlags_of_nodup {flags : List (FieldName × Position)} (h : (flags.map Prod.fst).Nodup) :
    ∀ {seen : List FieldName}, (∀ flag ∈ flags.map Prod.fst, flag ∉ seen) → distinctFlags seen flags = .ok () := by
  induction flags with
  | nil => exact fun _ => rfl
  | cons flag flags ih =>
    intro seen hseen
    obtain ⟨hflag, hnodup⟩ := List.nodup_cons.mp h
    obtain ⟨hfresh, hrest⟩ := List.forall_mem_cons.mp hseen
    rw [distinctFlags, if_neg hfresh]
    apply ih hnodup
    intro other hother hmem
    rcases List.mem_cons.mp hmem with rfl | hmem
    · exact hflag hother
    · exact hrest other hother hmem

end Check

lemma TypeExpr.check_integer {origin : Placement} {kind : IntegerKind} {bits : Nat} {p q : Position}
    (hallows : c.Allows origin bits) (hpositive : 0 < bits) :
    TypeExpr.check c t origin (.integer kind (.constant bits p) q) = .ok (.integer kind bits) := by
  have hsupported : (Check.measuredInteger c bits origin).isSupported = true := by
    cases origin <;> exact hallows
  rw [TypeExpr.check, SizeExpr.evaluate, ok_bind rfl, ok_bind (Check.positive_of_pos hpositive q),
    ok_bind (Check.supported_of_isSupported hsupported q)]

lemma TypeExpr.Spells.check {type : DataType} (h : type.Writable c) (t : TypeTable) :
    ∀ {resolved : TypeExpr Target}, resolved.Spells type → resolved.check c t .record = .ok type := by
  induction h with
  | integer positive supported =>
    rintro _ ⟨⟩
    exact check_integer supported positive
  | float positive supported =>
    rintro _ ⟨⟩
    rw [TypeExpr.check, SizeExpr.evaluate, ok_bind rfl, ok_bind (Check.positive_of_pos positive _),
      ok_bind (Check.supported_of_isSupported (m := .float _ _) supported _)]
  | vector _ scalar supported ih =>
    rintro _ ⟨⟩
    next spells =>
    rw [TypeExpr.check, SizeExpr.evaluate, ok_bind (ih spells), Check.scalar, if_pos scalar, ok_bind rfl, ok_bind rfl,
      ok_bind (Check.supported_of_isSupported (m := .elementCount _ _) supported _)]
  | matrix _ scalar supported ih =>
    rintro _ ⟨⟩
    next spells =>
    have hsupported := Check.supported_of_isSupported (m := .matrixShape _ _ _) supported
    rw [TypeExpr.check, SizeExpr.evaluate, SizeExpr.evaluate, ok_bind (ih spells), Check.scalar, if_pos scalar,
      ok_bind rfl, ok_bind rfl, ok_bind rfl, ok_bind (hsupported _)]
  | booleanSet supported nodup room =>
    rintro _ ⟨⟩
    have hroom := Nat.not_lt.mpr room
    rw [List.length_map] at hroom
    have hsupported := Check.supported_of_isSupported (m := .booleanSet _ _) supported
    rw [TypeExpr.check, SizeExpr.evaluate, ok_bind rfl, ok_bind (hsupported _),
      ok_bind (Check.distinctFlags_of_nodup nodup (by simp)), if_neg hroom]
  | string supported encodable _ =>
    rintro _ ⟨⟩
    have hsupported := Check.supported_of_isSupported (m := .string _ _) supported
    rw [TypeExpr.check, SizeExpr.evaluate, ok_bind rfl, ok_bind (hsupported _), if_pos encodable]

/-- Every supported type that names no declaration can be written down, and its notation is what is displayed of
it. -/
theorem DataType.Writable.read_back {type : DataType} (h : type.Writable c) (file : FileId) :
    ∃ e, (Expr.read file type.render).stream = [.ok e] ∧ ∃ found, e.toType = .ok found ∧
      ∀ (t : TypeTable) (s : Scope), ∃ resolved, found.resolve t s = .ok resolved ∧
        resolved.check c t .record = .ok type := by
  obtain ⟨e, hstream, halike⟩ := Expr.read_legible file h.legible
  obtain ⟨found, hfound, hspells⟩ := Expr.toType_spells h halike
  refine ⟨e, hstream, found, hfound, fun t s => ?_⟩
  obtain ⟨resolved, hresolved, hspells⟩ := hspells.resolve t s
  exact ⟨resolved, hresolved, TypeExpr.Spells.check h t hspells⟩

def oddlyEncoded : Capabilities :=
  { Capabilities.standard with encodings := .ofList ["\"8\\bit\""] }

theorem odd_types_read_back :
    (∃ e, (Expr.read default (DataType.string "\"8\\bit\"" 12).render).stream = [.ok e] ∧
      ∃ found, e.toType = .ok found ∧ ∀ (t : TypeTable) (s : Scope), ∃ resolved, found.resolve t s = .ok resolved ∧
        resolved.check oddlyEncoded t .record = .ok (.string "\"8\\bit\"" 12)) ∧
    ∃ e, (Expr.read default (DataType.booleanSet [⟨"größe", by decide +kernel⟩] 1).render).stream = [.ok e] ∧
      ∃ found, e.toType = .ok found ∧ ∀ (t : TypeTable) (s : Scope), ∃ resolved, found.resolve t s = .ok resolved ∧
        resolved.check oddlyEncoded t .record = .ok (.booleanSet [⟨"größe", by decide +kernel⟩] 1) := by
  have hchecked : "\"8\\bit\"".toList.all (fun d => Text.Quoted.isPlain d || d == '"' || d == '\\') = true := by
    decide +kernel
  have hquotable : ∀ d ∈ "\"8\\bit\"".toList, Expr.IsQuotable d := by
    intro d hd
    rw [Expr.IsQuotable]
    simpa only [Bool.or_eq_true, beq_iff_eq, or_assoc] using List.all_eq_true.mp hchecked d hd
  constructor
  · exact DataType.Writable.read_back (.string (by decide +kernel) (by decide +kernel) hquotable) default
  · exact DataType.Writable.read_back (.booleanSet (by decide +kernel) (by decide) (by decide)) default

end RecordSchema
