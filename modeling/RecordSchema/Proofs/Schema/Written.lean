import RecordSchema.Layout.DataType
import RecordSchema.Proofs.Expr.Written
import RecordSchema.Proofs.Schema.Exact

namespace RecordSchema

open DataType.toExpr (form word number)

namespace Expr

@[simp] lemma legible_word {text : String} : (word text).Legible ↔ IsWord text.toList :=
  legible_atom_iff

@[simp] lemma legible_number (n : Nat) : (number n).Legible :=
  .atom (isWord_toString n)

@[simp] lemma legible_form {items : List Expr} : (form items).Legible ↔ ∀ e ∈ items, e.Legible :=
  legible_list_iff

lemma Alike.of_form {e : Expr} {keyword : String} {args : List Expr} (h : e.Alike (form (word keyword :: args))) :
    ∃ q args' p, e = list .round (atom keyword q :: args') p ∧ List.Forall₂ Alike args' args := by
  obtain ⟨_, p, rfl, hitems⟩ := alike_list_iff.mp h
  obtain _ | ⟨hkeyword, hargs⟩ := hitems
  obtain ⟨q, rfl⟩ := alike_atom_iff.mp hkeyword
  exact ⟨q, _, p, rfl, hargs⟩

lemma Alike.of_member {e : Expr} {keyword : String} {name : String} {type : Expr}
    (h : e.Alike (form [word keyword, word name, type])) :
    ∃ q r type' p, e = list .round [atom keyword q, atom name r, type'] p ∧ type'.Alike type := by
  obtain ⟨q, _, p, rfl, hargs⟩ := h.of_form
  obtain _ | ⟨hname, _ | ⟨htype, _ | _⟩⟩ := hargs
  obtain ⟨r, rfl⟩ := alike_atom_iff.mp hname
  exact ⟨q, r, _, p, rfl, htype⟩

lemma toName_text {g : NameGrammar} (name : Name g) (wanted : String) (q : Position) :
    (atom name.text q).toName g wanted = .ok name :=
  toName_eq_ok_iff.mpr ⟨q, rfl, nofun⟩

lemma toMention_text (name : TypeName) (p : Position) : (atom name.text p).toMention = .ok ⟨none, name⟩ :=
  toMention_atom_iff.mpr rfl

lemma toFieldPath_text (name : FieldName) (p : Position) : (atom name.text p).toFieldPath = .ok [name] := by
  refine toFieldPath_eq_ok_iff.mpr ⟨List.cons_ne_nil _ _, p, ?_, nofun⟩
  rw [List.map_singleton, Text.joinWith, String.ofList_toList]

lemma toType_integer {e : Expr} {kind : IntegerKind} {bits : Nat}
    (h : e.Alike (DataType.integer kind bits).toExpr) :
    ∃ found, e.toType = .ok found ∧ ∃ p q, found = .integer kind (.constant bits p) q := by
  obtain ⟨r, _, q, rfl, hargs⟩ := Alike.of_form h
  obtain _ | ⟨hkind, _ | ⟨hbits, _ | _⟩⟩ := hargs
  obtain ⟨r', rfl⟩ := alike_atom_iff.mp hkind
  obtain ⟨p, rfl⟩ := alike_atom_iff.mp hbits
  refine ⟨.integer kind (.constant bits p) q, ?_, p, q, rfl⟩
  have hform : toType (list .round [atom "integer" r, atom kind.keyword r', atom (toString bits) p] q) = (do
      let kind ← (atom kind.keyword r').toIntegerKind
      .ok (.integer kind (← (atom (toString bits) p).toSize) q)) := rfl
  rw [hform, toIntegerKind, IntegerKind.ofKeyword?_keyword, toSize, toNumber?_toString]
  rfl

lemma toType_typeOf {e : Expr} {name : TypeName} {field : FieldName}
    (h : e.Alike (form [word "type-of", word name.text, word field.text])) :
    ∃ found, e.toType = .ok found ∧ ∃ p q, found = .typeOf ⟨none, name⟩ p [field] q := by
  obtain ⟨r, _, q, rfl, hargs⟩ := h.of_form
  obtain _ | ⟨hname, _ | ⟨hfield, _ | _⟩⟩ := hargs
  obtain ⟨p, rfl⟩ := alike_atom_iff.mp hname
  obtain ⟨r', rfl⟩ := alike_atom_iff.mp hfield
  refine ⟨.typeOf ⟨none, name⟩ p [field] q, ?_, p, q, rfl⟩
  have hform : toType (list .round [atom "type-of" r, atom name.text p, atom field.text r'] q) = (do
      let mention ← (atom name.text p).toMention
      .ok (.typeOf mention p (← (atom field.text r').toFieldPath) q)) := rfl
  rw [hform, toMention_text, toFieldPath_text]
  rfl

lemma toPackedItem_field {type : Expr} {name : FieldName} {found : TypeExpr Mention} {p q r : Position}
    (h : type.toType = .ok found) :
    toPackedItem (list .round [atom "field" q, atom name.text r, type] p) = .ok (.field name found p) := by
  have hform : toPackedItem (list .round [atom "field" q, atom name.text r, type] p) = (do
      let name ← (atom name.text r).toName _ "field name"
      .ok (.field name (← type.toType) p)) := rfl
  rw [hform, toName_text, h]
  rfl

lemma toPackedItem_padding {bits : Nat} {p q r : Position} :
    toPackedItem (list .round [atom "padding-bits" q, atom (toString bits) r] p) =
      .ok (.padding (.constant bits r) p) := by
  have hform : toPackedItem (list .round [atom "padding-bits" q, atom (toString bits) r] p) =
      ((atom (toString bits) r).toSize >>= fun size => .ok (.padding size p)) := rfl
  rw [hform, toSize, toNumber?_toString]
  rfl

lemma toCaseItem_case {type : Expr} (name : CaseName) {found : TypeExpr Mention} {p q r : Position}
    (h : type.toType = .ok found) :
    toCaseItem (list .round [atom "case" q, atom name.text r, type] p) = .ok ⟨name, found, p⟩ := by
  have hform : toCaseItem (list .round [atom "case" q, atom name.text r, type] p) = (do
      let name ← (atom name.text r).toName _ "case name"
      .ok ⟨name, ← type.toType, p⟩) := rfl
  rw [hform, toName_text, h]
  rfl

lemma toDefinition_eq_ok {toBody : List Expr → Except ParseError (Body Mention)} {name : TypeName}
    {members : List Expr} {body : Body Mention} {p q r : Position} (h : toBody members = .ok body) :
    toDefinition toBody (atom name.text q) (list .square members r) p = .ok (.define ⟨name, body, p⟩) := by
  have hmembers : (list .square members r).toMembers = .ok members := rfl
  rw [toDefinition, toName_text, hmembers]
  simp only [bind, Except.bind, h]

end Expr

end RecordSchema
