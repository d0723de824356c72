import RecordSchema.Proofs.Expr.Alike
import RecordSchema.Schema.Parse
import Mathlib.Tactic.Common

namespace RecordSchema

def IsNumeral (n : Nat) (text : String) : Prop :=
  ∃ zeros, text.toList = List.replicate zeros '0' ++ Nat.toDigits 10 n

/-- A tree in which sizes are numbers yet, and in which a place is given where the schema keeps it. -/
inductive Template where
  | atom (text : String) (place : Option Position)
  | number (value : Nat) (place : Option Position)
  | quoted (text : String) (place : Option Position)
  | list (bracket : Bracket) (items : List Template) (place : Option Position)

namespace Template

def word (text : String) : Template :=
  atom text none

def form (keyword : String) (args : List Template) (p : Position) : Template :=
  list .round (word keyword :: args) (some p)

mutual

def tree : Template → Expr
  | atom text place => .atom text (place.getD default)
  | number n place => .atom (toString n) (place.getD default)
  | quoted text place => .quoted text (place.getD default)
  | list bracket items place => .list bracket (treeEach items) (place.getD default)

def treeEach : List Template → List Expr
  | [] => []
  | t :: ts => t.tree :: treeEach ts

end

mutual

def Matches : Template → Expr → Prop
  | atom text place, e => ∃ p, e = .atom text p ∧ ∀ q ∈ place, q = p
  | number n place, e => ∃ text p, e = .atom text p ∧ IsNumeral n text ∧ ∀ q ∈ place, q = p
  | quoted text place, e => ∃ p, e = .quoted text p ∧ ∀ q ∈ place, q = p
  | list bracket items place, e => ∃ es p, e = .list bracket es p ∧ MatchesEach items es ∧ ∀ q ∈ place, q = p

def MatchesEach : List Template → List Expr → Prop
  | [], es => es = []
  | t :: ts, es => ∃ e rest, es = e :: rest ∧ t.Matches e ∧ MatchesEach ts rest

end

end Template

def Mention.print (m : Mention) (place : Option Position) : Template :=
  .atom m.render place

def printPath (path : List FieldName) : Template :=
  .word (String.ofList (Text.joinWith ['.'] (path.map fun name => name.text.toList)))

mutual

def TypeExpr.print : TypeExpr Mention → Template
  | .integer kind bits p => .form "integer" [.word kind.keyword, bits.print] p
  | .float bits p => .form "float" [bits.print] p
  | .vector element count p => .form "vector" [element.print, count.print] p
  | .matrix element width height p => .form "matrix" [element.print, width.print, height.print] p
  | .booleanSet octets flags p =>
    .form "boolean-set" [octets.print, .list .square (flags.map fun flag => .atom flag.1.text (some flag.2)) none] p
  | .string octets encoding p => .form "string" [octets.print, .quoted encoding none] p
  | .reference mention p => mention.print (some p)
  | .typeOf mention q path p => .form "type-of" [mention.print (some q), printPath path] p

def SizeExpr.print : SizeExpr Mention → Template
  | .constant n p => .number n (some p)
  | .inOctets of p => .form "size-in-octets" [of.print] p
  | .inBits of p => .form "size-in-bits" [of.print] p

end

def RecordItem.print : RecordItem Mention → Template
  | .field name type p => .form "field" [.word name.text, type.print] p
  | .padding octets p => .form "padding-octets" [octets.print] p

def PackedItem.print : PackedItem Mention → Template
  | .field name type p => .form "field" [.word name.text, type.print] p
  | .padding bits p => .form "padding-bits" [bits.print] p

def CaseItem.print (item : CaseItem Mention) : Template :=
  .form "case" [.word item.name.text, item.type.print] item.position

def Body.members : Body Mention → List Template
  | .record items => items.map RecordItem.print
  | .packed items => items.map PackedItem.print
  | .union cases => cases.map CaseItem.print

def Statement.print : Statement → Template
  | .packageBegin name p => .form "package-begin" [.word name.render] p
  | .packageEnd p => .form "package-end" [] p
  | .importPackage package qualifier p => .form "import" [.word package.render, .word "as", .word qualifier.text] p
  | .define d => .form d.body.keyword [.word d.name.text, .list .square d.body.members none] d.position
  | .showType type p => .form ":type" [type.print] p
  | .showSize size p => .form ":size" [size.print] p

mutual

def TypeExpr.Proper {ρ : Type} : TypeExpr ρ → Prop
  | .integer _ bits _ => bits.Proper
  | .float bits _ => bits.Proper
  | .vector element count _ => element.Proper ∧ count.Proper
  | .matrix element width height _ => element.Proper ∧ width.Proper ∧ height.Proper
  | .booleanSet octets _ _ => octets.Proper
  | .string octets _ _ => octets.Proper
  | .reference _ _ => True
  | .typeOf _ _ path _ => path ≠ []

def SizeExpr.Proper {ρ : Type} : SizeExpr ρ → Prop
  | .constant _ _ => True
  | .inOctets of _ => of.Proper
  | .inBits of _ => of.Proper

end

def RecordItem.Proper {ρ : Type} : RecordItem ρ → Prop
  | .field _ type _ => type.Proper
  | .padding octets _ => octets.Proper

def PackedItem.Proper {ρ : Type} : PackedItem ρ → Prop
  | .field _ type _ => type.Proper
  | .padding bits _ => bits.Proper

def CaseItem.Proper {ρ : Type} (item : CaseItem ρ) : Prop :=
  item.type.Proper

def Body.Proper {ρ : Type} : Body ρ → Prop
  | .record items => ∀ item ∈ items, item.Proper
  | .packed items => ∀ item ∈ items, item.Proper
  | .union cases => ∀ item ∈ cases, item.Proper

def Statement.Proper : Statement → Prop
  | .define d => d.body.Proper
  | .showType type _ => type.Proper
  | .showSize size _ => size.Proper
  | _ => True

namespace Expr

def canonicalText (text : String) : String :=
  match toNumber? text with
  | some n => toString n
  | none => text

mutual

def canonical : Expr → Expr
  | atom text _ => atom (canonicalText text) default
  | quoted text _ => quoted text default
  | list bracket items _ => list bracket (canonicalEach items) default

def canonicalEach : List Expr → List Expr
  | [] => []
  | e :: es => e.canonical :: canonicalEach es

end

end Expr

lemma digitChar_toNat {c : Char} (h : c.isDigit = true) :
    c.toNat - '0'.toNat < 10 ∧ Nat.digitChar (c.toNat - '0'.toNat) = c := by
  obtain ⟨hlower, hupper⟩ := Char.isDigit_iff_toNat.mp h
  have hlow : 48 ≤ c.toNat := hlower
  have hhigh : c.toNat ≤ 57 := hupper
  have hlt : c.toNat - '0'.toNat < 10 := by
    change c.toNat - 48 < 10
    omega
  refine ⟨hlt, Char.toNat_inj.mp ?_⟩
  rw [Nat.toNat_digitChar_of_lt_ten hlt]
  change 48 + (c.toNat - 48) = c.toNat
  omega

lemma toDigits_append {n : Nat} (hn : 0 < n) {digits : List Char} (h : ∀ c ∈ digits, c.isDigit = true) :
    Nat.toDigits 10 n ++ digits = Nat.toDigits 10 (Nat.ofDigitChars 10 digits n) := by
  induction digits generalizing n with
  | nil => exact List.append_nil _
  | cons c digits ih =>
    obtain ⟨hc, hdigits⟩ := List.forall_mem_cons.mp h
    obtain ⟨hlt, hchar⟩ := digitChar_toNat hc
    have hstep : Nat.toDigits 10 n ++ [c] = Nat.toDigits 10 (10 * n + (c.toNat - '0'.toNat)) := by
      rw [← Nat.toDigits_append_toDigits (by decide) hn hlt, Nat.toDigits_of_lt_base hlt, hchar]
    rw [Nat.ofDigitChars_cons, ← ih (by omega) hdigits, ← hstep, List.append_assoc]
    rfl

lemma exists_zeros {digits : List Char} (hne : digits ≠ []) (h : ∀ c ∈ digits, c.isDigit = true) :
    ∃ zeros, digits = List.replicate zeros '0' ++ Nat.toDigits 10 (Nat.ofDigitChars 10 digits 0) := by
  induction digits with
  | nil => exact absurd rfl hne
  | cons c digits ih =>
    obtain ⟨hc, hdigits⟩ := List.forall_mem_cons.mp h
    obtain ⟨hlt, hchar⟩ := digitChar_toNat hc
    have hfirst : Nat.toDigits 10 (c.toNat - '0'.toNat) = [c] := by rw [Nat.toDigits_of_lt_base hlt, hchar]
    rw [Nat.ofDigitChars_cons, Nat.mul_zero, Nat.zero_add]
    by_cases hzero : c.toNat - '0'.toNat = 0
    · have hc' : c = '0' := by
        rw [← hchar, hzero]
        rfl
      rw [hzero]
      cases digits with
      | nil => exact ⟨0, by rw [hc']; rfl⟩
      | cons d digits =>
        obtain ⟨zeros, hzeros⟩ := ih (List.cons_ne_nil d digits) hdigits
        refine ⟨zeros + 1, ?_⟩
        rw [List.replicate_succ, List.cons_append, ← hzeros, hc']
    · refine ⟨0, ?_⟩
      rw [← toDigits_append (Nat.pos_of_ne_zero hzero) hdigits, hfirst]
      rfl

namespace Expr

lemma toNumber?_eq_some_iff {text : String} {n : Nat} : toNumber? text = some n ↔ IsNumeral n text := by
  have hvalue (digits : List Char) :
      digits.foldl (fun n c => 10 * n + (c.toNat - '0'.toNat)) 0 = Nat.ofDigitChars 10 digits 0 :=
    Nat.ofDigitChars_eq_foldl.symm
  rw [toNumber?, hvalue]
  constructor
  · intro h
    by_cases hdigits : text.toList ≠ [] ∧ text.toList.all Char.isDigit = true
    · rw [if_pos hdigits] at h
      obtain rfl := Option.some.inj h
      exact exists_zeros hdigits.1 (List.all_eq_true.mp hdigits.2)
    · rw [if_neg hdigits] at h
      cases h
  · rintro ⟨zeros, htext⟩
    have hdigits : text.toList ≠ [] ∧ text.toList.all Char.isDigit = true := by
      rw [htext]
      refine ⟨List.append_ne_nil_of_right_ne_nil _ Nat.toDigits_ne_nil, List.all_eq_true.mpr fun c hc => ?_⟩
      rcases List.mem_append.mp hc with hzero | hdigit
      · rw [List.eq_of_mem_replicate hzero]
        rfl
      · exact Nat.isDigit_of_mem_toDigits (by decide) (by decide) hdigit
    rw [if_pos hdigits, htext, Nat.ofDigitChars_append, Nat.ofDigitChars_replicate_zero, Nat.mul_zero,
      Nat.ofDigitChars_ten_toDigits]

lemma toNumber?_toString (n : Nat) : toNumber? (toString n) = some n :=
  toNumber?_eq_some_iff.mpr ⟨0, by rw [Nat.toString_eq_ofList_toDigits, String.toList_ofList]; rfl⟩

end Expr

end RecordSchema
