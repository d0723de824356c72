import RecordSchema.Proofs.Relocation.Basic
import RecordSchema.Proofs.Relocation.Mirror

namespace RecordSchema.Expr

variable (r : Relocation)

lemma unexpected_relocate (wanted : String) (e : Expr) :
    (e.relocate r).unexpected wanted = (e.unexpected wanted).relocate r := by
  simp [unexpected, ParseError.relocate]

lemma noForm_relocate (wanted : String) (e : Expr) : (e.relocate r).noForm wanted = (e.noForm wanted).relocate r := by
  obtain _ | _ | ⟨_ | _, _ | ⟨head, items⟩, p⟩ := e
  · exact unexpected_relocate r wanted _
  · exact unexpected_relocate r wanted _
  · rfl
  · exact unexpected_relocate r "keyword" head
  · exact unexpected_relocate r wanted (.list .square [] p)
  · exact unexpected_relocate r wanted (.list .square (head :: items) p)

lemma badForm_relocate (forms : List (String × Nat)) (unknown : ParseProblem) (keyword : String) (args : List Expr)
    (p : Position) : badForm forms unknown keyword (args.map (relocate r)) (r.position p) =
      (badForm forms unknown keyword args p).relocate r := by
  rw [badForm, badForm, List.length_map]
  cases forms.lookup keyword <;> rfl

variable {α β : Type} {g : α → β}

lemma unexpected_mirrors (wanted : String) (e : Expr) :
    Mirrors (.relocate r) g (.error (e.unexpected wanted)) (.error ((e.relocate r).unexpected wanted)) := by
  rw [unexpected_relocate]
  exact .error _

lemma noForm_mirrors (wanted : String) (e : Expr) :
    Mirrors (.relocate r) g (.error (e.noForm wanted)) (.error ((e.relocate r).noForm wanted)) := by
  rw [noForm_relocate]
  exact .error _

lemma badForm_mirrors (forms : List (String × Nat)) (unknown : ParseProblem) (keyword : String) (args : List Expr)
    (p : Position) : Mirrors (.relocate r) g (.error (badForm forms unknown keyword args p))
      (.error (badForm forms unknown keyword (relocateEach r args) (r.position p))) := by
  rw [relocateEach_eq_map, badForm_relocate]
  exact .error _

lemma invalidName_mirrors (x : Except NameError α) (p : Position) : Mirrors (ParseError.relocate r) id
    (x.mapError fun error => ⟨.invalidName error, p⟩) (x.mapError fun error => ⟨.invalidName error, r.position p⟩) :=
  Mirrors.mapError (E := ParseError.relocate r) (fun _ => rfl) x

lemma toName_mirrors (g : NameGrammar) (wanted : String) (e : Expr) :
    Mirrors (.relocate r) id (e.toName g wanted) ((e.relocate r).toName g wanted) := by
  cases e with
  | atom text p => exact invalidName_mirrors r _ p
  | quoted text p => exact unexpected_mirrors r wanted (.quoted text p)
  | list bracket items p => exact unexpected_mirrors r wanted (.list bracket items p)

lemma toPackageName_mirrors (e : Expr) : Mirrors (.relocate r) id e.toPackageName (e.relocate r).toPackageName := by
  cases e with
  | atom text p => exact invalidName_mirrors r _ p
  | quoted text p => exact unexpected_mirrors r _ (.quoted text p)
  | list bracket items p => exact unexpected_mirrors r _ (.list bracket items p)

lemma toMention_mirrors (e : Expr) : Mirrors (.relocate r) id e.toMention (e.relocate r).toMention := by
  cases e with
  | atom text p =>
    rw [relocate, toMention, toMention]
    split
    · exact (invalidName_mirrors r _ p).bind fun qualifier => (invalidName_mirrors r _ p).bind fun name => .ok _
    · exact (invalidName_mirrors r _ p).bind fun name => .ok _
  | quoted text p => exact unexpected_mirrors r _ (.quoted text p)
  | list bracket items p => exact unexpected_mirrors r _ (.list bracket items p)

lemma toFieldPath_mirrors (e : Expr) : Mirrors (.relocate r) id e.toFieldPath (e.relocate r).toFieldPath := by
  cases e with
  | atom text p =>
    let words := Text.splitOn '.' text.toList
    let parse (p : Position) (word : List Char) : Except ParseError FieldName :=
      (Name.parse _ (String.ofList word)).mapError fun error => ⟨.invalidName error, p⟩
    have hwords : Mirrors (.relocate r) (List.map id) (words.mapM (parse p)) ((words.map id).mapM (parse (r.position p))) :=
      .mapM fun word _ => invalidName_mirrors r _ p
    rwa [List.map_id, List.map_id_fun] at hwords
  | quoted text p => exact unexpected_mirrors r _ (.quoted text p)
  | list bracket items p => exact unexpected_mirrors r _ (.list bracket items p)

lemma toIntegerKind_mirrors (e : Expr) : Mirrors (.relocate r) id e.toIntegerKind (e.relocate r).toIntegerKind := by
  cases e with
  | atom text p =>
    rw [relocate, toIntegerKind, toIntegerKind]
    cases IntegerKind.ofKeyword? text with
    | some kind => exact .ok kind
    | none => exact .error (⟨.unknownKind text, p⟩ : ParseError)
  | quoted text p => exact unexpected_mirrors r _ (.quoted text p)
  | list bracket items p => exact unexpected_mirrors r _ (.list bracket items p)

lemma toFlags_mirrors (e : Expr) : Mirrors (.relocate r) (List.map fun flag => (flag.1, r.position flag.2))
    e.toFlags (e.relocate r).toFlags := by
  obtain ⟨text, p⟩ | ⟨text, p⟩ | ⟨_ | _, items, p⟩ := e
  · exact unexpected_mirrors r _ (.atom text p)
  · exact unexpected_mirrors r _ (.quoted text p)
  · exact unexpected_mirrors r _ (.list .round items p)
  · rw [relocate, toFlags, toFlags, relocateEach_eq_map]
    refine .mapM fun flag _ => (toName_mirrors r _ _ flag).bind fun name => ?_
    rw [position_relocate]
    exact .ok (name, flag.position)

lemma toEncoding_mirrors (e : Expr) : Mirrors (.relocate r) id e.toEncoding (e.relocate r).toEncoding := by
  cases e with
  | atom text p => exact unexpected_mirrors r _ (.atom text p)
  | quoted text p => exact .ok text
  | list bracket items p => exact unexpected_mirrors r _ (.list bracket items p)

mutual

lemma toType_mirrors : ∀ e : Expr, Mirrors (.relocate r) (.map r.position id) e.toType (e.relocate r).toType
  | atom text p => (toMention_mirrors r (atom text p)).bind fun mention => .ok (TypeExpr.reference mention p)
  | quoted text p => noForm_mirrors r _ (.quoted text p)
  | list .square items p => noForm_mirrors r _ (.list .square items p)
  | list .round [] p => noForm_mirrors r _ (.list .round [] p)
  | list .round (quoted text q :: items) p => noForm_mirrors r _ (.list .round (quoted text q :: items) p)
  | list .round (list b items' q :: items) p => noForm_mirrors r _ (.list .round (list b items' q :: items) p)
  | list .round (atom keyword q :: args) p => by
    rw [relocate, relocateEach, relocate]
    unfold toType
    split
    · next kind bits =>
      exact (toIntegerKind_mirrors r kind).bind fun kind => (toSize_mirrors bits).bind fun bits =>
        .ok (TypeExpr.integer kind bits p)
    · next bits => exact (toSize_mirrors bits).bind fun bits => .ok (TypeExpr.float bits p)
    · next element count =>
      exact (toType_mirrors element).bind fun element => (toSize_mirrors count).bind fun count =>
        .ok (TypeExpr.vector element count p)
    · next element width height =>
      exact (toType_mirrors element).bind fun element => (toSize_mirrors width).bind fun width =>
        (toSize_mirrors height).bind fun height => .ok (TypeExpr.matrix element width height p)
    · next octets flags =>
      exact (toFlags_mirrors r flags).bind fun flags => (toSize_mirrors octets).bind fun octets =>
        .ok (TypeExpr.booleanSet octets flags p)
    · next octets encoding =>
      exact (toEncoding_mirrors r encoding).bind fun encoding => (toSize_mirrors octets).bind fun octets =>
        .ok (TypeExpr.string octets encoding p)
    · next target path =>
      refine (toMention_mirrors r target).bind fun mention => (toFieldPath_mirrors r path).bind fun path => ?_
      rw [position_relocate]
      exact .ok (TypeExpr.typeOf mention target.position path p)
    · -- No form that is known takes these arguments, and so it is with the relocated ones.
      split
      case h_8 => exact badForm_mirrors r _ _ _ _ _
      all_goals simp_all [List.map_eq_cons_iff]
termination_by e => sizeOf e
decreasing_by
  all_goals
    subst_vars
    simp only [list.sizeOf_spec, List.cons.sizeOf_spec]
    omega

lemma toSize_mirrors : ∀ e : Expr, Mirrors (.relocate r) (.map r.position id) e.toSize (e.relocate r).toSize
  | atom text p => by
    rw [relocate, toSize, toSize]
    cases toNumber? text with
    | some value => exact .ok (SizeExpr.constant value p)
    | none => exact .error (⟨.invalidSize text, p⟩ : ParseError)
  | quoted text p => noForm_mirrors r _ (.quoted text p)
  | list .square items p => noForm_mirrors r _ (.list .square items p)
  | list .round [] p => noForm_mirrors r _ (.list .round [] p)
  | list .round (quoted text q :: items) p => noForm_mirrors r _ (.list .round (quoted text q :: items) p)
  | list .round (list b items' q :: items) p => noForm_mirrors r _ (.list .round (list b items' q :: items) p)
  | list .round (atom keyword q :: args) p => by
    rw [relocate, relocateEach, relocate]
    unfold toSize
    split
    · next of => exact (toType_mirrors of).bind fun of => .ok (SizeExpr.inBits of p)
    · next of => exact (toType_mirrors of).bind fun of => .ok (SizeExpr.inOctets of p)
    · split
      case h_3 => exact badForm_mirrors r _ _ _ _ _
      all_goals simp_all [List.map_eq_cons_iff]
termination_by e => sizeOf e
decreasing_by
  all_goals
    subst_vars
    simp only [list.sizeOf_spec, List.cons.sizeOf_spec]
    omega

end

lemma toRecordItem_mirrors (e : Expr) :
    Mirrors (.relocate r) (.map r.position id) e.toRecordItem (e.relocate r).toRecordItem := by
  obtain ⟨text, p⟩ | ⟨text, p⟩ | ⟨_ | _, _ | ⟨⟨keyword, q⟩ | ⟨text, q⟩ | ⟨b, items, q⟩, args⟩, p⟩ := e
  case list.round.cons.atom =>
    rw [relocate, relocateEach, relocate]
    unfold toRecordItem
    dsimp only
    split
    · next name type =>
      exact (toName_mirrors r _ _ name).bind fun name => (toType_mirrors r type).bind fun type =>
        .ok (RecordItem.field name type p)
    · next octets => exact (toSize_mirrors r octets).bind fun octets => .ok (RecordItem.padding octets p)
    · split
      case h_3 => exact badForm_mirrors r _ _ _ _ _
      all_goals simp_all [List.map_eq_cons_iff]
  all_goals exact noForm_mirrors r "record member" _

lemma toPackedItem_mirrors (e : Expr) :
    Mirrors (.relocate r) (.map r.position id) e.toPackedItem (e.relocate r).toPackedItem := by
  obtain ⟨text, p⟩ | ⟨text, p⟩ | ⟨_ | _, _ | ⟨⟨keyword, q⟩ | ⟨text, q⟩ | ⟨b, items, q⟩, args⟩, p⟩ := e
  case list.round.cons.atom =>
    rw [relocate, relocateEach, relocate]
    unfold toPackedItem
    dsimp only
    split
    · next name type =>
      exact (toName_mirrors r _ _ name).bind fun name => (toType_mirrors r type).bind fun type =>
        .ok (PackedItem.field name type p)
    · next bits => exact (toSize_mirrors r bits).bind fun bits => .ok (PackedItem.padding bits p)
    · split
      case h_3 => exact badForm_mirrors r _ _ _ _ _
      all_goals simp_all [List.map_eq_cons_iff]
  all_goals exact noForm_mirrors r "packed member" _

lemma toCaseItem_mirrors (e : Expr) :
    Mirrors (.relocate r) (.map r.position id) e.toCaseItem (e.relocate r).toCaseItem := by
  obtain ⟨text, p⟩ | ⟨text, p⟩ | ⟨_ | _, _ | ⟨⟨keyword, q⟩ | ⟨text, q⟩ | ⟨b, items, q⟩, args⟩, p⟩ := e
  case list.round.cons.atom =>
    rw [relocate, relocateEach, relocate]
    unfold toCaseItem
    dsimp only
    split
    · next name type =>
      exact (toName_mirrors r _ _ name).bind fun name => (toType_mirrors r type).bind fun type =>
        .ok (⟨name, type, p⟩ : CaseItem Mention)
    · split
      case h_2 => exact badForm_mirrors r _ _ _ _ _
      all_goals simp_all [List.map_eq_cons_iff]
  all_goals exact noForm_mirrors r "union case" _

lemma toMembers_mirrors (e : Expr) : Mirrors (.relocate r) (List.map (.relocate r)) e.toMembers (e.relocate r).toMembers := by
  obtain ⟨text, p⟩ | ⟨text, p⟩ | ⟨_ | _, items, p⟩ := e
  · exact unexpected_mirrors r _ (.atom text p)
  · exact unexpected_mirrors r _ (.quoted text p)
  · exact unexpected_mirrors r _ (.list .round items p)
  · rw [relocate, relocateEach_eq_map]
    exact .ok items

lemma toRecord_mirrors (items : List Expr) :
    Mirrors (.relocate r) (.map r.position id) (toRecord items) (toRecord (items.map (.relocate r))) :=
  (Mirrors.mapM fun item _ => toRecordItem_mirrors r item).bind fun items => .ok (Body.record items)

lemma toPacked_mirrors (items : List Expr) :
    Mirrors (.relocate r) (.map r.position id) (toPacked items) (toPacked (items.map (.relocate r))) :=
  (Mirrors.mapM fun item _ => toPackedItem_mirrors r item).bind fun items => .ok (Body.packed items)

lemma toUnion_mirrors (items : List Expr) :
    Mirrors (.relocate r) (.map r.position id) (toUnion items) (toUnion (items.map (.relocate r))) :=
  (Mirrors.mapM fun item _ => toCaseItem_mirrors r item).bind fun items => .ok (Body.union items)

lemma toDefinition_mirrors {toBody : List Expr → Except ParseError (Body Mention)}
    (h : ∀ items, Mirrors (.relocate r) (.map r.position id) (toBody items) (toBody (items.map (.relocate r))))
    (name members : Expr) (p : Position) : Mirrors (.relocate r) (.relocate r) (toDefinition toBody name members p)
      (toDefinition toBody (name.relocate r) (members.relocate r) (r.position p)) :=
  (toName_mirrors r _ _ name).bind fun name => (toMembers_mirrors r members).bind fun members =>
    (h members).bind fun body => .ok (Statement.define ⟨name, body, p⟩)

lemma eq_atom_of_relocate {e : Expr} {text : String} {p : Position} (h : e.relocate r = atom text p) :
    ∃ q, e = atom text q := by
  cases e with
  | atom text' q =>
    cases h
    exact ⟨q, rfl⟩
  | quoted | list => cases h

theorem toStatement_mirrors (e : Expr) : Mirrors (.relocate r) (.relocate r) e.toStatement (e.relocate r).toStatement := by
  obtain ⟨text, p⟩ | ⟨text, p⟩ | ⟨_ | _, _ | ⟨⟨keyword, q⟩ | ⟨text, q⟩ | ⟨b, items, q⟩, args⟩, p⟩ := e
  case list.round.cons.atom =>
    rw [relocate, relocateEach, relocate]
    unfold toStatement
    dsimp only
    split
    · next name => exact (toPackageName_mirrors r name).bind fun name => .ok (Statement.packageBegin name p)
    · exact .ok (Statement.packageEnd p)
    · next package word qualifier =>
      exact (toPackageName_mirrors r package).bind fun package => (toName_mirrors r _ _ qualifier).bind fun qualifier =>
        .ok (Statement.importPackage package qualifier p)
    · next package word qualifier hword =>
      rw [relocateEach, relocateEach, relocateEach, relocateEach]
      split
      case h_3 heq =>
        obtain ⟨q, hq⟩ := eq_atom_of_relocate r (List.cons.inj (List.cons.inj heq).2).1
        exact (hword q hq).elim
      case h_4 heq =>
        cases heq
        exact unexpected_mirrors r _ word
      all_goals simp_all
    · exact toDefinition_mirrors r (toRecord_mirrors r) _ _ p
    · exact toDefinition_mirrors r (toPacked_mirrors r) _ _ p
    · exact toDefinition_mirrors r (toUnion_mirrors r) _ _ p
    · next type => exact (toType_mirrors r type).bind fun type => .ok (Statement.showType type p)
    · next size => exact (toSize_mirrors r size).bind fun size => .ok (Statement.showSize size p)
    · split
      case h_10 => exact badForm_mirrors r _ _ _ _ _
      all_goals simp_all [List.map_eq_cons_iff]
  all_goals exact noForm_mirrors r "statement" _

end RecordSchema.Expr
