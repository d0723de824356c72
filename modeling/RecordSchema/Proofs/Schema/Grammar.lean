import RecordSchema.Proofs.Schema.Exact

/-! The statements of a schema are written in one way, and everything else is refused. -/

namespace RecordSchema

namespace Expr

variable {e : Expr}

lemma toRecordItem_eq_ok_iff {item : RecordItem Mention} :
    e.toRecordItem = .ok item ↔ item.Proper ∧ item.print.Matches e := by
  constructor
  · intro h
    obtain ⟨text, p⟩ | ⟨text, p⟩ | ⟨_ | _, _ | ⟨⟨keyword, q⟩ | ⟨text, q⟩ | ⟨b, items, q⟩, args⟩, p⟩ := e
    case list.round.cons.atom =>
      unfold toRecordItem at h
      dsimp only at h
      split at h
      · next name type =>
        obtain ⟨name', hname, h⟩ := exists_of_bind_eq_ok h
        obtain ⟨type', htype, h⟩ := exists_of_bind_eq_ok h
        cases h
        obtain ⟨hproper, htype⟩ := matches_of_toType htype
        exact ⟨hproper, matches_form_iff.mpr ⟨q, _, rfl, matchesEach_two_iff.mpr
          ⟨name, type, rfl, toName_eq_ok_iff.mp hname, htype⟩⟩⟩
      · next octets =>
        obtain ⟨octets', hoctets, h⟩ := exists_of_bind_eq_ok h
        cases h
        obtain ⟨hproper, hoctets⟩ := matches_of_toSize hoctets
        exact ⟨hproper, matches_form_iff.mpr ⟨q, _, rfl, matchesEach_one_iff.mpr ⟨octets, rfl, hoctets⟩⟩⟩
      · cases h
    all_goals cases h
  · rintro ⟨hproper, h⟩
    cases item with
    | field name type p =>
      obtain ⟨q, _, rfl, hargs⟩ := matches_form_iff.mp h
      obtain ⟨name', type', rfl, hname, htype⟩ := matchesEach_two_iff.mp hargs
      exact (ok_bind (toName_eq_ok_iff.mpr hname)).trans (ok_bind (toType_of_matches hproper htype))
    | padding octets p =>
      obtain ⟨q, _, rfl, hargs⟩ := matches_form_iff.mp h
      obtain ⟨octets', rfl, hoctets⟩ := matchesEach_one_iff.mp hargs
      exact ok_bind (toSize_of_matches hproper hoctets)

lemma toPackedItem_eq_ok_iff {item : PackedItem Mention} :
    e.toPackedItem = .ok item ↔ item.Proper ∧ item.print.Matches e := by
  constructor
  · intro h
    obtain ⟨text, p⟩ | ⟨text, p⟩ | ⟨_ | _, _ | ⟨⟨keyword, q⟩ | ⟨text, q⟩ | ⟨b, items, q⟩, args⟩, p⟩ := e
    case list.round.cons.atom =>
      unfold toPackedItem at h
      dsimp only at h
      split at h
      · next name type =>
        obtain ⟨name', hname, h⟩ := exists_of_bind_eq_ok h
        obtain ⟨type', htype, h⟩ := exists_of_bind_eq_ok h
        cases h
        obtain ⟨hproper, htype⟩ := matches_of_toType htype
        exact ⟨hproper, matches_form_iff.mpr ⟨q, _, rfl, matchesEach_two_iff.mpr
          ⟨name, type, rfl, toName_eq_ok_iff.mp hname, htype⟩⟩⟩
      · next bits =>
        obtain ⟨bits', hbits, h⟩ := exists_of_bind_eq_ok h
        cases h
        obtain ⟨hproper, hbits⟩ := matches_of_toSize hbits
        exact ⟨hproper, matches_form_iff.mpr ⟨q, _, rfl, matchesEach_one_iff.mpr ⟨bits, rfl, hbits⟩⟩⟩
      · cases h
    all_goals cases h
  · rintro ⟨hproper, h⟩
    cases item with
    | field name type p =>
      obtain ⟨q, _, rfl, hargs⟩ := matches_form_iff.mp h
      obtain ⟨name', type', rfl, hname, htype⟩ := matchesEach_two_iff.mp hargs
      exact (ok_bind (toName_eq_ok_iff.mpr hname)).trans (ok_bind (toType_of_matches hproper htype))
    | padding bits p =>
      obtain ⟨q, _, rfl, hargs⟩ := matches_form_iff.mp h
      obtain ⟨bits', rfl, hbits⟩ := matchesEach_one_iff.mp hargs
      exact ok_bind (toSize_of_matches hproper hbits)

lemma toCaseItem_eq_ok_iff {item : CaseItem Mention} :
    e.toCaseItem = .ok item ↔ item.Proper ∧ item.print.Matches e := by
  constructor
  · intro h
    obtain ⟨text, p⟩ | ⟨text, p⟩ | ⟨_ | _, _ | ⟨⟨keyword, q⟩ | ⟨text, q⟩ | ⟨b, items, q⟩, args⟩, p⟩ := e
    case list.round.cons.atom =>
      unfold toCaseItem at h
      dsimp only at h
      split at h
      · next name type =>
        obtain ⟨name', hname, h⟩ := exists_of_bind_eq_ok h
        obtain ⟨type', htype, h⟩ := exists_of_bind_eq_ok h
        cases h
        obtain ⟨hproper, htype⟩ := matches_of_toType htype
        exact ⟨hproper, matches_form_iff.mpr ⟨q, _, rfl, matchesEach_two_iff.mpr
          ⟨name, type, rfl, toName_eq_ok_iff.mp hname, htype⟩⟩⟩
      · cases h
    all_goals cases h
  · rintro ⟨hproper, h⟩
    obtain ⟨q, _, rfl, hargs⟩ := matches_form_iff.mp h
    obtain ⟨name', type', rfl, hname, htype⟩ := matchesEach_two_iff.mp hargs
    exact (ok_bind (toName_eq_ok_iff.mpr hname)).trans (ok_bind (toType_of_matches hproper htype))

lemma mapM_matches_iff {α : Type} {parse : Expr → Except ParseError α} {proper : α → Prop} {print : α → Template}
    (h : ∀ {e : Expr} {a : α}, parse e = .ok a ↔ proper a ∧ (print a).Matches e) {items : List Expr} {found : List α} :
    items.mapM parse = .ok found ↔ (∀ a ∈ found, proper a) ∧ Template.MatchesEach (found.map print) items := by
  rw [mapM_eq_ok_iff, matchesEach_iff, List.forall₂_map_left_iff]
  constructor
  · intro hall
    induction hall with
    | nil => exact ⟨nofun, .nil⟩
    | cons hitem _ ih =>
      obtain ⟨hproper, hmatches⟩ := h.mp hitem
      exact ⟨List.forall_mem_cons.mpr ⟨hproper, ih.1⟩, .cons hmatches ih.2⟩
  · rintro ⟨hproper, hmatches⟩
    induction hmatches with
    | nil => exact .nil
    | cons hitem _ ih =>
      obtain ⟨ha, hrest⟩ := List.forall_mem_cons.mp hproper
      exact .cons (h.mpr ⟨ha, hitem⟩) (ih hrest)

def ParsesBody (keyword : String) (toBody : List Expr → Except ParseError (Body Mention)) : Prop :=
  ∀ items body, toBody items = .ok body ↔
    body.keyword = keyword ∧ body.Proper ∧ Template.MatchesEach body.members items

lemma ParsesBody.of_mapM {α : Type} {keyword : String} {toBody : List Expr → Except ParseError (Body Mention)}
    {parse : Expr → Except ParseError α} {proper : α → Prop} {print : α → Template} (wrap : List α → Body Mention)
    (hitem : ∀ {e : Expr} {a : α}, parse e = .ok a ↔ proper a ∧ (print a).Matches e)
    (htoBody : ∀ items, toBody items = items.mapM parse >>= fun found => .ok (wrap found))
    (hkeyword : ∀ body : Body Mention, body.keyword = keyword ↔ ∃ found, body = wrap found)
    (hproper : ∀ found, (wrap found).Proper ↔ ∀ a ∈ found, proper a)
    (hmembers : ∀ found, (wrap found).members = found.map print) : ParsesBody keyword toBody := by
  intro items body
  rw [htoBody, hkeyword]
  constructor
  · intro h
    obtain ⟨found, hfound, h⟩ := exists_of_bind_eq_ok h
    cases h
    rw [hproper, hmembers]
    exact ⟨⟨found, rfl⟩, (mapM_matches_iff hitem).mp hfound⟩
  · rintro ⟨⟨found, rfl⟩, h⟩
    rw [hproper, hmembers] at h
    exact ok_bind ((mapM_matches_iff hitem).mpr h)

lemma parsesBody_record : ParsesBody "record" toRecord :=
  .of_mapM .record toRecordItem_eq_ok_iff (fun _ => rfl) (fun body => by cases body <;> simp [Body.keyword])
    (fun _ => .rfl) fun _ => rfl

lemma parsesBody_packed : ParsesBody "packed" toPacked :=
  .of_mapM .packed toPackedItem_eq_ok_iff (fun _ => rfl) (fun body => by cases body <;> simp [Body.keyword])
    (fun _ => .rfl) fun _ => rfl

lemma parsesBody_union : ParsesBody "union" toUnion :=
  .of_mapM .union toCaseItem_eq_ok_iff (fun _ => rfl) (fun body => by cases body <;> simp [Body.keyword])
    (fun _ => .rfl) fun _ => rfl

lemma toDefinition_matches {keyword : String} {toBody : List Expr → Except ParseError (Body Mention)}
    (hbody : ParsesBody keyword toBody) {name members : Expr} {p q : Position} {s : Statement}
    (h : toDefinition toBody name members p = .ok s) :
    s.Proper ∧ s.print.Matches (list .round [atom keyword q, name, members] p) := by
  obtain ⟨name', hname, h⟩ := exists_of_bind_eq_ok h
  obtain ⟨items, hmembers, h⟩ := exists_of_bind_eq_ok h
  obtain ⟨body, hparsed, h⟩ := exists_of_bind_eq_ok h
  cases h
  obtain ⟨rfl, hproper, hitems⟩ := (hbody items body).mp hparsed
  obtain ⟨text, r⟩ | ⟨text, r⟩ | ⟨_ | _, _, r⟩ := members <;> cases hmembers
  exact ⟨hproper, matches_form_iff.mpr ⟨q, _, rfl, matchesEach_two_iff.mpr
    ⟨name, _, rfl, toName_eq_ok_iff.mp hname, _, r, rfl, hitems, nofun⟩⟩⟩

lemma toDefinition_of_matches (d : Definition Mention) {toBody : List Expr → Except ParseError (Body Mention)}
    (hbody : ParsesBody d.body.keyword toBody) {name members : Expr} (hproper : d.body.Proper)
    (hname : (Template.word d.name.text).Matches name)
    (hmembers : (Template.list .square d.body.members none).Matches members) :
    toDefinition toBody name members d.position = .ok (.define d) := by
  obtain ⟨items, r, rfl, hitems, -⟩ := hmembers
  exact (ok_bind (toName_eq_ok_iff.mpr hname)).trans (ok_bind ((hbody items d.body).mpr ⟨rfl, hproper, hitems⟩))

lemma matches_of_toStatement {s : Statement} (h : e.toStatement = .ok s) : s.Proper ∧ s.print.Matches e := by
  obtain ⟨text, p⟩ | ⟨text, p⟩ | ⟨_ | _, _ | ⟨⟨keyword, q⟩ | ⟨text, q⟩ | ⟨b, items, q⟩, args⟩, p⟩ := e
  case list.round.cons.atom =>
    unfold toStatement at h
    dsimp only at h
    split at h
    · next name =>
      obtain ⟨name', hname, h⟩ := exists_of_bind_eq_ok h
      cases h
      exact ⟨trivial, matches_form_iff.mpr ⟨q, _, rfl, matchesEach_one_iff.mpr
        ⟨name, rfl, toPackageName_eq_ok_iff.mp hname⟩⟩⟩
    · cases h
      exact ⟨trivial, matches_form_iff.mpr ⟨q, _, rfl, rfl⟩⟩
    · next package r qualifier =>
      obtain ⟨package', hpackage, h⟩ := exists_of_bind_eq_ok h
      obtain ⟨qualifier', hqualifier, h⟩ := exists_of_bind_eq_ok h
      cases h
      exact ⟨trivial, matches_form_iff.mpr ⟨q, _, rfl, matchesEach_three_iff.mpr
        ⟨package, _, qualifier, rfl, toPackageName_eq_ok_iff.mp hpackage, ⟨r, rfl, nofun⟩,
          toName_eq_ok_iff.mp hqualifier⟩⟩⟩
    · cases h
    · exact toDefinition_matches parsesBody_record h
    · exact toDefinition_matches parsesBody_packed h
    · exact toDefinition_matches parsesBody_union h
    · next type =>
      obtain ⟨type', htype, h⟩ := exists_of_bind_eq_ok h
      cases h
      obtain ⟨hproper, htype⟩ := matches_of_toType htype
      exact ⟨hproper, matches_form_iff.mpr ⟨q, _, rfl, matchesEach_one_iff.mpr ⟨type, rfl, htype⟩⟩⟩
    · next size =>
      obtain ⟨size', hsize, h⟩ := exists_of_bind_eq_ok h
      cases h
      obtain ⟨hproper, hsize⟩ := matches_of_toSize hsize
      exact ⟨hproper, matches_form_iff.mpr ⟨q, _, rfl, matchesEach_one_iff.mpr ⟨size, rfl, hsize⟩⟩⟩
    · cases h
  all_goals cases h

lemma toStatement_of_matches {s : Statement} (hproper : s.Proper) (h : s.print.Matches e) : e.toStatement = .ok s := by
  cases s with
  | packageBegin name p =>
    obtain ⟨q, _, rfl, hargs⟩ := matches_form_iff.mp h
    obtain ⟨name', rfl, hname⟩ := matchesEach_one_iff.mp hargs
    exact ok_bind (toPackageName_eq_ok_iff.mpr hname)
  | packageEnd p =>
    obtain ⟨q, _, rfl, rfl⟩ := matches_form_iff.mp h
    rfl
  | importPackage package qualifier p =>
    obtain ⟨q, _, rfl, hargs⟩ := matches_form_iff.mp h
    obtain ⟨package', _, qualifier', rfl, hpackage, ⟨r, rfl, -⟩, hqualifier⟩ := matchesEach_three_iff.mp hargs
    exact (ok_bind (toPackageName_eq_ok_iff.mpr hpackage)).trans (ok_bind (toName_eq_ok_iff.mpr hqualifier))
  | define d =>
    obtain ⟨q, _, rfl, hargs⟩ := matches_form_iff.mp h
    obtain ⟨name, members, rfl, hname, hmembers⟩ := matchesEach_two_iff.mp hargs
    obtain ⟨name', body, p⟩ := d
    cases body with
    | record items => exact toDefinition_of_matches ⟨name', .record items, p⟩ parsesBody_record hproper hname hmembers
    | packed items => exact toDefinition_of_matches ⟨name', .packed items, p⟩ parsesBody_packed hproper hname hmembers
    | union cases => exact toDefinition_of_matches ⟨name', .union cases, p⟩ parsesBody_union hproper hname hmembers
  | showType type p =>
    obtain ⟨q, _, rfl, hargs⟩ := matches_form_iff.mp h
    obtain ⟨type', rfl, htype⟩ := matchesEach_one_iff.mp hargs
    exact ok_bind (toType_of_matches hproper htype)
  | showSize size p =>
    obtain ⟨q, _, rfl, hargs⟩ := matches_form_iff.mp h
    obtain ⟨size', rfl, hsize⟩ := matchesEach_one_iff.mp hargs
    exact ok_bind (toSize_of_matches hproper hsize)

theorem toStatement_eq_ok_iff {s : Statement} : e.toStatement = .ok s ↔ s.Proper ∧ s.print.Matches e :=
  ⟨matches_of_toStatement, fun ⟨hproper, h⟩ => toStatement_of_matches hproper h⟩

end Expr

namespace Template

lemma isNumeral_toString (n : Nat) : IsNumeral n (toString n) :=
  Expr.toNumber?_eq_some_iff.mp (Expr.toNumber?_toString n)

lemma getD_place (place : Option Position) : ∀ q ∈ place, q = place.getD default := by
  rintro q hq
  rw [Option.mem_def.mp hq, Option.getD_some]

mutual

lemma matches_tree : ∀ t : Template, t.Matches t.tree
  | atom _ place => ⟨_, rfl, getD_place place⟩
  | number n place => ⟨_, _, rfl, isNumeral_toString n, getD_place place⟩
  | quoted _ place => ⟨_, rfl, getD_place place⟩
  | list _ items place => ⟨_, _, rfl, matchesEach_treeEach items, getD_place place⟩

lemma matchesEach_treeEach : ∀ ts : List Template, MatchesEach ts (treeEach ts)
  | [] => rfl
  | t :: ts => ⟨_, _, rfl, matches_tree t, matchesEach_treeEach ts⟩

end

lemma canonicalText_numeral {n : Nat} {text : String} (h : IsNumeral n text) :
    Expr.canonicalText text = Expr.canonicalText (toString n) := by
  rw [Expr.canonicalText, Expr.canonicalText, Expr.toNumber?_eq_some_iff.mpr h, Expr.toNumber?_toString]

mutual

lemma Matches.canonical : ∀ {t : Template} {e : Expr}, t.Matches e → e.canonical = t.tree.canonical
  | atom _ _, _, ⟨_, he, _⟩ => by rw [he]; rfl
  | number n _, _, ⟨_, _, he, htext, _⟩ => by
    rw [he, tree, Expr.canonical, Expr.canonical, canonicalText_numeral htext]
  | quoted _ _, _, ⟨_, he, _⟩ => by rw [he]; rfl
  | list _ _ _, _, ⟨_, _, he, hitems, _⟩ => by rw [he, tree, Expr.canonical, Expr.canonical, MatchesEach.canonical hitems]

lemma MatchesEach.canonical : ∀ {ts : List Template} {es : List Expr}, MatchesEach ts es →
    Expr.canonicalEach es = Expr.canonicalEach (treeEach ts)
  | [], _, h => by rw [h]; rfl
  | _ :: _, _, ⟨_, _, hes, he, hrest⟩ => by
    rw [hes, treeEach, Expr.canonicalEach, Expr.canonicalEach, he.canonical, MatchesEach.canonical hrest]

end

end Template

mutual

lemma Expr.canonical_withPositions (p : Position) : ∀ e : Expr, (e.withPositions p).canonical = e.canonical
  | .atom _ _ => rfl
  | .quoted _ _ => rfl
  | .list _ items _ => by
    rw [withPositions, canonical, canonical, canonicalEach_withPositions p items]

lemma Expr.canonicalEach_withPositions (p : Position) : ∀ es : List Expr,
    canonicalEach (withPositionsEach p es) = canonicalEach es
  | [] => rfl
  | e :: es => by
    rw [withPositionsEach, canonicalEach, canonicalEach, canonical_withPositions p e, canonicalEach_withPositions p es]

end

/-- What a parser takes for `a` is the canonical tree of `a`: but for zeros before numbers, and with the places that
are kept in `a` at the nodes they are the places of. -/
structure ParsesExactly {α : Type} (parse : Expr → Except ParseError α) (proper : α → Prop) (print : α → Template) :
    Prop where
  exact : ∀ e a, parse e = .ok a ↔ proper a ∧ (print a).Matches e
  expressible : ∀ a, proper a → parse (print a).tree = .ok a
  unambiguous : ∀ e e' a a', parse e = .ok a → parse e' = .ok a' → (print a).tree.Alike (print a').tree →
    e.canonical = e'.canonical

lemma ParsesExactly.of_exact {α : Type} {parse : Expr → Except ParseError α} {proper : α → Prop} {print : α → Template}
    (h : ∀ {e a}, parse e = .ok a ↔ proper a ∧ (print a).Matches e) : ParsesExactly parse proper print where
  exact e a := h
  expressible a ha := h.mpr ⟨ha, (print a).matches_tree⟩
  unambiguous e e' a a' ha ha' halike := by
    have hcanonical : (print a).tree.canonical = (print a').tree.canonical := by
      rw [← Expr.canonical_withPositions default (print a).tree, halike, Expr.canonical_withPositions]
    rw [(h.mp ha).2.canonical, hcanonical, (h.mp ha').2.canonical]

/-- Statements, types and sizes are parsed from their canonical trees and from no other trees. -/
theorem parsers_exact : ParsesExactly Expr.toStatement Statement.Proper Statement.print ∧
    ParsesExactly Expr.toType TypeExpr.Proper TypeExpr.print ∧
    ParsesExactly Expr.toSize SizeExpr.Proper SizeExpr.print :=
  ⟨.of_exact Expr.toStatement_eq_ok_iff, .of_exact Expr.toType_eq_ok_iff, .of_exact Expr.toSize_eq_ok_iff⟩

end RecordSchema
