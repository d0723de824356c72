import RecordSchema.Proofs.Outcome
import RecordSchema.Proofs.Schema.Printed
import RecordSchema.Proofs.Text.Words
import Mathlib.Data.List.Forall2
import Mathlib.Data.List.TakeDrop
import Mathlib.Data.List.TakeWhile

namespace RecordSchema

lemma mapM_eq_ok_iff {ε α β : Type} {f : α → Except ε β} : ∀ {items : List α} {found : List β},
    items.mapM f = .ok found ↔ List.Forall₂ (fun item b => f item = .ok b) items found
  | [], found => by
    rw [List.mapM_nil, List.forall₂_nil_left_iff]
    exact ⟨fun h => (Except.ok.inj h).symm, fun h => h ▸ rfl⟩
  | item :: items, found => by
    rw [List.mapM_cons, List.forall₂_cons_left_iff]
    constructor
    · intro h
      obtain ⟨b, hb, h⟩ := exists_of_bind_eq_ok h
      obtain ⟨rest, hrest, h⟩ := exists_of_bind_eq_ok h
      cases h
      exact ⟨b, rest, hb, mapM_eq_ok_iff.mp hrest, rfl⟩
    · rintro ⟨b, rest, hb, hrest, rfl⟩
      rw [hb, mapM_eq_ok_iff.mpr hrest]
      rfl

lemma mapError_eq_ok_iff {ε ε' α : Type} {g : ε → ε'} {x : Except ε α} {a : α} :
    x.mapError g = .ok a ↔ x = .ok a := by
  cases x with
  | ok b => exact ⟨fun h => congrArg Except.ok (Except.ok.inj h), fun h => congrArg Except.ok (Except.ok.inj h)⟩
  | error e => exact ⟨nofun, nofun⟩

lemma names_eq_ok_iff {g : NameGrammar} {words : List (List Char)} {names : List (Name g)} :
    words.mapM (fun word => Name.parse g (String.ofList word)) = .ok names ↔
      words = names.map fun name => name.text.toList := by
  rw [mapM_eq_ok_iff, ← List.forall₂_eq_eq_eq, List.forall₂_map_right_iff]
  have hword (word : List Char) (name : Name g) :
      Name.parse g (String.ofList word) = .ok name ↔ word = name.text.toList := by
    rw [Name.parse_eq_ok_iff]
    exact ⟨fun h => by rw [h, String.toList_ofList], fun h => by rw [h, String.ofList_toList]⟩
  simp only [hword]

lemma splitOn_eq_names_iff {g : NameGrammar} (hdot : g.first '.' = false ∧ g.rest '.' = false) {names : List (Name g)}
    {text : List Char} : Text.splitOn '.' text = names.map (fun name => name.text.toList) ↔
      names ≠ [] ∧ text = Text.joinWith ['.'] (names.map fun name => name.text.toList) := by
  constructor
  · intro h
    refine ⟨?_, by rw [← h, Text.joinWith_splitOn]⟩
    rintro rfl
    exact Text.splitOn_ne_nil '.' text h
  · rintro ⟨hne, rfl⟩
    refine Text.splitOn_joinWith (mt List.map_eq_nil_iff.mp hne) fun word hword => ?_
    obtain ⟨name, -, rfl⟩ := List.mem_map.mp hword
    exact fun hmem => name.ne_of_mem hdot.1 hdot.2 '.' hmem rfl

lemma PackageName.parse_eq_ok_iff {text : String} {name : PackageName} : parse text = .ok name ↔ text = name.render := by
  have hsegments : (Text.splitOn '.' text.toList).mapM (fun word => Name.parse segmentGrammar (String.ofList word)) =
      .ok name.segments ↔ text = name.render := by
    rw [names_eq_ok_iff, splitOn_eq_names_iff (by decide +kernel), and_iff_right name.segments_ne_nil, render, chars,
      ← String.toList_inj, String.toList_ofList]
  rw [← hsegments, parse]
  by_cases hempty : text = ""
  · rw [if_pos hempty]
    subst hempty
    refine ⟨nofun, fun h => ?_⟩
    obtain ⟨_, hparse, _⟩ := exists_of_bind_eq_ok h
    cases hparse
  · rw [if_neg hempty]
    constructor
    · intro h
      obtain ⟨segments, hparse, h⟩ := exists_of_bind_eq_ok h
      rw [hparse]
      unfold ofSegments at h
      split at h <;> cases h
      rfl
    · intro h
      rw [h]
      exact dif_neg name.segments_ne_nil

namespace Expr

variable {e : Expr}

lemma toName_eq_ok_iff {g : NameGrammar} {wanted : String} {name : Name g} :
    e.toName g wanted = .ok name ↔ (Template.word name.text).Matches e := by
  cases e with
  | atom text p =>
    rw [toName, mapError_eq_ok_iff, Name.parse_eq_ok_iff]
    exact ⟨fun h => ⟨p, by rw [h], nofun⟩, fun ⟨_, h, _⟩ => (atom.inj h).1.symm⟩
  | quoted text p => exact ⟨nofun, nofun⟩
  | list bracket items p => exact ⟨nofun, nofun⟩

lemma toPackageName_eq_ok_iff {name : PackageName} :
    e.toPackageName = .ok name ↔ (Template.word name.render).Matches e := by
  cases e with
  | atom text p =>
    rw [toPackageName, mapError_eq_ok_iff, PackageName.parse_eq_ok_iff]
    exact ⟨fun h => ⟨p, by rw [h], nofun⟩, fun ⟨_, h, _⟩ => (atom.inj h).1⟩
  | quoted text p => exact ⟨nofun, nofun⟩
  | list bracket items p => exact ⟨nofun, nofun⟩

lemma toMention_atom_iff {text : String} {p : Position} {mention : Mention} :
    (atom text p).toMention = .ok mention ↔ text = mention.render := by
  have hdot {g : NameGrammar} (hg : g.first '.' = false ∧ g.rest '.' = false) (name : Name g) :
      ∀ c ∈ name.text.toList, decide (c ≠ '.') = true := by
    simpa using name.ne_of_mem hg.1 hg.2
  have hsegment := hdot (g := segmentGrammar) (by decide +kernel)
  have htype := hdot (g := typeNameGrammar) (by decide +kernel)
  constructor
  · intro h
    have hspan : text.toList.takeWhile (· ≠ '.') ++ text.toList.dropWhile (· ≠ '.') = text.toList :=
      List.takeWhile_append_dropWhile
    have hhead := List.head?_dropWhile_not (· ≠ '.') text.toList
    rw [toMention, List.span_eq_takeWhile_dropWhile] at h
    cases hrest : text.toList.dropWhile (· ≠ '.') with
    | nil =>
      rw [hrest] at h
      obtain ⟨name, hname, h⟩ := exists_of_bind_eq_ok h
      cases h
      exact (Name.text_of_parse (mapError_eq_ok_iff.mp hname)).symm
    | cons c after =>
      rw [hrest] at h hhead hspan
      obtain ⟨qualifier, hqualifier, h⟩ := exists_of_bind_eq_ok h
      obtain ⟨name, hname, h⟩ := exists_of_bind_eq_ok h
      cases h
      have hc : c = '.' := by simpa using hhead
      have hbefore := Name.text_of_parse (mapError_eq_ok_iff.mp hqualifier)
      have hafter := Name.text_of_parse (mapError_eq_ok_iff.mp hname)
      change text = qualifier.text ++ "." ++ name.text
      rw [← String.toList_inj, String.toList_append, String.toList_append, hbefore, hafter, String.toList_ofList,
        String.toList_ofList, String.toList_ofList, List.append_assoc]
      rw [hc] at hspan
      exact hspan.symm
  · rintro rfl
    obtain ⟨_ | qualifier, name⟩ := mention
    · have hspan : name.text.toList.span (· ≠ '.') = (name.text.toList, []) := by
        rw [List.span_eq_takeWhile_dropWhile, List.takeWhile_eq_self_iff.mpr (htype name),
          List.dropWhile_eq_nil_iff.mpr (htype name)]
      rw [toMention, Mention.render]
      simp only [hspan, Name.parse_text]
      rfl
    · have htext : (qualifier.text ++ "." ++ name.text).toList = qualifier.text.toList ++ '.' :: name.text.toList := by
        rw [String.toList_append, String.toList_append, List.append_assoc]
        rfl
      have hspan : (qualifier.text ++ "." ++ name.text).toList.span (· ≠ '.') =
          (qualifier.text.toList, '.' :: name.text.toList) := by
        rw [htext, List.span_eq_takeWhile_dropWhile, List.takeWhile_append_of_pos (hsegment qualifier),
          List.dropWhile_append_of_pos (hsegment qualifier)]
        simp
      rw [toMention, Mention.render]
      simp only [hspan, String.ofList_toList, Name.parse_text]
      rfl

lemma toMention_eq_ok_iff {mention : Mention} {place : Option Position} :
    (e.toMention = .ok mention ∧ ∀ q ∈ place, q = e.position) ↔ (mention.print place).Matches e := by
  cases e with
  | atom text p =>
    rw [toMention_atom_iff]
    constructor
    · rintro ⟨rfl, hplace⟩
      exact ⟨p, rfl, hplace⟩
    · rintro ⟨q, h, hplace⟩
      obtain ⟨rfl, rfl⟩ := atom.inj h
      exact ⟨rfl, hplace⟩
  | quoted text p => exact ⟨fun h => (nomatch h.1), nofun⟩
  | list bracket items p => exact ⟨fun h => (nomatch h.1), nofun⟩

lemma toFieldPath_eq_ok_iff {path : List FieldName} :
    e.toFieldPath = .ok path ↔ path ≠ [] ∧ (printPath path).Matches e := by
  cases e with
  | atom text p =>
    have hwords : (atom text p).toFieldPath = .ok path ↔ Text.splitOn '.' text.toList = path.map fun name => name.text.toList := by
      rw [toFieldPath, ← names_eq_ok_iff, mapM_eq_ok_iff, mapM_eq_ok_iff]
      simp only [mapError_eq_ok_iff]
    rw [hwords, splitOn_eq_names_iff (by decide +kernel)]
    refine and_congr_right fun _ => ⟨fun h => ⟨p, ?_, nofun⟩, fun ⟨_, h, _⟩ => ?_⟩
    · rw [← h, String.ofList_toList]
    · rw [(atom.inj h).1, String.toList_ofList]
  | quoted text p => exact ⟨nofun, nofun⟩
  | list bracket items p => exact ⟨nofun, nofun⟩

lemma toIntegerKind_eq_ok_iff {kind : IntegerKind} :
    e.toIntegerKind = .ok kind ↔ (Template.word kind.keyword).Matches e := by
  cases e with
  | atom text p =>
    rw [toIntegerKind]
    constructor
    · intro h
      cases hkind : IntegerKind.ofKeyword? text with
      | none => rw [hkind] at h; cases h
      | some found =>
        rw [hkind] at h
        cases h
        exact ⟨p, by rw [IntegerKind.keyword_of_ofKeyword? hkind], nofun⟩
    · rintro ⟨_, h, _⟩
      rw [(atom.inj h).1, IntegerKind.ofKeyword?_keyword]
  | quoted text p => exact ⟨nofun, nofun⟩
  | list bracket items p => exact ⟨nofun, nofun⟩

lemma toEncoding_eq_ok_iff {encoding : String} :
    e.toEncoding = .ok encoding ↔ (Template.quoted encoding none).Matches e := by
  cases e with
  | atom text p => exact ⟨nofun, nofun⟩
  | quoted text p => exact ⟨fun h => ⟨p, by rw [Except.ok.inj h], nofun⟩, fun ⟨_, h, _⟩ => congrArg _ (quoted.inj h).1⟩
  | list bracket items p => exact ⟨nofun, nofun⟩

lemma matchesEach_iff : ∀ {ts : List Template} {es : List Expr},
    Template.MatchesEach ts es ↔ List.Forall₂ Template.Matches ts es
  | [], es => List.forall₂_nil_left_iff.symm
  | t :: ts, es => by
    rw [List.forall₂_cons_left_iff]
    exact ⟨fun ⟨e, rest, hes, he, hrest⟩ => ⟨e, rest, he, matchesEach_iff.mp hrest, hes⟩,
      fun ⟨e, rest, he, hrest, hes⟩ => ⟨e, rest, hes, he, matchesEach_iff.mpr hrest⟩⟩

lemma toFlags_eq_ok_iff {flags : List (FieldName × Position)} : e.toFlags = .ok flags ↔
    (Template.list .square (flags.map fun flag => .atom flag.1.text (some flag.2)) none).Matches e := by
  obtain ⟨text, p⟩ | ⟨text, p⟩ | ⟨_ | _, items, p⟩ := e
  · exact ⟨nofun, nofun⟩
  · exact ⟨nofun, nofun⟩
  · exact ⟨nofun, nofun⟩
  · have hflag (item : Expr) (flag : FieldName × Position) :
        (item.toName _ "flag name" >>= fun name => .ok (name, item.position)) = .ok flag ↔
          (Template.atom flag.1.text (some flag.2)).Matches item := by
      constructor
      · intro h
        obtain ⟨name, hname, h⟩ := exists_of_bind_eq_ok h
        cases h
        obtain ⟨p, rfl, -⟩ := toName_eq_ok_iff.mp hname
        exact ⟨p, rfl, fun q hq => (Option.some.inj hq).symm⟩
      · rintro ⟨p, rfl, hp⟩
        rw [toName_eq_ok_iff.mpr ⟨p, rfl, nofun⟩]
        exact congrArg (fun q => Except.ok (flag.1, q)) (hp flag.2 rfl).symm
    rw [toFlags, mapM_eq_ok_iff]
    constructor
    · intro h
      refine ⟨items, p, rfl, matchesEach_iff.mpr ?_, nofun⟩
      rw [List.forall₂_map_left_iff]
      exact (h.imp fun item flag => (hflag item flag).mp).flip
    · rintro ⟨_, _, h, hitems, -⟩
      obtain ⟨-, rfl, rfl⟩ := list.inj h
      rw [matchesEach_iff, List.forall₂_map_left_iff] at hitems
      exact hitems.flip.imp fun item flag => (hflag item flag).mpr

lemma matches_form_iff {keyword : String} {args : List Template} {p : Position} :
    (Template.form keyword args p).Matches e ↔
      ∃ q es, e = list .round (atom keyword q :: es) p ∧ Template.MatchesEach args es := by
  constructor
  · rintro ⟨_, p', rfl, ⟨_, es, rfl, ⟨q, rfl, -⟩, hargs⟩, hp⟩
    obtain rfl := hp p rfl
    exact ⟨q, es, rfl, hargs⟩
  · rintro ⟨q, es, rfl, hargs⟩
    exact ⟨_, p, rfl, ⟨_, es, rfl, ⟨q, rfl, nofun⟩, hargs⟩, fun q hq => (Option.some.inj hq).symm⟩

lemma matchesEach_one_iff {t : Template} {es : List Expr} :
    Template.MatchesEach [t] es ↔ ∃ e, es = [e] ∧ t.Matches e := by
  constructor
  · rintro ⟨e, _, rfl, he, rfl⟩
    exact ⟨e, rfl, he⟩
  · rintro ⟨e, rfl, he⟩
    exact ⟨e, _, rfl, he, rfl⟩

lemma matchesEach_two_iff {t u : Template} {es : List Expr} :
    Template.MatchesEach [t, u] es ↔ ∃ e f, es = [e, f] ∧ t.Matches e ∧ u.Matches f := by
  constructor
  · rintro ⟨e, _, rfl, he, f, _, rfl, hf, rfl⟩
    exact ⟨e, f, rfl, he, hf⟩
  · rintro ⟨e, f, rfl, he, hf⟩
    exact ⟨e, _, rfl, he, f, _, rfl, hf, rfl⟩

lemma matchesEach_three_iff {t u v : Template} {es : List Expr} :
    Template.MatchesEach [t, u, v] es ↔ ∃ e f g, es = [e, f, g] ∧ t.Matches e ∧ u.Matches f ∧ v.Matches g := by
  constructor
  · rintro ⟨e, _, rfl, he, f, _, rfl, hf, g, _, rfl, hg, rfl⟩
    exact ⟨e, f, g, rfl, he, hf, hg⟩
  · rintro ⟨e, f, g, rfl, he, hf, hg⟩
    exact ⟨e, _, rfl, he, f, _, rfl, hf, g, _, rfl, hg, rfl⟩

mutual

lemma matches_of_toType : ∀ {e : Expr} {t : TypeExpr Mention}, e.toType = .ok t → t.Proper ∧ t.print.Matches e
  | atom text p, t, h => by
    obtain ⟨mention, hmention, h⟩ := exists_of_bind_eq_ok h
    cases h
    exact ⟨trivial, toMention_eq_ok_iff.mp ⟨hmention, fun q hq => (Option.some.inj hq).symm⟩⟩
  | quoted text p, t, h => nomatch h
  | list .square items p, t, h => nomatch h
  | list .round [] p, t, h => nomatch h
  | list .round (quoted text q :: items) p, t, h => nomatch h
  | list .round (list b items' q :: items) p, t, h => nomatch h
  | list .round (atom keyword q :: args) p, t, h => by
    unfold toType at h
    split at h
    · next kind bits =>
      obtain ⟨kind', hkind, h⟩ := exists_of_bind_eq_ok h
      obtain ⟨bits', hbits, h⟩ := exists_of_bind_eq_ok h
      cases h
      obtain ⟨hproper, hbits⟩ := matches_of_toSize hbits
      exact ⟨hproper, matches_form_iff.mpr ⟨q, _, rfl, matchesEach_two_iff.mpr
        ⟨kind, bits, rfl, toIntegerKind_eq_ok_iff.mp hkind, hbits⟩⟩⟩
    · next bits =>
      obtain ⟨bits', hbits, h⟩ := exists_of_bind_eq_ok h
      cases h
      obtain ⟨hproper, hbits⟩ := matches_of_toSize hbits
      exact ⟨hproper, matches_form_iff.mpr ⟨q, _, rfl, matchesEach_one_iff.mpr ⟨bits, rfl, hbits⟩⟩⟩
    · next element count =>
      obtain ⟨element', helement, h⟩ := exists_of_bind_eq_ok h
      obtain ⟨count', hcount, h⟩ := exists_of_bind_eq_ok h
      cases h
      obtain ⟨hproper, helement⟩ := matches_of_toType helement
      obtain ⟨hproper', hcount⟩ := matches_of_toSize hcount
      exact ⟨⟨hproper, hproper'⟩, matches_form_iff.mpr ⟨q, _, rfl, matchesEach_two_iff.mpr
        ⟨element, count, rfl, helement, hcount⟩⟩⟩
    · next element width height =>
      obtain ⟨element', helement, h⟩ := exists_of_bind_eq_ok h
      obtain ⟨width', hwidth, h⟩ := exists_of_bind_eq_ok h
      obtain ⟨height', hheight, h⟩ := exists_of_bind_eq_ok h
      cases h
      obtain ⟨hproper, helement⟩ := matches_of_toType helement
      obtain ⟨hproper', hwidth⟩ := matches_of_toSize hwidth
      obtain ⟨hproper'', hheight⟩ := matches_of_toSize hheight
      exact ⟨⟨hproper, hproper', hproper''⟩, matches_form_iff.mpr ⟨q, _, rfl, matchesEach_three_iff.mpr
        ⟨element, width, height, rfl, helement, hwidth, hheight⟩⟩⟩
    · next octets flags =>
      obtain ⟨flags', hflags, h⟩ := exists_of_bind_eq_ok h
      obtain ⟨octets', hoctets, h⟩ := exists_of_bind_eq_ok h
      cases h
      obtain ⟨hproper, hoctets⟩ := matches_of_toSize hoctets
      exact ⟨hproper, matches_form_iff.mpr ⟨q, _, rfl, matchesEach_two_iff.mpr
        ⟨octets, flags, rfl, hoctets, toFlags_eq_ok_iff.mp hflags⟩⟩⟩
    · next octets encoding =>
      obtain ⟨encoding', hencoding, h⟩ := exists_of_bind_eq_ok h
      obtain ⟨octets', hoctets, h⟩ := exists_of_bind_eq_ok h
      cases h
      obtain ⟨hproper, hoctets⟩ := matches_of_toSize hoctets
      exact ⟨hproper, matches_form_iff.mpr ⟨q, _, rfl, matchesEach_two_iff.mpr
        ⟨octets, encoding, rfl, hoctets, toEncoding_eq_ok_iff.mp hencoding⟩⟩⟩
    · next target path =>
      obtain ⟨mention, hmention, h⟩ := exists_of_bind_eq_ok h
      obtain ⟨path', hpath, h⟩ := exists_of_bind_eq_ok h
      cases h
      obtain ⟨hproper, hpath⟩ := toFieldPath_eq_ok_iff.mp hpath
      exact ⟨hproper, matches_form_iff.mpr ⟨q, _, rfl, matchesEach_two_iff.mpr
        ⟨target, path, rfl, toMention_eq_ok_iff.mp ⟨hmention, fun q hq => (Option.some.inj hq).symm⟩, hpath⟩⟩⟩
    · cases h
termination_by e => sizeOf e
decreasing_by
  all_goals
    subst_vars
    simp only [list.sizeOf_spec, List.cons.sizeOf_spec]
    omega

lemma matches_of_toSize : ∀ {e : Expr} {z : SizeExpr Mention}, e.toSize = .ok z → z.Proper ∧ z.print.Matches e
  | atom text p, z, h => by
    rw [toSize] at h
    split at h
    · next value hvalue =>
      cases h
      exact ⟨trivial, text, p, rfl, toNumber?_eq_some_iff.mp hvalue, fun q hq => (Option.some.inj hq).symm⟩
    · cases h
  | quoted text p, z, h => nomatch h
  | list .square items p, z, h => nomatch h
  | list .round [] p, z, h => nomatch h
  | list .round (quoted text q :: items) p, z, h => nomatch h
  | list .round (list b items' q :: items) p, z, h => nomatch h
  | list .round (atom keyword q :: args) p, z, h => by
    unfold toSize at h
    split at h
    · next of =>
      obtain ⟨of', hof, h⟩ := exists_of_bind_eq_ok h
      cases h
      obtain ⟨hproper, hof⟩ := matches_of_toType hof
      exact ⟨hproper, matches_form_iff.mpr ⟨q, _, rfl, matchesEach_one_iff.mpr ⟨of, rfl, hof⟩⟩⟩
    · next of =>
      obtain ⟨of', hof, h⟩ := exists_of_bind_eq_ok h
      cases h
      obtain ⟨hproper, hof⟩ := matches_of_toType hof
      exact ⟨hproper, matches_form_iff.mpr ⟨q, _, rfl, matchesEach_one_iff.mpr ⟨of, rfl, hof⟩⟩⟩
    · cases h
termination_by e => sizeOf e
decreasing_by
  all_goals
    subst_vars
    simp only [list.sizeOf_spec, List.cons.sizeOf_spec]
    omega

end

mutual

lemma toType_of_matches : ∀ {t : TypeExpr Mention} {e : Expr}, t.Proper → t.print.Matches e → e.toType = .ok t
  | .integer kind bits p, e, hproper, h => by
    obtain ⟨q, _, rfl, hargs⟩ := matches_form_iff.mp h
    obtain ⟨kind', bits', rfl, hkind, hbits⟩ := matchesEach_two_iff.mp hargs
    exact (ok_bind (toIntegerKind_eq_ok_iff.mpr hkind)).trans (ok_bind (toSize_of_matches hproper hbits))
  | .float bits p, e, hproper, h => by
    obtain ⟨q, _, rfl, hargs⟩ := matches_form_iff.mp h
    obtain ⟨bits', rfl, hbits⟩ := matchesEach_one_iff.mp hargs
    exact ok_bind (toSize_of_matches hproper hbits)
  | .vector element count p, e, hproper, h => by
    obtain ⟨q, _, rfl, hargs⟩ := matches_form_iff.mp h
    obtain ⟨element', count', rfl, helement, hcount⟩ := matchesEach_two_iff.mp hargs
    exact (ok_bind (toType_of_matches hproper.1 helement)).trans (ok_bind (toSize_of_matches hproper.2 hcount))
  | .matrix element width height p, e, hproper, h => by
    obtain ⟨q, _, rfl, hargs⟩ := matches_form_iff.mp h
    obtain ⟨element', width', height', rfl, helement, hwidth, hheight⟩ := matchesEach_three_iff.mp hargs
    exact (ok_bind (toType_of_matches hproper.1 helement)).trans
      ((ok_bind (toSize_of_matches hproper.2.1 hwidth)).trans (ok_bind (toSize_of_matches hproper.2.2 hheight)))
  | .booleanSet octets flags p, e, hproper, h => by
    obtain ⟨q, _, rfl, hargs⟩ := matches_form_iff.mp h
    obtain ⟨octets', flags', rfl, hoctets, hflags⟩ := matchesEach_two_iff.mp hargs
    exact (ok_bind (toFlags_eq_ok_iff.mpr hflags)).trans (ok_bind (toSize_of_matches hproper hoctets))
  | .string octets encoding p, e, hproper, h => by
    obtain ⟨q, _, rfl, hargs⟩ := matches_form_iff.mp h
    obtain ⟨octets', encoding', rfl, hoctets, hencoding⟩ := matchesEach_two_iff.mp hargs
    exact (ok_bind (toEncoding_eq_ok_iff.mpr hencoding)).trans (ok_bind (toSize_of_matches hproper hoctets))
  | .reference mention p, e, _, h => by
    obtain ⟨q, rfl, hp⟩ := id h
    obtain rfl := hp p rfl
    exact ok_bind (toMention_eq_ok_iff.mpr h).1
  | .typeOf mention r path p, e, hproper, h => by
    obtain ⟨q, _, rfl, hargs⟩ := matches_form_iff.mp h
    obtain ⟨target, path', rfl, htarget, hpath⟩ := matchesEach_two_iff.mp hargs
    obtain ⟨hmention, hplace⟩ := toMention_eq_ok_iff.mpr htarget
    obtain rfl := hplace r rfl
    exact (ok_bind hmention).trans (ok_bind (toFieldPath_eq_ok_iff.mpr ⟨hproper, hpath⟩))

lemma toSize_of_matches : ∀ {z : SizeExpr Mention} {e : Expr}, z.Proper → z.print.Matches e → e.toSize = .ok z
  | .constant n p, e, _, h => by
    obtain ⟨text, q, rfl, htext, hp⟩ := h
    obtain rfl := hp p rfl
    rw [toSize, toNumber?_eq_some_iff.mpr htext]
  | .inOctets of p, e, hproper, h => by
    obtain ⟨q, _, rfl, hargs⟩ := matches_form_iff.mp h
    obtain ⟨of', rfl, hof⟩ := matchesEach_one_iff.mp hargs
    exact ok_bind (toType_of_matches hproper hof)
  | .inBits of p, e, hproper, h => by
    obtain ⟨q, _, rfl, hargs⟩ := matches_form_iff.mp h
    obtain ⟨of', rfl, hof⟩ := matchesEach_one_iff.mp hargs
    exact ok_bind (toType_of_matches hproper hof)

end

lemma toType_eq_ok_iff {t : TypeExpr Mention} : e.toType = .ok t ↔ t.Proper ∧ t.print.Matches e :=
  ⟨matches_of_toType, fun h => toType_of_matches h.1 h.2⟩

lemma toSize_eq_ok_iff {z : SizeExpr Mention} : e.toSize = .ok z ↔ z.Proper ∧ z.print.Matches e :=
  ⟨matches_of_toSize, fun h => toSize_of_matches h.1 h.2⟩

end Expr

end RecordSchema
