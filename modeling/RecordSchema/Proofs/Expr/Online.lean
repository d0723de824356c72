import RecordSchema.Proofs.Expr.Below

/-! Reading is online: what has been read of a text is left alone by the text that follows. -/

namespace RecordSchema

def ReadProblem.isFinal : ReadProblem → Bool
  | unexpectedClose _ | mismatchedClose .. | invalidEscape _ => true
  | unterminatedString | unclosedList _ => false

namespace Expr

open Reader Progress

variable {file : FileId}

namespace Reader

lemma Progress.problem_finish {p : Progress} {error : ReadError} (h : (p.finish file).error = some error) :
    error.problem = .unterminatedString ∨ ∃ bracket, error.problem = .unclosedList bracket := by
  obtain ⟨cursor, mode, items, enclosing⟩ := p
  cases mode with
  | string | escape =>
    cases h
    exact .inl rfl
  | between | comment | atom =>
    cases enclosing with
    | nil => cases h
    | cons innermost outer =>
      cases h
      exact .inr ⟨_, rfl⟩

lemma stream_append_of_isFinal {text : List Char} {error : ReadError} (h : (readChars file text).error = some error)
    (hfinal : error.problem.isFinal = true) (more : List Char) :
    (readChars file (text ++ more)).stream = (readChars file text).stream := by
  rw [readChars] at h
  rw [readChars, readChars, run_append]
  cases hrun : run file (.reading {}) text with
  | reading p =>
    rw [hrun] at h
    obtain hproblem | ⟨bracket, hproblem⟩ := Progress.problem_finish h <;> rw [hproblem] at hfinal <;> cases hfinal
  | failed exprs error cursor trailing =>
    obtain ⟨_, _, hfailed⟩ := run_failed file exprs error more cursor trailing
    rw [hfailed]
    rfl

end Reader

def begun (lists : List (Passage × Bracket)) : List Char :=
  lists.flatMap fun l => l.1.chars ++ [l.2.opening]

lemma begun_cons (f : Passage) (bracket : Bracket) (lists : List (Passage × Bracket)) :
    begun ((f, bracket) :: lists) = f.chars ++ bracket.opening :: begun lists := by
  rw [begun, List.flatMap_cons, List.append_assoc]
  rfl

lemma begun_concat (lists : List (Passage × Bracket)) (f : Passage) (bracket : Bracket) :
    begun (lists ++ [(f, bracket)]) = begun lists ++ f.chars ++ [bracket.opening] := by
  rw [begun, List.flatMap_append, List.flatMap_singleton, List.append_assoc]
  rfl

/-- Of the lists still open at the end of the text this is the innermost one: its opening bracket stands there, and
only a passage follows. -/
def Innermost (file : FileId) (text : List Char) (bracket : Bracket) (p : Position) : Prop :=
  ∃ (outer : List (Passage × Bracket)) (before last : Passage),
    text = begun (outer ++ [(before, bracket)]) ++ last.chars ∧
    (∀ l ∈ outer ++ [(before, bracket)], l.1.Fits [l.2.opening]) ∧ last.Fits [] ∧
    p = .piece file (begun outer ++ before.chars) [bracket.opening]

def OpenString (text : List Char) : Prop :=
  ∃ items rest : List Char, text = '"' :: (items.flatMap stringItem ++ rest) ∧ (rest = [] ∨ rest = ['\\'])

def Cut (text : List Char) : Prop :=
  ∃ (lists : List (Passage × Bracket)) (last : Passage) (tail : List Char),
    text = begun lists ++ (last.chars ++ tail) ∧ (∀ l ∈ lists, l.1.Fits [l.2.opening]) ∧ last.Fits tail ∧ (tail = [] ∨ OpenString tail)

lemma mem_head?_of_isPrefix {text after : List Char} (h : text <+: after) {c : Char} (hc : c ∈ text.head?) :
    c ∈ after.head? := by
  obtain ⟨more, rfl⟩ := h
  exact List.mem_head?_append_of_mem_head? hc

lemma Phrase.Fits.of_isPrefix {f : Phrase} {after text : List Char} (h : f.Fits after) (hbegins : text <+: after) :
    f.Fits text := by
  cases f with
  | atom word => exact ⟨h.1, fun c hc => h.2 c (mem_head?_of_isPrefix hbegins hc)⟩
  | string items => trivial
  | list bracket body => exact h

namespace Cut

variable {text : List Char}

lemma of_passage (f : Passage) (h : f.Fits []) : Cut f.chars :=
  ⟨[], f, [], (List.append_nil _).symm, nofun, h, .inl rfl⟩

lemma of_phrase (f : Phrase) (h : f.Fits []) : Cut f.chars := by
  have hcut : Cut (Passage.phrase f .nil).chars := of_passage _ ⟨h, trivial⟩
  rwa [Passage.chars, Passage.chars, List.append_nil] at hcut

lemma of_openString (h : OpenString text) : Cut text :=
  ⟨[], .nil, text, rfl, nofun, trivial, .inr h⟩

lemma nil : Cut [] :=
  of_passage .nil trivial

lemma opening (bracket : Bracket) (h : Cut text) : Cut (bracket.opening :: text) := by
  obtain ⟨lists, last, tail, rfl, hlists, hlast, htail⟩ := h
  exact ⟨(.nil, bracket) :: lists, last, tail, rfl, List.forall_mem_cons.mpr ⟨trivial, hlists⟩, hlast, htail⟩

lemma prepend (extend : Passage → Passage) (before : List Char) (hchars : ∀ f, (extend f).chars = before ++ f.chars)
    (hfits : ∀ f after, f.Fits after → f.chars ++ after <+: text → (extend f).Fits after) (h : Cut text) :
    Cut (before ++ text) := by
  obtain ⟨lists, last, tail, rfl, hlists, hlast, htail⟩ := h
  cases lists with
  | nil =>
    refine ⟨[], extend last, tail, ?_, nofun, hfits last tail hlast List.prefix_rfl, htail⟩
    rw [hchars, List.append_assoc]
    rfl
  | cons first lists =>
    obtain ⟨f, bracket⟩ := first
    obtain ⟨hf, hlists⟩ := List.forall_mem_cons.mp hlists
    refine ⟨(extend f, bracket) :: lists, last, tail, ?_, List.forall_mem_cons.mpr ⟨?_, hlists⟩, hlast, htail⟩
    · simp only [begun_cons, hchars, List.append_assoc]
    · refine hfits f _ hf ⟨begun lists ++ (last.chars ++ tail), ?_⟩
      simp only [begun_cons, List.append_assoc, List.cons_append, List.nil_append]

end Cut

lemma exists_items : ∀ {items text more : List Char}, items.flatMap stringItem = text ++ more →
    ∃ before rest : List Char, text = before.flatMap stringItem ++ rest ∧ (rest = [] ∨ rest = ['\\'])
  | [], text, more, h => ⟨[], [], (List.append_eq_nil_iff.mp h.symm).1, .inl rfl⟩
  | c :: items, [], more, h => ⟨[], [], rfl, .inl rfl⟩
  | c :: items, d :: text, more, h => by
    rw [List.flatMap_cons, stringItem] at h
    split at h
    · next hescaped =>
      obtain ⟨rfl, htail⟩ := List.cons.inj h
      cases text with
      | nil => exact ⟨[], _, rfl, .inr rfl⟩
      | cons e text =>
        obtain ⟨rfl, hitems⟩ := List.cons.inj htail
        obtain ⟨before, rest, rfl, hrest⟩ := exists_items hitems
        exact ⟨c :: before, rest, by rw [List.flatMap_cons, stringItem, if_pos hescaped]; rfl, hrest⟩
    · next hplain =>
      obtain ⟨rfl, htail⟩ := List.cons.inj h
      obtain ⟨before, rest, rfl, hrest⟩ := exists_items htail
      exact ⟨c :: before, rest, by rw [List.flatMap_cons, stringItem, if_neg hplain]; rfl, hrest⟩

mutual

lemma Phrase.cut : ∀ (f : Phrase) {after text more : List Char}, f.Fits after → f.chars = text ++ more → Cut text
  | _, _, [], _, _, _ => .nil
  | .atom word, _, c :: text, more, hfits, h => by
    obtain rfl : word = c :: text ++ more := h
    have hword : IsWord (c :: text) :=
      ⟨List.cons_ne_nil c text, fun d hd => hfits.1.2 d (List.mem_append_left more hd)⟩
    exact .of_phrase (.atom (c :: text)) ⟨hword, nofun⟩
  | .string items, _, c :: text, more, hfits, h => by
    obtain ⟨rfl, htail⟩ := List.cons.inj h
    rcases List.append_eq_append_iff.mp htail with ⟨rest, rfl, hrest⟩ | ⟨rest, hitems, hrest⟩
    · cases rest with
      | nil => exact .of_openString ⟨items, [], rfl, .inl rfl⟩
      | cons d rest =>
        obtain ⟨rfl, hnil⟩ := List.cons.inj hrest
        obtain rfl := (List.append_eq_nil_iff.mp hnil.symm).1
        exact .of_phrase (.string items) trivial
    · obtain ⟨before, rest, rfl, hrest⟩ := exists_items hitems
      exact .of_openString ⟨before, rest, rfl, hrest⟩
  | .list bracket body, _, c :: text, more, hfits, h => by
    obtain ⟨rfl, htail⟩ := List.cons.inj h
    rcases List.append_eq_append_iff.mp htail with ⟨rest, rfl, hrest⟩ | ⟨rest, hbody, hrest⟩
    · cases rest with
      | nil =>
        have hbody : body.chars = body.chars ++ [] ++ [] := by simp
        exact (Passage.cut body hfits hbody).opening bracket
      | cons d rest =>
        obtain ⟨rfl, hnil⟩ := List.cons.inj hrest
        obtain rfl := (List.append_eq_nil_iff.mp hnil.symm).1
        exact .of_phrase (.list bracket body) hfits
    · exact (Passage.cut body hfits hbody).opening bracket

lemma Passage.cut : ∀ (f : Passage) {after text more : List Char}, f.Fits after → f.chars = text ++ more → Cut text
  | .nil, _, text, more, _, h => by
    rw [(List.append_eq_nil_iff.mp h.symm).1]
    exact .nil
  | _, _, [], _, _, _ => .nil
  | .blank c rest, _, d :: text, more, hfits, h => by
    obtain ⟨rfl, htail⟩ := List.cons.inj h
    have hcut : Cut text := Passage.cut rest hfits.2 htail
    exact hcut.prepend (.blank c) [c] (fun _ => rfl) fun _ _ hf _ => ⟨hfits.1, hf⟩
  | .comment line rest, _, d :: text, more, hfits, h => by
    obtain ⟨rfl, htail⟩ := List.cons.inj h
    rcases List.append_eq_append_iff.mp htail with ⟨tail, rfl, hrest⟩ | ⟨tail, rfl, hrest⟩
    · have hcut : Cut tail := Passage.cut rest hfits.2.2 hrest
      refine hcut.prepend (.comment line) (';' :: line) (fun _ => rfl) fun f after hf hbegins => ⟨hfits.1, ?_, hf⟩
      refine fun c hc => hfits.2.1 c (mem_head?_of_isPrefix ?_ hc)
      rw [hrest, List.append_assoc]
      exact hbegins.trans (List.prefix_append _ _)
    · have hline : '\n' ∉ text := fun hmem => hfits.1 (List.mem_append_left tail hmem)
      have hcut := Cut.of_passage (.comment text .nil) ⟨hline, nofun, trivial⟩
      rwa [Passage.chars, Passage.chars, List.append_nil] at hcut
  | .phrase first rest, _, text, more, hfits, h => by
    rcases List.append_eq_append_iff.mp h with ⟨tail, rfl, hrest⟩ | ⟨tail, hfirst, hrest⟩
    · have hcut : Cut tail := Passage.cut rest hfits.2 hrest
      refine hcut.prepend (.phrase first) first.chars (fun _ => rfl) fun f after hf hbegins =>
        ⟨hfits.1.of_isPrefix ?_, hf⟩
      rw [hrest, List.append_assoc]
      exact hbegins.trans (List.prefix_append _ _)
    · exact Phrase.cut first hfits.1 hfirst

end

namespace Reader.Progress

variable {p : Progress}

def within (p : Progress) (file : FileId) (lists : List (Passage × Bracket)) : Progress :=
  lists.foldl (fun p l => (p.past l.1.chars (l.1.exprsAt file p.cursor)).inside file l.2) p

lemma within_concat (p : Progress) (lists : List (Passage × Bracket)) (f : Passage) (bracket : Bracket) :
    p.within file (lists ++ [(f, bracket)]) =
      ((p.within file lists).past f.chars (f.exprsAt file (p.within file lists).cursor)).inside file bracket :=
  List.foldl_append

lemma outcome_begun (file : FileId) : ∀ (lists : List (Passage × Bracket)) {p : Progress}, p.mode = .between →
    (∀ l ∈ lists, l.1.Fits [l.2.opening]) → (p.within file lists).mode = .between ∧
      (p.within file lists).cursor = p.cursor.through (begun lists) ∧
      ∀ after, p.outcome file (begun lists ++ after) = (p.within file lists).outcome file after
  | [], p, hp, _ => ⟨hp, rfl, fun _ => rfl⟩
  | (f, bracket) :: lists, p, hp, hlists => by
    obtain ⟨hf, hlists⟩ := List.forall_mem_cons.mp hlists
    let q := p.past f.chars (f.exprsAt file p.cursor)
    obtain ⟨hmode, hcursor, houtcome⟩ := outcome_begun file lists (p := q.inside file bracket) rfl hlists
    refine ⟨hmode, hcursor.trans ?_, fun after => ?_⟩
    · rw [begun_cons, Cursor.through_append]
      rfl
    · have hhead : [bracket.opening].head? = (bracket.opening :: (begun lists ++ after)).head? := rfl
      have hfits : f.Fits (bracket.opening :: (begun lists ++ after)) := Passage.fits_congr hhead hf
      rw [begun_cons, List.append_assoc, List.cons_append, outcome_passage file f hfits hp,
        outcome_opening file bracket rfl, houtcome]
      rfl

lemma error_outcome_nil (hp : p.mode = .between) : (p.outcome file []).error =
    p.enclosing.head?.map fun opened => ⟨.unclosedList opened.bracket, opened.position⟩ := by
  obtain ⟨cursor, mode, items, enclosing⟩ := p
  subst hp
  cases enclosing <;> rfl

lemma error_openString {text : List Char} (h : OpenString text) (hp : p.mode = .between) :
    (p.outcome file text).error = some ⟨.unterminatedString, p.cursor.position file⟩ := by
  obtain ⟨items, rest, rfl, hrest⟩ := h
  rw [outcome_within_string file items rest hp]
  rcases hrest with rfl | rfl <;> rfl

end Reader.Progress

variable {text : List Char}

lemma readChars_begun (file : FileId) {lists : List (Passage × Bracket)} {last : Passage} {tail : List Char}
    (hlists : ∀ l ∈ lists, l.1.Fits [l.2.opening]) (hlast : last.Fits tail) : ∃ q : Progress, q.mode = .between ∧
      q.enclosing = (({} : Progress).within file lists).enclosing ∧
      readChars file (begun lists ++ (last.chars ++ tail)) = q.outcome file tail := by
  obtain ⟨hmode, -, houtcome⟩ := outcome_begun file lists (p := {}) rfl hlists
  let q := ({} : Progress).within file lists
  refine ⟨q.past last.chars (last.exprsAt file q.cursor), rfl, rfl, ?_⟩
  exact (houtcome _).trans (outcome_passage file last hlast hmode)

lemma error_of_innermost (hsize : (String.ofList text).utf8ByteSize < UInt32.size) {bracket : Bracket} {p : Position}
    (h : Innermost file text bracket p) : (readChars file text).error = some ⟨.unclosedList bracket, p⟩ := by
  obtain ⟨outer, before, last, rfl, hlists, hlast, rfl⟩ := h
  obtain ⟨-, hcursor, -⟩ := outcome_begun file outer (p := {}) rfl fun l hl =>
    hlists l (List.mem_append_left _ hl)
  obtain ⟨q, hmode, henclosing, hread⟩ := readChars_begun file hlists hlast
  rw [List.append_nil] at hread
  have hopening : (({} : Progress).within file outer).cursor.through before.chars =
      Cursor.behind (begun outer ++ before.chars) := by
    rw [hcursor, ← Cursor.through_eq_behind, Cursor.through_append]
  have hrest : bracket.opening :: last.chars ≠ [] := List.cons_ne_nil _ _
  rw [begun_concat, List.append_assoc] at hsize
  rw [hread, error_outcome_nil hmode, henclosing, within_concat, ← Position.wrap_piece_of_rest _ hrest hsize,
    ← Cursor.upTo_behind, Cursor.behind_concat, ← hopening]
  rfl

lemma Cut.problem (h : Cut text) {error : ReadError} (herror : (readChars file text).error = some error) :
    error.problem = .unterminatedString ∨ ∃ bracket, error.problem = .unclosedList bracket ∧
      ((String.ofList text).utf8ByteSize < UInt32.size → Innermost file text bracket error.position) := by
  obtain ⟨lists, last, tail, rfl, hlists, hlast, rfl | htail⟩ := h
  · obtain rfl | ⟨outer, ⟨before, bracket⟩, rfl⟩ := List.eq_nil_or_concat' lists
    · obtain ⟨q, hmode, henclosing, hread⟩ := readChars_begun file hlists hlast
      rw [hread, error_outcome_nil hmode, henclosing] at herror
      cases herror
    · refine .inr ⟨bracket, ?_, fun hsize => ?_⟩
      · obtain ⟨q, hmode, henclosing, hread⟩ := readChars_begun file hlists hlast
        rw [hread, error_outcome_nil hmode, henclosing, within_concat] at herror
        exact (congrArg ReadError.problem (Option.some.inj herror)).symm
      · rw [List.append_nil] at herror hsize ⊢
        have hinnermost : Innermost file (begun (outer ++ [(before, bracket)]) ++ last.chars) bracket _ :=
          ⟨outer, before, last, rfl, hlists, hlast, rfl⟩
        obtain rfl := Option.some.inj ((error_of_innermost hsize hinnermost).symm.trans herror)
        exact hinnermost
  · obtain ⟨q, hmode, -, hread⟩ := readChars_begun file hlists hlast
    rw [hread, error_openString htail hmode] at herror
    cases herror
    exact .inl rfl

lemma cut_of_append {more : List Char} (h : (readChars file (text ++ more)).error = none) : Cut text := by
  obtain ⟨f, after, htext, hf, -, hafter⟩ := exists_exprsAt file (text ++ more)
  obtain rfl := hafter h
  exact Passage.cut f hf (by rw [htext, List.append_nil])

/-- Text that follows never changes what has been read. A bracket or a backslash that is out of place ends reading for
good. Below whole lines without a fault a text is read as it is alone, only farther down. A beginning of a text without
a fault lacks nothing but an end, and the list that is reported as open is the innermost one. -/
theorem read_online (file : FileId) (text more : String) :
    (∀ es error, (read file text).stream = es ++ [.error error] → error.problem.isFinal = true →
      (read file (text ++ more)).stream = (read file text).stream) ∧
    ((text ++ more).utf8ByteSize < UInt32.size → (∀ error, .error error ∉ (read file text).stream) →
      (text = "" ∨ ∃ line, text = line ++ "\n") → (read file (text ++ more)).stream = (read file text).stream ++
        (read file more).stream.map (Reading.itemBelow (text.toList.count '\n') text.utf8ByteSize)) ∧
    ((∀ error, .error error ∉ (read file (text ++ more)).stream) →
      (∀ error, .error error ∈ (read file text).stream →
        (∃ es : List Expr, (read file text).stream = es.map .ok ++ [.error error]) ∧
        (error.problem = .unterminatedString ∨ ∃ bracket, error.problem = .unclosedList bracket)) ∧
      (text.utf8ByteSize < UInt32.size → ∀ bracket p, .error ⟨.unclosedList bracket, p⟩ ∈ (read file text).stream ↔
        Innermost file text.toList bracket p)) := by
  have hread (text : String) : read file text = readChars file text.toList := rfl
  rw [hread, hread, hread, String.toList_append]
  refine ⟨fun es error hstream hfinal => ?_, fun hsize hnone hlines => ?_, fun hnone => ⟨fun error hmem => ?_, ?_⟩⟩
  · have hmem : .error error ∈ (readChars file text.toList).stream := by
      rw [hstream]
      exact List.mem_append_right _ (List.mem_singleton_self _)
    exact stream_append_of_isFinal (Reading.error_mem_stream_iff.mp hmem) hfinal _
  · have hends : text.toList = [] ∨ ∃ line, text.toList = line ++ ['\n'] := by
      rcases hlines with rfl | ⟨line, rfl⟩
      · exact .inl rfl
      · exact .inr ⟨line.toList, String.toList_append⟩
    rw [← String.ofList_toList (s := text ++ more), String.toList_append] at hsize
    have hstream := stream_append hends (Reading.error_eq_none_of_stream hnone) hsize
    rwa [String.ofList_toList] at hstream
  · have herror := Reading.error_mem_stream_iff.mp hmem
    refine ⟨⟨_, Reading.stream_of_some herror⟩, ?_⟩
    have hcut := cut_of_append (Reading.error_eq_none_of_stream hnone)
    exact (hcut.problem herror).imp_right fun ⟨bracket, hproblem, _⟩ => ⟨bracket, hproblem⟩
  · intro hsize bracket p
    rw [← String.ofList_toList (s := text)] at hsize
    rw [Reading.error_mem_stream_iff]
    refine ⟨fun herror => ?_, error_of_innermost hsize⟩
    have hcut := cut_of_append (Reading.error_eq_none_of_stream hnone)
    obtain hproblem | ⟨_, ⟨⟩, hinnermost⟩ := hcut.problem herror
    · cases hproblem
    · exact hinnermost hsize

end Expr

end RecordSchema
