import RecordSchema.Proofs.Expr.Fault
import RecordSchema.Proofs.Load.Objection
import RecordSchema.Proofs.Load.Request

/-! Every diagnostic points at what caused it. -/

namespace RecordSchema

open Expr.Reader (Cursor Locates)

variable {c : Capabilities} {l : Library} {requests : List Request} {chain : Chain} {name : PackageName}
  {importer : Option Position} {sources sources' : SourceRegistry} {s s' s'' : Store} {m : Moment} {file : FileId}
  {text : String} {d : Diagnostic}

namespace Expr

lemma file_of_covers {e : Expr} {p : Position} (he : e ∈ (read file text).exprs) (hp : e.Covers p) : p.file = file := by
  obtain ⟨n, hn, rfl⟩ := hp
  obtain ⟨g, before, rest, _, _, rfl⟩ := exists_phrase_of_node he hn
  rw [g.position_exprAt]
  rfl

end Expr

namespace Library

structure Reads (l : Library) (sources : SourceRegistry) (m : Moment) (name : PackageName) (file : FileId)
    (text : String) : Prop where
  last : m.chain.names.getLast? = some name
  source : l.source? name = some (.ok text)
  registered : sources.lookup? (l.path name) = some file
  reading : m.reading = Expr.read file text
  rest : m.rest <:+ m.reading.exprs

lemma Reads.mono (h : l.Reads sources m name file text) (hextends : sources.Extends sources') :
    l.Reads sources' m name file text :=
  ⟨h.last, h.source, hextends _ _ h.registered, h.reading, h.rest⟩

lemma Reads.later {m' : Moment} {e : Expr} (h : l.Reads sources m name file text) (hextends : sources.Extends sources')
    (hchain : m'.chain = m.chain) (hreading : m'.reading = m.reading) (hrest : m.rest = e :: m'.rest) :
    l.Reads sources' m' name file text where
  last := by rw [hchain, h.last]
  source := h.source
  registered := hextends _ _ h.registered
  reading := hreading.trans h.reading
  rest := by
    rw [hreading]
    exact (List.suffix_cons e m'.rest).trans (hrest ▸ h.rest)

lemma Reads.mem {e : Expr} {rest : List Expr} (h : l.Reads sources m name file text) (hrest : m.rest = e :: rest) :
    e ∈ (Expr.read file text).exprs := by
  rw [← h.reading]
  apply h.rest.subset
  rw [hrest]
  exact List.mem_cons_self

def Meets (l : Library) (c : Capabilities) (requests : List Request) (m : Moment) : Prop :=
  ∃ earlier name importer later s, requests = earlier ++ .load name importer :: later ∧
    ((l.catalog c).serve earlier).run {} = .ok () s ∧ l.Passes c name importer s m

/-- What a diagnostic is about, and where it is put. What is held against a statement is put where a tree of the
expression stands that was being taken through, what a load says of an import where that import stands, a package of the
wrong name at its end, and what the whole of a file lacks at the end of its text. Where the notation is broken, the
position is that of a piece of the text. -/
inductive Points (l : Library) (c : Capabilities) (requests : List Request) (sources : SourceRegistry) :
    Diagnostic → Prop
  | statement {m : Moment} {name : PackageName} {file : FileId} {text : String} {e : Expr} {rest : List Expr}
      {d : Diagnostic} (met : l.Meets c requests m) (reads : l.Reads sources m name file text)
      (next : m.rest = e :: rest) (objects : m.file.Objects c m.store.types e d) (node : d.At e.Covers) :
      Points l c requests sources d
  | missing {m : Moment} {name : PackageName} {file : FileId} {text : String} {e : Expr} {rest : List Expr}
      {package : PackageName} {qualifier : Segment} (met : l.Meets c requests m)
      (reads : l.Reads sources m name file text) (next : m.rest = e :: rest)
      (asks : m.file.Asks e package qualifier e.position) (absent : l.fetch? package = none) :
      Points l c requests sources (.resolution ⟨.packageNonexistent package, some e.position⟩)
  | circular {m : Moment} {name : PackageName} {file : FileId} {text : String} {e : Expr} {rest : List Expr}
      {package : PackageName} {qualifier : Segment} (met : l.Meets c requests m)
      (reads : l.Reads sources m name file text) (next : m.rest = e :: rest)
      (asks : m.file.Asks e package qualifier e.position) (closes : package ∈ m.chain.names) :
      Points l c requests sources (.circularImport (m.chain.cycle package (some e.position)) (some e.position))
  | misnamed {m : Moment} {name found : PackageName} {file : FileId} {text : String} {e : Expr}
      (met : l.Meets c requests m) (reads : l.Reads sources m name file text) (done : m.rest = [])
      (mem : e ∈ m.reading.exprs) (ended : e.toStatement = .ok (.packageEnd e.position)) :
      Points l c requests sources (.resolution ⟨.packageUnexpected name found, some e.position⟩)
  | broken {m : Moment} {name : PackageName} {file : FileId} {text : String} {error : ReadError}
      (met : l.Meets c requests m) (reads : l.Reads sources m name file text) (done : m.rest = [])
      (found : m.reading.error = some error) (located : Locates file text.toList error.position) :
      Points l c requests sources (.lexical error)
  | unfinished {m : Moment} {name : PackageName} {file : FileId} {text : String} {problem : ResolveProblem} {p : Position}
      (met : l.Meets c requests m) (reads : l.Reads sources m name file text) (done : m.rest = [])
      (whole : m.reading.error = none)
      (lacks : problem = .expectedPackage ∨ ∃ package, problem = .unexpectedEof package)
      (ends : p = (Position.piece file text.toList []).wrap)
      (counted : text.utf8ByteSize + 1 < UInt32.size → p = .piece file text.toList []) :
      Points l c requests sources (.resolution ⟨problem, some p⟩)
  | unreadable {package : PackageName} {reason : String}
      (source : l.source? package = some (.error (.unreadable package reason))) :
      Points l c requests sources (.unreadable package reason)
  | asked {name : PackageName} {importer : Option Position} (mem : .load name importer ∈ requests)
      (absent : l.fetch? name = none) : Points l c requests sources (.resolution ⟨.packageNonexistent name, importer⟩)

lemma Points.extend (h : l.Points c requests sources d) (hextends : sources.Extends sources') :
    l.Points c requests sources' d := by
  cases h with
  | statement met reads next objects node => exact .statement met (reads.mono hextends) next objects node
  | missing met reads next asks absent => exact .missing met (reads.mono hextends) next asks absent
  | circular met reads next asks closes => exact .circular met (reads.mono hextends) next asks closes
  | misnamed met reads done mem ended => exact .misnamed met (reads.mono hextends) done mem ended
  | broken met reads done found located => exact .broken met (reads.mono hextends) done found located
  | unfinished met reads done whole lacks ends counted =>
    exact .unfinished met (reads.mono hextends) done whole lacks ends counted
  | unreadable source => exact .unreadable source
  | asked mem absent => exact .asked mem absent

lemma Meets.append (h : l.Meets c requests m) (more : List Request) : l.Meets c (requests ++ more) m := by
  obtain ⟨earlier, name, importer, later, s, rfl, hserve, hpasses⟩ := h
  exact ⟨earlier, name, importer, later ++ more, s, by rw [List.append_assoc, List.cons_append], hserve, hpasses⟩

lemma Points.append (h : l.Points c requests sources d) (more : List Request) :
    l.Points c (requests ++ more) sources d := by
  cases h with
  | statement met reads next objects node => exact .statement (met.append more) reads next objects node
  | missing met reads next asks absent => exact .missing (met.append more) reads next asks absent
  | circular met reads next asks closes => exact .circular (met.append more) reads next asks closes
  | misnamed met reads done mem ended => exact .misnamed (met.append more) reads done mem ended
  | broken met reads done found located => exact .broken (met.append more) reads done found located
  | unfinished met reads done whole lacks ends counted =>
    exact .unfinished (met.append more) reads done whole lacks ends counted
  | unreadable source => exact .unreadable source
  | asked mem absent => exact .asked (List.mem_append_left more mem) absent

lemma Points.registered {p : Position} (h : l.Points c requests sources d) (hp : d.position? = some p) :
    (∃ name text, l.source? name = some (.ok text) ∧ sources.lookup? (l.path name) = some p.file) ∨
      ∃ name, d = .resolution ⟨.packageNonexistent name, some p⟩ ∧ .load name (some p) ∈ requests := by
  have hcovers : ∀ {m : Moment} {name : PackageName} {file : FileId} {text : String} {e : Expr},
      l.Reads sources m name file text → e ∈ m.reading.exprs → e.Covers p →
        ∃ name text, l.source? name = some (.ok text) ∧ sources.lookup? (l.path name) = some p.file := by
    intro m name file text e hreads he hcovers
    rw [hreads.reading] at he
    exact ⟨name, text, hreads.source, by rw [Expr.file_of_covers he hcovers]; exact hreads.registered⟩
  cases h with
  | @statement m name file text e rest d met reads next objects node =>
    obtain ⟨_, q, hq, hcovered⟩ := node
    rw [hp] at hq
    cases hq
    exact .inl (hcovers reads (reads.reading ▸ reads.mem next) hcovered)
  | missing met reads next asks absent =>
    cases hp
    exact .inl (hcovers reads (reads.reading ▸ reads.mem next) ⟨_, .root, rfl⟩)
  | circular met reads next asks closes =>
    cases hp
    exact .inl (hcovers reads (reads.reading ▸ reads.mem next) ⟨_, .root, rfl⟩)
  | misnamed met reads done mem ended =>
    cases hp
    exact .inl (hcovers reads mem ⟨_, .root, rfl⟩)
  | @broken m name file text error met reads done found located =>
    cases hp
    obtain ⟨before, slice, after, _, _, hlocated, _⟩ := located
    exact .inl ⟨name, text, reads.source, by rw [hlocated]; exact reads.registered⟩
  | @unfinished m name file text problem p met reads done whole lacks ends counted =>
    cases hp
    exact .inl ⟨name, text, reads.source, by rw [ends]; exact reads.registered⟩
  | unreadable source => cases hp
  | asked mem absent =>
    cases hp
    exact .inr ⟨_, rfl, mem⟩

end Library

namespace Store

structure Onward (l : Library) (c : Capabilities) (requests : List Request) (s s' : Store) : Prop where
  extends_ : s.sources.Extends s'.sources
  filed : s'.sources.Filed l
  points : ∀ d ∈ s'.diagnostics, d ∈ s.diagnostics ∨ l.Points c requests s'.sources d

namespace Onward

lemma trans (h : s.Onward l c requests s') (h' : s'.Onward l c requests s'') : s.Onward l c requests s'' where
  extends_ := h.extends_.trans h'.extends_
  filed := h'.filed
  points d hd := by
    rcases h'.points d hd with hd | hd
    · exact (h.points d hd).imp_right fun hpoints => hpoints.extend h'.extends_
    · exact .inr hd

lemma told {found : List Diagnostic} (hs : s.sources.Filed l) (hsources : s'.sources = s.sources)
    (hdiagnostics : s'.diagnostics = s.diagnostics ++ found)
    (hfound : ∀ d ∈ found, l.Points c requests s.sources d) : s.Onward l c requests s' where
  extends_ := by
    rw [hsources]
    exact .refl _
  filed := hsources ▸ hs
  points d hd := by
    rw [hdiagnostics] at hd
    rw [hsources]
    exact (List.mem_append.mp hd).imp_right (hfound d)

lemma of_eq (hs : s.sources.Filed l) (hsources : s'.sources = s.sources)
    (hdiagnostics : s'.diagnostics = s.diagnostics) : s.Onward l c requests s' :=
  told hs hsources (hdiagnostics.trans (List.append_nil _).symm) nofun

end Onward

end Store

namespace Library

lemma eq_unreadable_of_source? (h : l.source? name = some (.error d)) : ∃ reason, d = .unreadable name reason := by
  obtain ⟨contents, _, hread⟩ := Option.map_eq_some_iff.mp h
  cases hcontents : contents.read with
  | ok text =>
    rw [hcontents] at hread
    cases hread
  | error reason =>
    rw [hcontents] at hread
    cases hread
    exact ⟨_, rfl⟩

section

variable (c requests)

lemma onward_of_fetch {fetch : Fetch} {r : Except LoadError (FileId × String)} (hfetch : l.fetch? name = some fetch)
    (hs : s.sources.Filed l) (hrun : fetch.run (s.entering chain.names name importer) = .ok r s') :
    s.Onward l c requests s' ∧ ∀ file text, r = .ok (file, text) →
      l.source? name = some (.ok text) ∧ s'.sources.lookup? (l.path name) = some file := by
  have hentered : (s.entering chain.names name importer).sources.Filed l := hs
  cases (fetch_gets hfetch hentered).elim hrun with
  | text source registered extends_ filed =>
    refine ⟨⟨extends_, filed, fun d hd => .inl hd⟩, ?_⟩
    rintro _ _ ⟨⟩
    exact ⟨source, registered⟩
  | unread source extends_ filed =>
    obtain ⟨reason, rfl⟩ := eq_unreadable_of_source? source
    refine ⟨⟨extends_, filed, fun d hd => ?_⟩, nofun⟩
    rcases List.mem_append.mp hd with hd | hd
    · exact .inl hd
    · rw [List.mem_singleton.mp hd]
      exact .inr (.unreadable source)

lemma Reads.of_open? (hopen : l.open? chain name importer s = some m) (hs : s.sources.Filed l) :
    s.Onward l c requests m.store ∧ ∃ file text, l.Reads m.store.sources m name file text := by
  obtain ⟨_, _, fetch, file, text, s', hfetch, hrun, rfl⟩ := open?_eq_some hopen
  obtain ⟨honward, hfound⟩ := onward_of_fetch c requests hfetch hs hrun
  obtain ⟨hsource, hregistered⟩ := hfound file text rfl
  refine ⟨honward, file, text, ?_, hsource, hregistered, rfl, List.suffix_rfl⟩
  rw [Moment.first, Chain.names_concat, List.getLast?_concat]

end

def Ended (m : Moment) : Prop :=
  ∀ entry ∈ m.product, ∃ e ∈ m.reading.exprs, e.toStatement = .ok (.packageEnd e.position) ∧ entry.2 = e.position

lemma Ended.of_open? (hopen : l.open? chain name importer s = some m) : Ended m := by
  rw [Ended, (begins_of_open? hopen).2.1]
  rintro entry ⟨⟩

end Library

end RecordSchema
