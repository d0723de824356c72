import RecordSchema.Proofs.Alongside.Load
import RecordSchema.Proofs.Expr.Token
import RecordSchema.Proofs.Load.Moment

/-! The white space and the comments in sources make no difference but to the places in them. -/

namespace RecordSchema

/-- Of every place only the file is left. -/
def Relocation.unplaced : Relocation :=
  ⟨fun p => ⟨p.file, 1, 1, ⟨0, 0⟩⟩, id, Function.injective_id⟩

lemma renderCycle_relocate (r : Relocation) (path : List Import) :
    renderCycle (path.map (Import.relocate r)) = renderCycle path := by
  cases path with
  | nil => rfl
  | cons first rest => exact List.foldl_map

namespace Diagnostic

def wording (d : Diagnostic) : String × String × Option String × String × Option String :=
  (d.kind, d.message, d.code?, d.label, d.help?)

lemma wording_relocate (r : Relocation) (d : Diagnostic) : (d.relocate r).wording = d.wording := by
  cases d with
  | circularImport path p =>
    have hmessage := congrArg ("Circular import: " ++ ·) (renderCycle_relocate r path)
    exact congrArg (fun text => ("circular import", text, none, "context::circular_import", none)) hmessage
  | lexical | parse | resolution | check | unreadable => rfl

end Diagnostic

namespace Reply

def wordings : Reply → List (String × String × Option String × String × Option String)
  | loaded _ => []
  | taken found => found.map Diagnostic.wording

lemma wordings_relocate (r : Relocation) (reply : Reply) : (reply.relocate r).wordings = reply.wordings := by
  cases reply with
  | loaded result => rfl
  | taken found =>
    rw [relocate, wordings, wordings, List.map_map]
    exact List.map_congr_left fun d _ => d.wording_relocate r

end Reply

namespace Library

variable {l l' : Library}

lemma corresponds_texts {R : String → String → Prop} {sources sources' : List (PackageName × String)}
    (h : List.Forall₂ (fun a b => a.1 = b.1 ∧ R a.2 b.2) sources sources') :
    (texts sources).Corresponds R (texts sources') := by
  intro name
  rw [source?_texts, source?_texts]
  induction h with
  | nil => exact .none
  | @cons a b rest rest' hab _ ih =>
    rw [List.lookup_cons, List.lookup_cons, ← hab.1]
    cases name == a.1 with
    | true => exact .some (.intro hab.2)
    | false => exact ih

lemma Corresponds.matches_unplaced (h : l.Corresponds Expr.Reformatted l') : l.Matches .unplaced l' :=
  h.mono fun _ _ hformat k => hformat.read_eq (p := ⟨k, 1, 1, ⟨0, 0⟩⟩) fun _ _ => rfl

/-- Whatever is asked for, packages whose sources are formatted in another way are the same, and so is everything that
is reported, but for the lines, columns and bytes. -/
theorem replies_reformatted (h : l.Corresponds Expr.Reformatted l') (c : Capabilities) (requests : List Request) :
    ∃ rs s rs' s', ((l.catalog c).replies requests).run {} = .ok rs s ∧
      ((l'.catalog c).replies requests).run {} = .ok rs' s' ∧
      rs.map (Reply.relocate .unplaced) = rs'.map (Reply.relocate .unplaced) ∧
      rs.map Reply.wordings = rs'.map Reply.wordings := by
  obtain ⟨rs, s, rs', s', hrun, hrun', hreplies, _⟩ := h.matches_unplaced.replies_afresh c requests
  have hwordings (replies : List Reply) :
      (replies.map (Reply.relocate .unplaced)).map Reply.wordings = replies.map Reply.wordings := by
    rw [List.map_map]
    exact List.map_congr_left fun reply _ => reply.wordings_relocate .unplaced
  refine ⟨rs, s, rs', s', hrun, hrun', hreplies, ?_⟩
  rw [← hwordings rs, hreplies, hwordings]

def commentedRecords : Library :=
  .texts [(nestedName, "; Two records.\n(package-begin n)\n(record A [ (field x (integer unsigned 8)) ])\n\n" ++
    "(record B ; holds an A\n  [(field a A)])\n")]

lemma commented_records_reply : nestedRecords.Corresponds Expr.Reformatted commentedRecords ∧
    ∃ rs s rs' s', ((nestedRecords.catalog {}).replies [.load nestedName none, .takeDiagnostics]).run {} = .ok rs s ∧
      ((commentedRecords.catalog {}).replies [.load nestedName none, .takeDiagnostics]).run {} = .ok rs' s' ∧
      rs.map (Reply.relocate .unplaced) = rs'.map (Reply.relocate .unplaced) ∧
      rs.map Reply.wordings = rs'.map Reply.wordings := by
  have hformat : nestedRecords.Corresponds Expr.Reformatted commentedRecords :=
    corresponds_texts (.cons ⟨rfl, by decide +kernel⟩ .nil)
  exact ⟨hformat, replies_reformatted hformat {} _⟩

end Library

end RecordSchema
