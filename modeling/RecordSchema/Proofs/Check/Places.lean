import RecordSchema.Compile.Check
import RecordSchema.Proofs.Outcome
import RecordSchema.Proofs.Schema.Places

namespace RecordSchema

variable {P : Position → Prop}

def ResolveProblem.ofStatement : ResolveProblem → Bool
  | packageNonexistent _ => false
  | packageUnexpected .. => false
  | expectedPackage => false
  | unexpectedEof _ => false
  | _ => true

def ResolveError.At (P : Position → Prop) (e : ResolveError) : Prop :=
  e.problem.ofStatement = true ∧ ∃ p, e.position = some p ∧ P p

def CheckError.At (P : Position → Prop) (e : CheckError) : Prop :=
  P e.position

namespace Scope

variable {s : Scope} {p : Position} {e : ResolveError}

lemma requirePackage_at (hp : P p) (h : s.requirePackage p = .error e) : e.At P := by
  unfold requirePackage at h
  split at h <;> cases h
  exact ⟨rfl, p, rfl, hp⟩

lemma find_at {m : Mention} (hp : P p) (h : s.find m p = .error e) : e.At P := by
  unfold find at h
  split at h
  · cases hpackage : s.requirePackage p with
    | error e' =>
      rw [hpackage] at h
      cases h
      exact requirePackage_at hp hpackage
    | ok package =>
      rw [hpackage] at h
      simp only [bind, Except.bind] at h
      split at h <;> cases h
      exact ⟨rfl, p, rfl, hp⟩
  · split at h
    · cases h
      exact ⟨rfl, p, rfl, hp⟩
    · split at h <;> cases h
      exact ⟨rfl, p, rfl, hp⟩

end Scope

section

variable (t : TypeTable) (s : Scope)

lemma TypeTable.checkPath_at {p : Position} (hp : P p) : ∀ (path : List FieldName) (d : Declaration),
    (t.checkPath p d path).Blames (ResolveError.At P)
  | [], d => by
    rw [checkPath]
    exact .ok ()
  | field :: rest, d => by
    rw [checkPath.eq_def]
    dsimp only
    split
    · exact .error ⟨rfl, p, rfl, hp⟩
    · exact .ok ()
    · exact (Attempt.Blames.ofFault _).bind fun d => checkPath_at hp _ d
    · exact .error ⟨rfl, p, rfl, hp⟩

lemma TypeTable.checkPathFrom_at {p : Position} (hp : P p) (target : Target) (path : List FieldName) :
    (t.checkPathFrom target path p).Blames (ResolveError.At P) :=
  (Attempt.Blames.ofFault _).bind fun d => t.checkPath_at hp path d

variable {s}

lemma Scope.find_yields {p : Position} (hp : P p) (m : Mention) :
    (Attempt.ofError (s.find m p)).Yields (ResolveError.At P) fun _ => True :=
  .of_blames (.ofError fun _ h => Scope.find_at hp h)

variable (s)

mutual

lemma TypeExpr.resolve_at : ∀ {type : TypeExpr Mention}, type.All P →
    (type.resolve t s).Yields (ResolveError.At P) (TypeExpr.All P)
  | .integer .., h => (SizeExpr.resolve_at h.1).bind fun _ hbits => .ok ⟨hbits, h.2⟩
  | .float .., h => (SizeExpr.resolve_at h.1).bind fun _ hbits => .ok ⟨hbits, h.2⟩
  | .vector .., h => (TypeExpr.resolve_at h.1).bind fun _ helement => (SizeExpr.resolve_at h.2.1).bind fun _ hcount =>
      .ok ⟨helement, hcount, h.2.2⟩
  | .matrix .., h => (TypeExpr.resolve_at h.1).bind fun _ helement => (SizeExpr.resolve_at h.2.1).bind fun _ hwidth =>
      (SizeExpr.resolve_at h.2.2.1).bind fun _ hheight => .ok ⟨helement, hwidth, hheight, h.2.2.2⟩
  | .booleanSet .., h => (SizeExpr.resolve_at h.1).bind fun _ hoctets => .ok ⟨hoctets, h.2⟩
  | .string .., h => (SizeExpr.resolve_at h.1).bind fun _ hoctets => .ok ⟨hoctets, h.2⟩
  | .reference m _, h => (Scope.find_yields h m).bind fun _ _ => .ok h
  | .typeOf m _ path _, h => (Scope.find_yields h.1 m).bind fun target _ =>
      (Attempt.Yields.of_blames (t.checkPathFrom_at h.2 target path)).bind fun _ _ => .ok h

lemma SizeExpr.resolve_at : ∀ {size : SizeExpr Mention}, size.All P →
    (size.resolve t s).Yields (ResolveError.At P) (SizeExpr.All P)
  | .constant .., h => .ok h
  | .inOctets .., h => (TypeExpr.resolve_at h.1).bind fun _ hof => .ok ⟨hof, h.2⟩
  | .inBits .., h => (TypeExpr.resolve_at h.1).bind fun _ hof => .ok ⟨hof, h.2⟩

end

lemma RecordItem.resolve_at {item : RecordItem Mention} (h : item.All P) :
    (item.resolve t s).Yields (ResolveError.At P) (RecordItem.All P) := by
  cases item with
  | field => exact (TypeExpr.resolve_at t s h.1).bind fun _ htype => .ok ⟨htype, h.2⟩
  | padding => exact (SizeExpr.resolve_at t s h.1).bind fun _ hoctets => .ok ⟨hoctets, h.2⟩

lemma PackedItem.resolve_at {item : PackedItem Mention} (h : item.All P) :
    (item.resolve t s).Yields (ResolveError.At P) (PackedItem.All P) := by
  cases item with
  | field => exact (TypeExpr.resolve_at t s h.1).bind fun _ htype => .ok ⟨htype, h.2⟩
  | padding => exact (SizeExpr.resolve_at t s h.1).bind fun _ hbits => .ok ⟨hbits, h.2⟩

lemma CaseItem.resolve_at {item : CaseItem Mention} (h : item.All P) :
    (item.resolve t s).Yields (ResolveError.At P) (CaseItem.All P) :=
  (TypeExpr.resolve_at t s h.1).bind fun _ htype => .ok ⟨htype, h.2⟩

lemma Body.resolve_at {body : Body Mention} (h : body.All P) :
    (body.resolve t s).Yields (ResolveError.At P) (Body.All P) := by
  cases body with
  | record =>
    apply (Attempt.Yields.mapM fun item hitem => item.resolve_at t s (h item hitem)).bind
    exact fun _ hitems => .ok hitems
  | packed =>
    apply (Attempt.Yields.mapM fun item hitem => item.resolve_at t s (h item hitem)).bind
    exact fun _ hitems => .ok hitems
  | union =>
    apply (Attempt.Yields.mapM fun item hitem => item.resolve_at t s (h item hitem)).bind
    exact fun _ hitems => .ok hitems

lemma Definition.resolve_at {d : Definition Mention} (h : d.All P) :
    (d.resolve t s).Yields (ResolveError.At P) fun found => found.2.All P := by
  have hpackage : (Attempt.ofError (s.requirePackage d.position)).Blames (ResolveError.At P) :=
    .ofError fun _ herror => Scope.requirePackage_at h.2 herror
  apply (Attempt.Yields.of_blames hpackage).bind
  intro package _
  split
  · exact .error ⟨rfl, _, rfl, h.2⟩
  · exact (Body.resolve_at t s h.1).bind fun _ hbody => .ok ⟨hbody, h.2⟩

end

namespace Check

variable {p : Position}

lemma reject_at {α : Type} (hp : P p) (problem : CheckProblem) :
    (reject problem p : Attempt CheckError α).Blames (CheckError.At P) :=
  .error hp

lemma positive_at (hp : P p) (what : Positive) (n : Nat) : (positive what n p).Blames (CheckError.At P) := by
  rw [positive]
  split
  · exact reject_at hp _
  · exact .ok ()

lemma supported_at (hp : P p) (m : Measured) : (supported m p).Blames (CheckError.At P) := by
  rw [supported]
  split
  · exact .ok ()
  · exact reject_at hp _

lemma wholeOctets_at (hp : P p) (bits : Nat) : (wholeOctets bits p).Blames (CheckError.At P) := by
  rw [wholeOctets]
  split
  · exact .ok _
  · exact reject_at hp _

lemma scalar_at (hp : P p) (type : DataType) : (scalar type p).Blames (CheckError.At P) := by
  rw [scalar]
  split
  · exact .ok ()
  · exact reject_at hp _

lemma distinctFlags_at : ∀ (seen : List FieldName) {flags : List (FieldName × Position)}, (∀ flag ∈ flags, P flag.2) →
    (distinctFlags seen flags).Blames (CheckError.At P)
  | _, [], _ => .ok ()
  | seen, (flag, p) :: rest, h => by
    obtain ⟨hp, hrest⟩ := List.forall_mem_cons.mp h
    rw [distinctFlags]
    split
    · exact reject_at hp _
    · exact distinctFlags_at _ hrest

end Check

variable (c : Capabilities) (t : TypeTable)

mutual

lemma TypeExpr.check_at : ∀ (placement : Placement) {type : TypeExpr Target}, type.All P →
    (type.check c t placement).Blames (CheckError.At P)
  | placement, .integer .., h => (SizeExpr.evaluate_at h.1).bind fun bits =>
      (Check.positive_at h.2 _ bits).bind fun _ => (Check.supported_at h.2 _).bind fun _ => .ok _
  | _, .float .., h => (SizeExpr.evaluate_at h.1).bind fun bits =>
      (Check.positive_at h.2 _ bits).bind fun _ => (Check.supported_at h.2 _).bind fun _ => .ok _
  | _, .vector .., h => (TypeExpr.check_at .record h.1).bind fun type =>
      (Check.scalar_at h.1.position type).bind fun _ => (SizeExpr.evaluate_at h.2.1).bind fun _ =>
        (Check.supported_at h.2.2 _).bind fun _ => .ok _
  | _, .matrix .., h => (TypeExpr.check_at .record h.1).bind fun type =>
      (Check.scalar_at h.1.position type).bind fun _ => (SizeExpr.evaluate_at h.2.1).bind fun _ =>
        (SizeExpr.evaluate_at h.2.2.1).bind fun _ => (Check.supported_at h.2.2.2 _).bind fun _ => .ok _
  | _, .booleanSet _ flags _, h => by
    rw [TypeExpr.check]
    refine (SizeExpr.evaluate_at h.1).bind fun octets => (Check.supported_at h.2.2 _).bind fun _ =>
      (Check.distinctFlags_at [] h.2.1).bind fun _ => ?_
    split
    · exact Check.reject_at h.2.2 _
    · exact .ok _
  | _, .string .., h => by
    rw [TypeExpr.check]
    refine (SizeExpr.evaluate_at h.1).bind fun octets => (Check.supported_at h.2 _).bind fun _ => ?_
    split
    · exact .ok _
    · exact Check.reject_at h.2 _
  | _, .reference .., _ => (Attempt.Blames.ofFault _).bind fun _ => .ok _
  | _, .typeOf .., _ => (Attempt.Blames.ofFault _).bind fun _ => .ofFault _

lemma SizeExpr.evaluate_at : ∀ {size : SizeExpr Target}, size.All P → (size.evaluate c t).Blames (CheckError.At P)
  | .constant .., _ => .ok _
  | .inBits .., h => (TypeExpr.check_at .record h.1).bind fun _ => .ok _
  | .inOctets .., h => (TypeExpr.check_at .record h.1).bind fun type => Check.wholeOctets_at h.2 type.bits

end

namespace Check

end Check

end RecordSchema
