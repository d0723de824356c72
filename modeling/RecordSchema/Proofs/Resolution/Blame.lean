import RecordSchema.Compile.Evaluate
import RecordSchema.Proofs.Outcome

namespace RecordSchema

def ResolveError.Plain (e : ResolveError) : Prop :=
  ∀ package, e.problem ≠ .packageLoadFailed package

namespace Scope

variable {s : Scope}

lemma requirePackage_plain {p : Position} {e : ResolveError} (h : s.requirePackage p = .error e) : e.Plain := by
  unfold requirePackage at h
  split at h <;> cases h
  rintro package ⟨⟩

lemma find_plain {m : Mention} {p : Position} {e : ResolveError} (h : s.find m p = .error e) : e.Plain := by
  unfold find at h
  split at h
  · cases hp : s.requirePackage p with
    | error e' =>
      rw [hp] at h
      cases h
      exact requirePackage_plain hp
    | ok package =>
      rw [hp] at h
      simp only [bind, Except.bind] at h
      split at h <;> cases h
      rintro package ⟨⟩
  · split at h
    · cases h
      rintro package ⟨⟩
    · split at h <;> cases h
      rintro package ⟨⟩

end Scope

variable (t : TypeTable) (s : Scope)

namespace TypeTable

lemma checkPath_blames (p : Position) : ∀ (path : List FieldName) (d : Declaration),
    (t.checkPath p d path).Blames ResolveError.Plain
  | [], d => by
    rw [checkPath]
    exact .ok ()
  | field :: rest, d => by
    rw [checkPath.eq_def]
    simp only
    split
    · exact .error (by rintro package ⟨⟩)
    · exact .ok ()
    · exact (Attempt.Blames.ofFault _).bind fun d => checkPath_blames p _ d
    · exact .error (by rintro package ⟨⟩)

lemma checkPathFrom_blames (target : Target) (path : List FieldName) (p : Position) :
    (t.checkPathFrom target path p).Blames ResolveError.Plain :=
  (Attempt.Blames.ofFault _).bind fun d => t.checkPath_blames p path d

end TypeTable

mutual

theorem TypeExpr.resolve_blames : ∀ type : TypeExpr Mention, (type.resolve t s).Blames ResolveError.Plain
  | .integer _ bits _ => (SizeExpr.resolve_blames bits).bind fun _ => .ok _
  | .float bits _ => (SizeExpr.resolve_blames bits).bind fun _ => .ok _
  | .vector element count _ =>
    (TypeExpr.resolve_blames element).bind fun _ => (SizeExpr.resolve_blames count).bind fun _ => .ok _
  | .matrix element width height _ =>
    (TypeExpr.resolve_blames element).bind fun _ => (SizeExpr.resolve_blames width).bind fun _ =>
      (SizeExpr.resolve_blames height).bind fun _ => .ok _
  | .booleanSet octets _ _ => (SizeExpr.resolve_blames octets).bind fun _ => .ok _
  | .string octets _ _ => (SizeExpr.resolve_blames octets).bind fun _ => .ok _
  | .reference _ _ => (Attempt.Blames.ofError fun _ h => Scope.find_plain h).bind fun _ => .ok _
  | .typeOf _ _ path p => (Attempt.Blames.ofError fun _ h => Scope.find_plain h).bind fun target =>
      (t.checkPathFrom_blames target path p).bind fun _ => .ok _

theorem SizeExpr.resolve_blames : ∀ size : SizeExpr Mention, (size.resolve t s).Blames ResolveError.Plain
  | .constant _ _ => .ok _
  | .inOctets of _ => (TypeExpr.resolve_blames of).bind fun _ => .ok _
  | .inBits of _ => (TypeExpr.resolve_blames of).bind fun _ => .ok _

end

lemma Body.resolve_blames (b : Body Mention) : (b.resolve t s).Blames ResolveError.Plain := by
  cases b with
  | record items =>
    refine (Attempt.Blames.mapM (fun item => ?_) items).bind fun _ => .ok _
    cases item with
    | field name type p => exact (type.resolve_blames t s).bind fun _ => .ok _
    | padding octets p => exact (octets.resolve_blames t s).bind fun _ => .ok _
  | packed items =>
    refine (Attempt.Blames.mapM (fun item => ?_) items).bind fun _ => .ok _
    cases item with
    | field name type p => exact (type.resolve_blames t s).bind fun _ => .ok _
    | padding bits p => exact (bits.resolve_blames t s).bind fun _ => .ok _
  | union cases =>
    exact (Attempt.Blames.mapM (fun c => (c.type.resolve_blames t s).bind fun _ => .ok _) cases).bind
      fun _ => .ok _

lemma Definition.resolve_blames (d : Definition Mention) : (d.resolve t s).Blames ResolveError.Plain := by
  refine (Attempt.Blames.ofError fun _ h => Scope.requirePackage_plain h).bind fun package => ?_
  split
  · exact .error (by rintro package ⟨⟩)
  · exact (d.body.resolve_blames t s).bind fun _ => .ok _

end RecordSchema
