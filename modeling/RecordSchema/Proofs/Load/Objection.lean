import RecordSchema.Proofs.Check.Places
import RecordSchema.Proofs.Load.Complete

namespace RecordSchema

variable {P : Position → Prop}

def Diagnostic.ofStatement : Diagnostic → Bool
  | parse _ => true
  | resolution e => e.problem.ofStatement
  | check _ => true
  | _ => false

def Diagnostic.At (P : Position → Prop) (d : Diagnostic) : Prop :=
  d.ofStatement = true ∧ ∃ p, d.position? = some p ∧ P p

def Effect.All (P : Position → Prop) : Effect → Prop
  | .taken _ _ => True
  | .declares _ d => d.All P
  | .asks _ _ p => P p

section

variable {ε α : Type} {R : ε → Prop} {R' : Diagnostic → Prop} {Q : α → Prop} {x : Attempt ε α} {g : ε → Diagnostic}

lemma Attempt.Yields.retell (h : x.Yields R Q) (hg : ∀ e, R e → R' (g e)) : (x.retell g).Yields R' Q := by
  rcases x with (e | fault) | a
  · exact .error (hg e (h.blames e rfl))
  · exact ⟨nofun, nofun⟩
  · exact .ok (h.result a rfl)

lemma Attempt.Yields.resolution {x : Attempt ResolveError α} (h : x.Yields (ResolveError.At P) Q) :
    (x.retell .resolution).Yields (Diagnostic.At P) Q :=
  h.retell fun _ he => he

lemma Attempt.Yields.check {x : Attempt CheckError α} (h : x.Yields (CheckError.At P) Q) :
    (x.retell .check).Yields (Diagnostic.At P) Q :=
  h.retell fun e he => ⟨rfl, e.position, rfl, he⟩

end

namespace FileState

variable {c : Capabilities} {t : TypeTable} {chain : Chain} {load : Importer} {f f' : FileState} {e : Expr}
  {s s' : Store} {product : Product}

/-- What a file has against an expression, apart from what the load of an import reports. -/
inductive Objects (c : Capabilities) (t : TypeTable) (f : FileState) (e : Expr) : Diagnostic → Prop
  | refused {d : Diagnostic} (effect_eq : f.effect c t e = .error (.error d)) : Objects c t f e d
  | unsettled {package : PackageName} {definition : Definition Target} {i : Identifier} {d : Diagnostic}
      (effect_eq : f.effect c t e = .ok (.declares package definition))
      (settle_eq : f.settle c t i package definition = .error (.error d)) : Objects c t f e d
  | clashed {package : PackageName} {qualifier : Segment} {p : Position} (asks : f.Asks e package qualifier p) :
      Objects c t f e (.resolution ⟨.importConflict package qualifier, some p⟩)
  | failed {package : PackageName} {qualifier : Segment} {p : Position} (asks : f.Asks e package qualifier p) :
      Objects c t f e (.resolution ⟨.packageLoadFailed package, some p⟩)

lemma Asks.position_eq {package : PackageName} {qualifier : Segment} {p : Position}
    (h : f.Asks e package qualifier p) : p = e.position :=
  Expr.position_of_toStatement h.statement

structure Objected (c : Capabilities) (t : TypeTable) (f : FileState) (e : Expr) (s s' : Store) : Prop where
  diagnostics : ∃ found, s'.diagnostics = s.diagnostics ++ found ∧ ∀ d ∈ found, f.Objects c t e d
  sources : s'.sources = s.sources

lemma Objected.silent (hdiagnostics : s'.diagnostics = s.diagnostics) (hsources : s'.sources = s.sources) :
    f.Objected c t e s s' :=
  ⟨⟨[], by rw [hdiagnostics, List.append_nil], nofun⟩, hsources⟩

lemma Objected.single {d : Diagnostic} (h : f.Objects c t e d) (hdiagnostics : s'.diagnostics = s.diagnostics ++ [d])
    (hsources : s'.sources = s.sources) : f.Objected c t e s s' :=
  ⟨⟨[d], hdiagnostics, by simpa using h⟩, hsources⟩

end FileState

end RecordSchema
