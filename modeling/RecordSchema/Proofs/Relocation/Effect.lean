import RecordSchema.Proofs.Load.Effect
import RecordSchema.Proofs.Relocation.Checking
import RecordSchema.Proofs.Relocation.Parsing

namespace RecordSchema

section

variable (r : Relocation)

@[simp] def CommandResult.relocate : CommandResult → CommandResult
  | .type found => .type (found.relocate r)
  | .size found => .size found

@[simps] def Collector.relocate (k : Collector) : Collector :=
  ⟨k.opened, k.declarations.map (.relocate r)⟩

@[simps] def FileState.relocate (f : FileState) : FileState :=
  ⟨f.scope.relocate r, f.collector.relocate r, f.results.map (.relocate r)⟩

@[simp] def Outcome.relocate : Outcome → Outcome
  | nothing => nothing
  | abort => abort
  | finished package => finished (package.relocate r)

@[simp] def Effect.relocate : Effect → Effect
  | taken f out => taken (f.relocate r) (out.relocate r)
  | declares package d => declares package (d.map r.position (.relocate r))
  | asks package qualifier p => asks package qualifier (r.position p)

end

variable {r : Relocation} {c : Capabilities} {t t' : TypeTable}

namespace Attempt.Mirrors

variable {α β : Type} {g : α → β}

lemma retell {ε ε' : Type} {E : ε → ε} {E' : ε' → ε'} {x : Attempt ε α} {y : Attempt ε β} {k : ε → ε'}
    (h : Mirrors E g x y) (hk : ∀ e, k (E e) = E' (k e)) : Mirrors E' g (x.retell k) (y.retell k) := by
  cases h with
  | ok a => exact .ok a
  | error e =>
    rw [retell_error, retell_error, hk]
    exact .error (k e)
  | fault fault => exact .fault fault _

lemma parse {x : Attempt ParseError α} {y : Attempt ParseError β} (h : Mirrors (.relocate r) g x y) :
    Mirrors (Diagnostic.relocate r) g (x.retell .parse) (y.retell .parse) :=
  h.retell fun _ => rfl

lemma resolution {x : Attempt ResolveError α} {y : Attempt ResolveError β} (h : Mirrors (.relocate r) g x y) :
    Mirrors (Diagnostic.relocate r) g (x.retell .resolution) (y.retell .resolution) :=
  h.retell fun _ => rfl

lemma check {x : Attempt CheckError α} {y : Attempt CheckError β} (h : Mirrors (.relocate r) g x y) :
    Mirrors (Diagnostic.relocate r) g (x.retell .check) (y.retell .check) :=
  h.retell fun _ => rfl

end Attempt.Mirrors

namespace Scope

lemma defineType_mirrors (s : Scope) (d : Declaration) :
    RecordSchema.Mirrors id (.relocate r) (s.defineType d) ((s.relocate r).defineType (d.relocate r)) :=
  (OneToOne.insert_mapValues _ r.identifier_injective s.types d.name d.identifier).bind fun types =>
    .ok { s with types }

lemma commit_mirrors (s : Scope) (d : Declaration) :
    RecordSchema.Mirrors (.relocate r) (.relocate r) (s.commit d) ((s.relocate r).commit (d.relocate r)) := by
  have h := s.defineType_mirrors (r := r) d
  rw [commit, commit]
  generalize s.defineType d = x at h
  generalize (s.relocate r).defineType (d.relocate r) = y at h
  cases h with
  | ok scope => exact .ok scope
  | error conflict => exact .error (⟨.typeDuplicate d.name, some d.position⟩ : ResolveError)

lemma bindImport_mirrors (s : Scope) (qualifier : Segment) (package : Package) :
    RecordSchema.Mirrors id (.relocate r) (s.bindImport qualifier package)
      ((s.relocate r).bindImport qualifier (package.relocate r)) := by
  rw [bindImport, bindImport, relocate_qualifiers, Package.relocate_name]
  cases s.qualifiers.insert qualifier package.name with
  | error conflict => exact .error conflict
  | ok qualifiers =>
    have hscope : Scope.relocate r { s with qualifiers, packages := s.packages ++ [package] } =
        { s.relocate r with qualifiers, packages := (s.relocate r).packages ++ [package.relocate r] } := by
      simp [Scope.relocate]
    change RecordSchema.Mirrors id (Scope.relocate r) _ (.ok _)
    rw [← hscope]
    exact .ok _

end Scope

namespace Collector

lemma finish_relocate (k : Collector) (name : PackageName) :
    ((k.relocate r).finish name).1 = (k.finish name).1.relocate r := by
  rw [finish, finish, relocate_opened]
  split <;> rfl

lemma finish_mirrors {ε : Type} {E : ε → ε} (k : Collector) (name : PackageName) : Attempt.Mirrors E (Package.relocate r)
    (Attempt.ofFault (k.finish name).2) (Attempt.ofFault ((k.relocate r).finish name).2) := by
  rw [finish, finish, relocate_opened]
  split
  · exact Attempt.Mirrors.ok (⟨name, k.declarations⟩ : Package)
  · exact Attempt.Mirrors.fault _ _

lemma add_relocate (k : Collector) (d : Declaration) : (k.add d).relocate r = (k.relocate r).add (d.relocate r) := by
  have hupsert : upsert Declaration.name (d.relocate r) (k.declarations.map (.relocate r)) =
      (upsert Declaration.name d k.declarations).map (.relocate r) := upsert_map (fun _ => rfl) d _
  rw [add, add, relocate_declarations, hupsert]
  rfl

end Collector

namespace FileState

variable (f : FileState)

lemma package_mirrors (p : Position) :
    Attempt.Mirrors (.relocate r) id (f.package p) ((f.relocate r).package (r.position p)) :=
  (Attempt.Mirrors.ofError (f.scope.requirePackage_mirrors r p)).resolution

lemma taken_results (result : CommandResult) {E : Diagnostic → Diagnostic} :
    Attempt.Mirrors E (Effect.relocate r) (.ok (.taken { f with results := f.results ++ [result] } .nothing))
      (.ok (.taken { f.relocate r with results := (f.relocate r).results ++ [result.relocate r] } .nothing)) := by
  have hfile : FileState.relocate r { f with results := f.results ++ [result] } =
      { f.relocate r with results := (f.relocate r).results ++ [result.relocate r] } := by
    simp [FileState.relocate]
  rw [← hfile]
  exact .ok (Effect.taken { f with results := f.results ++ [result] } .nothing)

lemma statementEffect_mirrors (h : t.Carries r t') (statement : Statement) : Attempt.Mirrors (.relocate r) (.relocate r)
    (f.statementEffect c t statement) ((f.relocate r).statementEffect c t' (statement.relocate r)) := by
  cases statement with
  | packageBegin name p =>
    simp only [Statement.relocate, statementEffect, relocate_scope, Scope.relocate_state]
    cases f.scope.state with
    | unopened => exact .ok (Effect.taken ⟨{ f.scope with state := .opened name }, .begin name, f.results⟩ .nothing)
    | opened current => exact .error (Diagnostic.resolution ⟨.packageNested current, some p⟩)
    | closed previous => exact .error (Diagnostic.resolution ⟨.packageDuplicate previous, some p⟩)
  | packageEnd p =>
    refine (f.package_mirrors p).bind fun name => (f.collector.finish_mirrors name).bind fun package => ?_
    rw [relocate_collector, Collector.finish_relocate]
    exact .ok (Effect.taken _ (.finished package))
  | importPackage package qualifier p =>
    refine (f.package_mirrors p).bind fun _ => ?_
    rw [relocate_scope, Scope.imported?_relocate, Option.isSome_map, Scope.qualifierOf?_relocate]
    split
    · exact .error (Diagnostic.resolution ⟨.importConflict package qualifier, some p⟩)
    · exact .ok (Effect.asks package qualifier p)
  | define d =>
    exact (d.resolve_mirrors h f.scope).resolution.bind fun found =>
      .ok (Effect.declares found.1 found.2)
  | showType type p =>
    refine (f.package_mirrors p).bind fun _ => (type.resolve_mirrors h f.scope).resolution.bind fun type => ?_
    refine (type.check_mirrors h .record).check.bind fun type => ?_
    exact taken_results _ (.type type)
  | showSize size p =>
    refine (f.package_mirrors p).bind fun _ => (size.resolve_mirrors h f.scope).resolution.bind fun size => ?_
    refine (size.evaluate_mirrors h).check.bind fun size => ?_
    exact taken_results _ (.size size)

theorem effect_mirrors (h : t.Carries r t') (e : Expr) : Attempt.Mirrors (.relocate r) (.relocate r) (f.effect c t e)
    ((f.relocate r).effect c t' (e.relocate r)) :=
  (Attempt.Mirrors.ofError (e.toStatement_mirrors r)).parse.bind (f.statementEffect_mirrors h)

theorem settle_mirrors (h : t.Carries r t') (i : Identifier) (package : PackageName) (d : Definition Target) :
    Attempt.Mirrors (.relocate r) (Prod.map (.relocate r) (.relocate r)) (f.settle c t i package d)
      ((f.relocate r).settle c t' (r.identifier i) package (d.map r.position (.relocate r))) := by
  refine (Check.declaration_mirrors h i package d).check.bind fun d => ?_
  refine (Attempt.Mirrors.ofError (f.scope.commit_mirrors d)).resolution.bind fun scope => ?_
  have hfile : FileState.relocate r ⟨scope, f.collector.add d, f.results⟩ =
      ⟨scope.relocate r, (f.relocate r).collector.add (d.relocate r), (f.relocate r).results⟩ := by
    rw [FileState.relocate, Collector.add_relocate]
    rfl
  rw [← hfile]
  exact .ok ((⟨scope, f.collector.add d, f.results⟩ : FileState), d)

end FileState

end RecordSchema
