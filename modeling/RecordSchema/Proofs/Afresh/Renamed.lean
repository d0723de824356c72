import RecordSchema.Proofs.Afresh.Basic
import RecordSchema.Proofs.Relocation.Effect
import RecordSchema.Proofs.Renaming.Basic

namespace RecordSchema

@[simps] def Numbering.rename (r : Renaming) (n : Numbering) : Numbering :=
  ⟨fun name => r.file (n.file name), fun name type => r.identifier (n.identifier name type)⟩

section

variable (r : Relocation)

@[simps] def Yield.relocate (y : Yield) : Yield :=
  ⟨y.package.relocate r, y.types.relocate r, y.needs⟩

def Product.relocate : Product → Product :=
  Option.map (Prod.map (.relocate r) r.position)

@[simps] def Draft.relocate (w : Draft) : Draft :=
  ⟨w.file.relocate r, Product.relocate r w.product, w.types.relocate r, w.needs, w.told.map (.relocate r)⟩

def Chain.relocate : Chain → Chain :=
  List.map (Prod.map id (Option.map r.position))

end

variable {r : Renaming} {c : Capabilities}

namespace Attempt.Mirrors

variable {ε δ α β γ κ : Type} {E : ε → δ} {g : α → β} {h : γ → κ}

lemma foldlM {f : α → γ → Attempt ε α} {f' : β → κ → Attempt δ β} (hf : ∀ a x, Mirrors E g (f a x) (f' (g a) (h x))) :
    ∀ (items : List γ) (a : α), Mirrors E g (items.foldlM f a) ((items.map h).foldlM f' (g a))
  | [], a => .ok a
  | x :: rest, a => by
    rw [List.map_cons, List.foldlM_cons, List.foldlM_cons]
    exact (hf a x).bind (foldlM hf rest)

end Attempt.Mirrors

section

variable (r : Relocation)

namespace Chain

variable (chain : Chain) (name : PackageName) (importer : Option Position)

@[simp] lemma names_relocate : names (relocate r chain) = chain.names := by
  rw [names, names, relocate, List.map_map]
  rfl

lemma links_relocate : ∀ chain : Chain, links (relocate r chain) = chain.links.map (.relocate r)
  | [] => rfl
  | [_] => rfl
  | (p, _) :: (q, importer) :: rest => by
    have hrest := links_relocate ((q, importer) :: rest)
    change Import.relocate r ⟨p, q, importer⟩ :: links (relocate r ((q, importer) :: rest)) = _
    rw [hrest]
    rfl

lemma relocate_concat : relocate r (chain ++ [(name, importer)]) = relocate r chain ++ [(name, importer.map r.position)] :=
  List.map_append

lemma cycle_relocate :
    cycle (relocate r chain) name (importer.map r.position) = (chain.cycle name importer).map (.relocate r) := by
  have hdrop : (relocate r chain).dropWhile (fun entry => entry.1 ≠ name) =
      relocate r (chain.dropWhile fun entry => entry.1 ≠ name) :=
    List.dropWhile_map ..
  rw [cycle, cycle, hdrop, ← relocate_concat, links_relocate]

end Chain

lemma FileState.remains_relocate (f : FileState) (reading : Reading) :
    (f.relocate r).remains (reading.relocate r) = (f.remains reading).map (.relocate r) := by
  rw [remains, remains, Reading.relocate_error]
  cases reading.error with
  | some error => rfl
  | none => cases hstate : f.scope.state <;> simp [Scope.finish, Scope.relocate, hstate, ResolveError.relocate]

lemma Product.misnamed_relocate (product : Product) (name : PackageName) :
    (product.relocate r).misnamed name = (product.misnamed name).map (.relocate r) := by
  cases product with
  | none => rfl
  | some entry =>
    obtain ⟨package, p⟩ := entry
    by_cases hname : package.name = name <;> simp [relocate, misnamed, hname, ResolveError.relocate]

end

def Provider.Mirrors (r : Renaming) (load load' : Provider) : Prop :=
  ∀ name p, Attempt.Mirrors (List.map (.relocate r)) (Yield.relocate r) (load name p) (load' name (p.map (.rename r)))

namespace Draft

variable (w : Draft)

lemma tell_relocate (d : Diagnostic) : (w.tell d).relocate r = (w.relocate r).tell (d.relocate r) := by
  simp [tell, relocate]

lemma heed_mirrors {α β : Type} {g : α → β} {x : Attempt Diagnostic α} {y : Attempt Diagnostic β} {k : α → Draft}
    {k' : β → Draft} (hx : Attempt.Mirrors (Diagnostic.relocate r) g x y) (hk : ∀ a, (k a).relocate r = k' (g a)) :
    Attempt.Mirrors (List.map (.relocate r)) (.relocate r) (w.heed x k) ((w.relocate r).heed y k') := by
  cases hx with
  | ok a =>
    rw [heed, heed, ← hk]
    exact .ok (k a)
  | error d =>
    rw [heed, heed, ← tell_relocate]
    exact .ok (w.tell d)
  | fault fault => exact .fault fault _

lemma types_append_relocate (t t' : TypeTable) : TypeTable.relocate r ⟨t.declarations ++ t'.declarations⟩ =
    ⟨(t.relocate r).declarations ++ (t'.relocate r).declarations⟩ := by
  rw [TypeTable.relocate, List.map_append]
  rfl

lemma receive_mirrors (package : PackageName) (qualifier : Segment) (p : Position) (y : Yield) :
    Attempt.Mirrors (List.map (.relocate r)) (.relocate r) (w.receive package qualifier p y)
      ((w.relocate r).receive package qualifier (p.rename r) (y.relocate r)) := by
  let grown : Draft := { w with types := ⟨w.types.declarations ++ y.types.declarations⟩, needs := w.needs ++ y.needs }
  have hgrown : grown.relocate r = { w.relocate r with
      types := ⟨(w.relocate r).types.declarations ++ (y.relocate r).types.declarations⟩
      needs := (w.relocate r).needs ++ (y.relocate r).needs } := by
    rw [relocate, types_append_relocate]
    rfl
  have hbound := w.file.scope.bindImport_mirrors (r := r) qualifier y.package
  rw [receive, receive, ← hgrown]
  refine grown.heed_mirrors (g := .relocate r) (.ofError ?_) fun scope => rfl
  change Mirrors _ _ ((w.file.scope.bindImport qualifier y.package).mapError _)
    (((w.file.scope.relocate r).bindImport qualifier (y.package.relocate r)).mapError _)
  generalize w.file.scope.bindImport qualifier y.package = x at hbound
  generalize (w.file.scope.relocate r).bindImport qualifier (y.package.relocate r) = x' at hbound
  cases hbound with
  | ok scope => exact .ok scope
  | error conflict => exact .error (Diagnostic.resolution ⟨.importConflict package qualifier, some p⟩)

variable {n : Numbering} {load load' : Provider} (name : PackageName)

lemma take_mirrors (h : Provider.Mirrors r load load') (p : Position) (effect : Effect) :
    Attempt.Mirrors (List.map (.relocate r)) (.relocate r) (w.take c n load name p effect)
      ((w.relocate r).take c (n.rename r) load' name (p.rename r) (effect.relocate r)) := by
  cases effect with
  | taken file out =>
    have hproduct : Product.relocate r (out.product p w.product) =
        (out.relocate r).product (p.rename r) (Product.relocate r w.product) := by
      cases out <;> rfl
    have hdraft : relocate r { w with file, product := out.product p w.product } =
        { w.relocate r with
          file := file.relocate r
          product := (out.relocate r).product (p.rename r) (w.relocate r).product } := by
      rw [relocate, hproduct]
      rfl
    change Attempt.Mirrors _ _ (.ok _) (.ok _)
    rw [← hdraft]
    exact .ok _
  | declares package d =>
    refine w.heed_mirrors (w.file.settle_mirrors (TypeTable.carries_relocate r w.types) _ package d) fun found => ?_
    rw [relocate, types_append_relocate]
    rfl
  | asks package qualifier q =>
    have hload := h package (some q)
    rw [Option.map_some] at hload
    rw [Effect.relocate, Renaming.toRelocation_position, take, take]
    generalize load package (some q) = x at hload
    generalize load' package (some (q.rename r)) = x' at hload
    cases hload with
    | ok y => exact w.receive_mirrors package qualifier q y
    | error found =>
      let failed : Diagnostic := .resolution ⟨.packageLoadFailed package, some q⟩
      have hfound : (w.told ++ found ++ [failed]).map (.relocate r) =
          (w.relocate r).told ++ found.map (.relocate r) ++ [failed.relocate r] := by
        rw [List.map_append, List.map_append]
        rfl
      have hmirrors := Attempt.Mirrors.error (E := List.map (Diagnostic.relocate r)) (g := Draft.relocate r)
        (w.told ++ found ++ [failed])
      rwa [hfound] at hmirrors
    | fault fault => exact .fault fault _

lemma feed_mirrors (h : Provider.Mirrors r load load') (e : Expr) :
    Attempt.Mirrors (List.map (.relocate r)) (.relocate r) (w.feed c n load name e)
      ((w.relocate r).feed c (n.rename r) load' name (e.relocate r)) := by
  have heffect := w.file.effect_mirrors (c := c) (TypeTable.carries_relocate r w.types) e
  rw [feed, feed, Expr.position_relocate, relocate_file, relocate_types]
  generalize w.file.effect c w.types e = x at heffect
  generalize (w.file.relocate r).effect c (w.types.relocate r) (e.relocate r) = x' at heffect
  cases heffect with
  | ok effect => exact w.take_mirrors name h e.position effect
  | error d =>
    dsimp only
    rw [← tell_relocate]
    exact .ok (w.tell d)
  | fault fault => exact .fault fault _

lemma finish_mirrors (reading : Reading) : Attempt.Mirrors (List.map (.relocate r)) (.relocate r) (w.finish name reading)
    ((w.relocate r).finish name (reading.relocate r)) := by
  have htold : (w.relocate r).told ++ (w.relocate r).file.remains (reading.relocate r) ++
      (w.relocate r).product.misnamed name = (w.told ++ w.file.remains reading ++
        w.product.misnamed name).map (.relocate r) := by
    rw [relocate_file, FileState.remains_relocate, relocate_product, Product.misnamed_relocate, List.map_append,
      List.map_append]
    rfl
  rw [finish, finish, htold, relocate_product]
  generalize w.told ++ w.file.remains reading ++ w.product.misnamed name = told
  cases told with
  | cons d rest => exact .error (d :: rest)
  | nil =>
    cases w.product with
    | none => exact .error []
    | some entry => exact .ok (⟨entry.1, w.types, w.needs⟩ : Yield)

end Draft

lemma Library.relocate_of_source? {l : Library} {name : PackageName} {d : Diagnostic}
    (h : l.source? name = some (.error d)) : d.relocate r = d := by
  obtain ⟨contents, _, hd⟩ := Option.map_eq_some_iff.mp h
  cases hread : contents.read with
  | ok text =>
    rw [hread] at hd
    cases hd
  | error reason =>
    rw [hread] at hd
    cases hd
    rfl

variable {n : Numbering} {load load' : Provider}

lemma compileAfresh_mirrors (h : Provider.Mirrors r load load') (name : PackageName) (text : String) :
    Attempt.Mirrors (List.map (.relocate r)) (Yield.relocate r) (compileAfresh c n load name text)
      (compileAfresh c (n.rename r) load' name text) := by
  rw [compileAfresh, compileAfresh, Numbering.rename_file, Expr.read_rename, Reading.relocate_exprs]
  let start : Draft := { needs := [name] }
  exact (Attempt.Mirrors.foldlM (fun w e => Draft.feed_mirrors w name h e) _ start).bind fun w =>
    Draft.finish_mirrors w name _

theorem Library.afresh_mirrors (l : Library) (c : Capabilities) (n : Numbering) (chain : Chain) (name : PackageName)
    (importer : Option Position) : Attempt.Mirrors (List.map (.relocate r)) (Yield.relocate r)
      (l.afresh c n chain name importer)
      (l.afresh c (n.rename r) (chain.relocate r) name (importer.map (.rename r))) := by
  rw [afresh, afresh, Chain.names_relocate]
  by_cases hchain : name ∈ chain.names
  · have hcycle : Chain.cycle (chain.relocate r) name (importer.map (.rename r)) = _ := chain.cycle_relocate r name importer
    rw [dif_pos hchain, dif_pos hchain, hcycle]
    exact .error [Diagnostic.circularImport (chain.cycle name importer) importer]
  · rw [dif_neg hchain, dif_neg hchain]
    split
    · exact .error [Diagnostic.resolution ⟨.packageNonexistent name, importer⟩]
    · next d hsource =>
      have hreport := Attempt.Mirrors.error (E := List.map (Diagnostic.relocate r)) (g := Yield.relocate r) [d]
      rwa [List.map_singleton, relocate_of_source? hsource] at hreport
    · next text hsource =>
      -- Fewer packages remain for the imports of its file.
      have hmem := mem_names_of_source? c hsource
      refine compileAfresh_mirrors (fun other p => ?_) name text
      have hconcat : Chain.relocate r (chain ++ [(name, importer)]) = chain.relocate r ++ [(name, importer.map (.rename r))] :=
        chain.relocate_concat r name importer
      rw [← hconcat]
      exact afresh_mirrors l c n (chain ++ [(name, importer)]) other p
termination_by ((l.catalog c).remaining chain.names).length
decreasing_by
  rw [Chain.names_concat]
  exact Catalog.length_remaining_lt hmem hchain

end RecordSchema
