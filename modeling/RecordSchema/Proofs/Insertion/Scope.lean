import RecordSchema.Proofs.Afresh.Kept
import RecordSchema.Proofs.Check.Wider
import RecordSchema.Proofs.Relocation.Nowhere

namespace RecordSchema

def AlikeBut (i : Identifier) (ds ds' : List Declaration) : Prop :=
  (ds'.filter (·.identifier ≠ i)).map (Declaration.relocate .nowhere) = ds.map (Declaration.relocate .nowhere)

namespace AlikeBut

variable {i : Identifier} {ds ds' es es' : List Declaration} {d d' : Declaration}

lemma nil : AlikeBut i [] [] := rfl

lemma append (h : AlikeBut i ds ds') (h' : AlikeBut i es es') : AlikeBut i (ds ++ es) (ds' ++ es') := by
  rw [AlikeBut, List.filter_append, List.map_append, List.map_append, h, h']

lemma singleton (hd : d'.relocate .nowhere = d.relocate .nowhere) (hi : d'.identifier ≠ i) : AlikeBut i [d] [d'] := by
  simp [AlikeBut, hi, hd]

lemma concat_new (h : AlikeBut i ds ds') (hi : d.identifier = i) : AlikeBut i ds (ds' ++ [d]) := by
  rw [AlikeBut, List.filter_append, List.filter_cons_of_neg (by simp [hi]), List.filter_nil, List.append_nil, h]

lemma exists_mem (h : AlikeBut i ds ds') (hd : d ∈ ds) :
    ∃ d' ∈ ds', d'.identifier ≠ i ∧ d'.relocate .nowhere = d.relocate .nowhere := by
  have hmem : d.relocate .nowhere ∈ ds.map (Declaration.relocate .nowhere) := List.mem_map_of_mem hd
  rw [← h] at hmem
  obtain ⟨d', hd', heq⟩ := List.mem_map.mp hmem
  obtain ⟨hmem', hi⟩ := List.mem_filter.mp hd'
  exact ⟨d', hmem', of_decide_eq_true hi, heq⟩

lemma carries {t t' : TypeTable} (h : AlikeBut i t.declarations t'.declarations) :
    t.Carries .nowhere (t'.relocate .nowhere) := by
  intro j d hd
  obtain ⟨d', _, hi, heq⟩ := h.exists_mem (List.mem_of_find?_eq_some hd)
  have hj : j ≠ i := by
    have hfound : d.identifier = j := by simpa using List.find?_some hd
    rwa [← hfound, ← Declaration.identifier_eq_of_nowhere heq]
  have hsame : (t'.declarations.filter (·.identifier ≠ i)).find? (·.identifier = j) = t'.find? j := by
    rw [List.find?_filter, TypeTable.find?]
    congr 1
    funext e
    by_cases he : e.identifier = j <;> simp [he, hj]
  have hmoved (es : List Declaration) : (es.map (Declaration.relocate .nowhere)).find? (·.identifier = j) =
      (es.find? (·.identifier = j)).map (Declaration.relocate .nowhere) := find?_map_of_eq (fun _ => rfl) es
  have hfind := congrArg (List.find? (·.identifier = j)) h
  rw [hmoved, hmoved, hsame] at hfind
  change (t'.find? j).map _ = (t.find? j).map _ at hfind
  rw [hd] at hfind
  exact (TypeTable.find?_relocate .nowhere t' j).trans hfind

end AlikeBut

namespace Package

structure Gains (i : Identifier) (q q' : Package) : Prop where
  name_eq : q'.name = q.name
  declarations : AlikeBut i q.declarations q'.declarations

def Numbered (n : Numbering) (q : Package) : Prop :=
  ∀ d ∈ q.declarations, d.identifier = n.identifier q.name d.name

variable {n : Numbering} {i : Identifier} {q q' : Package} {name : TypeName} {d : Declaration}

lemma Gains.find? (h : q.Gains i q') (hn : q'.Numbered n) (hd : q.find? name = some d) :
    ∃ d', q'.find? name = some d' ∧ d'.identifier = d.identifier := by
  obtain ⟨d₁, hmem, _, heq⟩ := h.declarations.exists_mem (List.mem_of_find?_eq_some hd)
  have hname : d₁.name = name := by
    have hfound : d.name = name := by simpa using List.find?_some hd
    exact (Declaration.name_eq_of_nowhere heq).trans hfound
  obtain ⟨d', hd'⟩ : ∃ d', q'.find? name = some d' :=
    Option.isSome_iff_exists.mp (List.find?_isSome.mpr ⟨d₁, hmem, decide_eq_true hname⟩)
  have hname' : d'.name = name := by simpa using List.find?_some hd'
  -- Of declarations with one name all have the same number.
  have hnumber : d'.identifier = d₁.identifier := by
    rw [hn d' (List.mem_of_find?_eq_some hd'), hn d₁ hmem, hname', hname]
  exact ⟨d', hd', hnumber.trans (Declaration.identifier_eq_of_nowhere heq)⟩

end Package

namespace Scope

structure Gains (i : Identifier) (s s' : Scope) : Prop where
  state_eq : s'.state = s.state
  qualifiers_eq : s'.qualifiers = s.qualifiers
  packages : List.Forall₂ (Package.Gains i) s.packages s'.packages
  types : s'.types.pairs.filter (·.2 ≠ i) = s.types.pairs

structure Numbered (n : Numbering) (name : PackageName) (s : Scope) : Prop where
  types : ∀ entry ∈ s.types.pairs, entry.2 = n.identifier name entry.1
  packages : ∀ q ∈ s.packages, q.Numbered n

structure Within (s s' : Scope) : Prop where
  state_eq : s'.state = s.state
  find : ∀ {m p target}, s.find m p = .ok target → s'.find m p = .ok target

variable {n : Numbering} {i : Identifier} {name : PackageName} {s s' : Scope}

lemma requirePackage_congr (h : s'.state = s.state) (p : Position) : s'.requirePackage p = s.requirePackage p := by
  rw [requirePackage, requirePackage, current?, current?, h]

namespace Gains

lemma type? (h : s.Gains i s') {type : TypeName} {j : Identifier} (hj : s.type? type = some j) :
    s'.type? type = some j := by
  rw [type?_eq_some_iff, ← h.types] at hj
  exact type?_eq_some_iff.mpr (List.mem_of_mem_filter hj)

lemma type?_eq_none (h : s.Gains i s') (hn : s'.Numbered n name) {type : TypeName} (hi : n.identifier name type ≠ i)
    (hfree : s.type? type = none) : s'.type? type = none := by
  refine Option.eq_none_iff_forall_ne_some.mpr fun j hj => ?_
  have hmem := type?_eq_some_iff.mp hj
  have hbound : (type, j) ∈ s.types.pairs := by
    rw [← h.types]
    refine List.mem_filter.mpr ⟨hmem, decide_eq_true ?_⟩
    rw [hn.types _ hmem]
    exact hi
  cases hfree.symm.trans (type?_eq_some_iff.mpr hbound)

lemma imported? (h : s.Gains i s') (qualifier : Segment) :
    Option.Rel (Package.Gains i) (s.imported? qualifier) (s'.imported? qualifier) := by
  rw [Scope.imported?, Scope.imported?, h.qualifiers_eq]
  cases s.qualifiers.value? qualifier with
  | none => exact .none
  | some name =>
    have hpackages := h.packages
    change Option.Rel _ (s.packages.find? (·.name = name)) (s'.packages.find? (·.name = name))
    generalize s.packages = qs at hpackages
    generalize s'.packages = qs' at hpackages
    induction hpackages with
    | nil => exact .none
    | cons hq _ ih =>
      rw [List.find?_cons, List.find?_cons, hq.name_eq]
      split
      · exact .some hq
      · exact ih

theorem within (h : s.Gains i s') (hn : s'.Numbered n name) : s.Within s' where
  state_eq := h.state_eq
  find {m p target} hfind := by
    rw [Scope.find] at hfind ⊢
    cases hm : m.qualifier with
    | none =>
      rw [hm] at hfind
      obtain ⟨package, hpackage, hfind⟩ := exists_of_bind_eq_ok hfind
      dsimp only
      rw [requirePackage_congr h.state_eq, hpackage]
      split at hfind
      · next j hj =>
        rw [← hfind]
        simp only [bind, Except.bind, h.type? hj]
      · cases hfind
    | some qualifier =>
      rw [hm] at hfind
      dsimp only at hfind ⊢
      have himported := h.imported? qualifier
      generalize hx : s.imported? qualifier = x at hfind himported
      generalize hx' : s'.imported? qualifier = x' at himported
      cases himported with
      | none => cases hfind
      | @some q q' hq =>
        dsimp only at hfind ⊢
        split at hfind
        · next d hd =>
          have hmem : q' ∈ s'.packages := mem_packages_of_imported? hx'
          obtain ⟨d', hd', hnumber⟩ := hq.find? (hn.packages q' hmem) hd
          rw [hd']
          dsimp only
          rw [hnumber, hq.name_eq]
          exact hfind
        · cases hfind

end Gains

lemma not_mem_values_of_defineType {d : Declaration} (h : s.defineType d = .ok s') :
    d.identifier ∉ s.types.values := by
  obtain ⟨types, hinsert, _⟩ := exists_of_defineType h
  rw [OneToOne.insert] at hinsert
  split at hinsert
  · cases hinsert
  · split at hinsert
    · cases hinsert
    · assumption

lemma Gains.defineType {d d' : Declaration} {scope : Scope} (h : s.Gains i s') (hn : s'.Numbered n name)
    (hd : d'.relocate .nowhere = d.relocate .nowhere) (hnumber : d'.identifier = n.identifier name d'.name)
    (hi : d'.identifier ≠ i) (hscope : s.defineType d = .ok scope) :
    ∃ scope', s'.defineType d' = .ok scope' ∧ scope.Gains i scope' ∧ scope'.Numbered n name := by
  have hname : d'.name = d.name := Declaration.name_eq_of_nowhere hd
  have hfree : s.type? d'.name = none := by
    rw [hname]
    exact OneToOne.value?_eq_none_iff.mpr (not_mem_keys_of_defineType hscope)
  have hkey : d'.name ∉ s'.types.keys :=
    OneToOne.value?_eq_none_iff.mp (h.type?_eq_none hn (hnumber ▸ hi) hfree)
  have hvalue : d'.identifier ∉ s'.types.values := by
    intro hmem
    obtain ⟨entry, he, heq⟩ := List.mem_map.mp hmem
    have hbound : entry ∈ s.types.pairs := by
      rw [← h.types]
      exact List.mem_filter.mpr ⟨he, decide_eq_true (heq ▸ hi)⟩
    refine not_mem_values_of_defineType hscope ?_
    rw [← Declaration.identifier_eq_of_nowhere hd, ← heq]
    exact List.mem_map_of_mem hbound
  obtain ⟨types, htypes, hpairs⟩ := OneToOne.exists_insert_of_fresh hkey hvalue
  have hdefined : s'.defineType d' = .ok { s' with types } := by
    rw [Scope.defineType, htypes]
    rfl
  refine ⟨{ s' with types }, hdefined, ?_, ⟨fun entry he => ?_, hn.packages⟩⟩
  · have hnew := pairs_of_defineType hscope
    obtain ⟨_, _, rfl⟩ := exists_of_defineType hscope
    refine ⟨h.state_eq, h.qualifiers_eq, h.packages, ?_⟩
    rw [hnew, hpairs, List.filter_append, h.types, ← hname, ← Declaration.identifier_eq_of_nowhere hd]
    simp [hi]
  · rw [hpairs] at he
    rcases List.mem_append.mp he with he | he
    · exact hn.types entry he
    · rw [List.mem_singleton.mp he]
      exact hnumber

end Scope

namespace Attempt

variable {ε α β : Type}

lemma Follows.ofError {x y : Except ε α} (h : ∀ a, x = .ok a → y = .ok a) : (ofError x).Follows (ofError y) := by
  cases x with
  | ok a =>
    rw [h a rfl]
    exact .refl _
  | error e => exact .error _ _

lemma Follows.mapM {f g : β → Attempt ε α} (h : ∀ x, (f x).Follows (g x)) :
    ∀ items : List β, (items.mapM f).Follows (items.mapM g)
  | [] => .refl _
  | x :: rest => by
    rw [List.mapM_cons, List.mapM_cons]
    exact (h x).bind fun _ => (mapM h rest).bind_left _

end Attempt

section

variable {t : TypeTable} {s s' : Scope}

lemma Scope.Within.find_follows (h : s.Within s') (m : Mention) (p : Position) :
    (Attempt.ofError (s.find m p)).Follows (Attempt.ofError (s'.find m p)) :=
  .ofError fun _ => h.find

mutual

lemma TypeExpr.resolve_follows (h : s.Within s') : ∀ type : TypeExpr Mention,
    (type.resolve t s).Follows (type.resolve t s')
  | .integer _ bits _ => (SizeExpr.resolve_follows h bits).bind_left _
  | .float bits _ => (SizeExpr.resolve_follows h bits).bind_left _
  | .vector element count _ =>
    (TypeExpr.resolve_follows h element).bind fun _ => (SizeExpr.resolve_follows h count).bind_left _
  | .matrix element width height _ =>
    (TypeExpr.resolve_follows h element).bind fun _ => (SizeExpr.resolve_follows h width).bind fun _ =>
      (SizeExpr.resolve_follows h height).bind_left _
  | .booleanSet octets _ _ => (SizeExpr.resolve_follows h octets).bind_left _
  | .string octets _ _ => (SizeExpr.resolve_follows h octets).bind_left _
  | .reference mention p => (h.find_follows mention p).bind_left _
  | .typeOf mention mp _ _ => (h.find_follows mention mp).bind_left _

lemma SizeExpr.resolve_follows (h : s.Within s') : ∀ size : SizeExpr Mention,
    (size.resolve t s).Follows (size.resolve t s')
  | .constant _ _ => .refl _
  | .inOctets of _ => (TypeExpr.resolve_follows h of).bind_left _
  | .inBits of _ => (TypeExpr.resolve_follows h of).bind_left _

end

lemma RecordItem.resolve_follows (h : s.Within s') (item : RecordItem Mention) :
    (item.resolve t s).Follows (item.resolve t s') := by
  cases item with
  | field name type p => exact (type.resolve_follows h).bind_left _
  | padding octets p => exact (octets.resolve_follows h).bind_left _

lemma PackedItem.resolve_follows (h : s.Within s') (item : PackedItem Mention) :
    (item.resolve t s).Follows (item.resolve t s') := by
  cases item with
  | field name type p => exact (type.resolve_follows h).bind_left _
  | padding bits p => exact (bits.resolve_follows h).bind_left _

lemma Body.resolve_follows (h : s.Within s') (body : Body Mention) : (body.resolve t s).Follows (body.resolve t s') := by
  cases body with
  | record items => exact (Attempt.Follows.mapM (fun item => item.resolve_follows h) items).bind_left _
  | packed items => exact (Attempt.Follows.mapM (fun item => item.resolve_follows h) items).bind_left _
  | union cases => exact (Attempt.Follows.mapM (fun item => (item.type.resolve_follows h).bind_left _) cases).bind_left _

theorem Definition.resolve_follows {d : Definition Mention} (h : s.Within s')
    (hfree : s.type? d.name = none → s'.type? d.name = none) : (d.resolve t s).Follows (d.resolve t s') := by
  rw [Definition.resolve, Definition.resolve, Scope.requirePackage_congr h.state_eq]
  refine .bind_right _ fun package => ?_
  cases hname : s.type? d.name with
  | some j => exact .error _ _
  | none =>
    rw [hfree hname]
    exact (d.body.resolve_follows h).bind_left _

end

end RecordSchema
