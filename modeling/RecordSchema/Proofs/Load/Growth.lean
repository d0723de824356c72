import RecordSchema.Proofs.Load.Circular
import RecordSchema.Proofs.Load.Reason
import RecordSchema.Proofs.Load.Steps

/-! Whatever is loaded, and however it ends, nothing that a store holds is lost or replaced. -/

namespace RecordSchema

variable {c : Capabilities} {l : Library} {E : List Package → Package → Prop} {chain : Chain} {name : PackageName}
  {importer : Option Position} {s s' s'' : Store}

structure Store.Extends (s s' : Store) : Prop where
  packages : s.packages <+: s'.packages
  nextIdentifier : s.nextIdentifier ≤ s'.nextIdentifier
  types : ∃ added, s'.types.declarations = s.types.declarations ++ added ∧
    ∀ d ∈ added, s.nextIdentifier ≤ d.identifier.value

namespace Store.Extends

lemma refl (s : Store) : s.Extends s :=
  ⟨List.prefix_rfl, Nat.le_refl _, [], by simp, by simp⟩

lemma trans (h : s.Extends s') (h' : s'.Extends s'') : s.Extends s'' := by
  obtain ⟨added, htypes, hadded⟩ := h.types
  obtain ⟨added', htypes', hadded'⟩ := h'.types
  have hnext := h.nextIdentifier
  have hnext' := h'.nextIdentifier
  refine ⟨h.packages.trans h'.packages, by omega, added ++ added', ?_, fun d hd => ?_⟩
  · rw [htypes', htypes, List.append_assoc]
  · rcases List.mem_append.mp hd with hd | hd
    · exact hadded d hd
    · have hle := hadded' d hd
      omega

lemma of_aside (h : s.Aside l s') : s.Extends s' := by
  have hpackages : s.packages ++ [] = s'.packages := by
    rw [h.packages, List.append_nil]
  have htypes : s'.types.declarations = s.types.declarations ++ [] := by
    rw [h.types, List.append_nil]
  exact ⟨⟨[], hpackages⟩, h.nextIdentifier, [], htypes, by simp⟩

lemma of_step (h : Store.Step l E s s') : s.Extends s' := by
  cases h with
  | aside aside => exact of_aside aside
  | @declared d identifier_eq =>
    refine ⟨List.prefix_rfl, Nat.le_succ _, [d], rfl, fun e he => ?_⟩
    rw [List.mem_singleton.mp he, identifier_eq]
  | kept => exact ⟨List.prefix_append _ _, Nat.le_refl _, [], by simp, by simp⟩

lemma of_steps (h : s.Steps l E s') : s.Extends s' := by
  induction h with
  | refl => exact refl s
  | tail _ step ih => exact ih.trans (of_step step)

lemma drained (h : s.Extends s') : s.Extends { s' with diagnostics := [] } :=
  ⟨h.packages, h.nextIdentifier, h.types⟩

lemma package?_eq (h : s.Extends s') {p : Package} (hp : s.package? name = some p) : s'.package? name = some p := by
  obtain ⟨later, hlater⟩ := h.packages
  rw [Store.package?] at hp ⊢
  rw [← hlater, List.find?_append, hp]
  rfl

lemma find?_eq (h : s.Extends s') {i : Identifier} {d : Declaration} (hd : s.types.find? i = some d) :
    s'.types.find? i = some d := by
  obtain ⟨added, htypes, _⟩ := h.types
  rw [TypeTable.find?] at hd ⊢
  rw [htypes, List.find?_append, hd]
  rfl

lemma le_of_find? (h : s.Extends s') {i : Identifier} {d : Declaration} (hd : s'.types.find? i = some d) :
    s.types.find? i = some d ∨ s.nextIdentifier ≤ i.value := by
  obtain ⟨added, htypes, hadded⟩ := h.types
  rw [TypeTable.find?, htypes, List.find?_append, Option.or_eq_some_iff] at hd
  rcases hd with hd | ⟨_, hd⟩
  · exact .inl hd
  · have heq : d.identifier = i := by simpa using List.find?_some hd
    rw [← heq]
    exact .inr (hadded d (List.mem_of_find?_eq_some hd))

end Store.Extends

lemma TypeTable.Grown.nodup {t : TypeTable} (h : Grown c t) : (t.declarations.map Declaration.identifier).Nodup := by
  induction h with
  | empty => exact List.nodup_nil
  | @put t d _ above _ _ ih =>
    rw [List.map_append, List.map_singleton, List.nodup_append]
    refine ⟨ih, List.nodup_singleton _, ?_⟩
    rintro _ hi _ hd rfl
    obtain ⟨e, he, heq⟩ := List.mem_map.mp hi
    have hlt := above e he
    rw [heq, List.mem_singleton.mp hd] at hlt
    omega

/-- Whatever is found in the store `s` is found in `s'`, and is the same. -/
structure Store.Retains (s s' : Store) : Prop where
  packages : ∀ name p, s.package? name = some p → s'.package? name = some p
  types : ∀ i d, s.types.find? i = some d → s'.types.find? i = some d
  nextIdentifier : s.nextIdentifier ≤ s'.nextIdentifier
  added : ∀ i d, s'.types.find? i = some d → s.types.find? i = some d ∨ s.nextIdentifier ≤ i.value

structure Store.Numbered (s : Store) : Prop where
  identifier_eq : ∀ i d, s.types.find? i = some d → d.identifier = i ∧ i.value < s.nextIdentifier
  found : ∀ d ∈ s.types.declarations, s.types.find? d.identifier = some d
  nodup : (s.types.declarations.map Declaration.identifier).Nodup

lemma Store.Extends.retains (h : s.Extends s') : s.Retains s' :=
  ⟨fun _ _ => h.package?_eq, fun _ _ => h.find?_eq, h.nextIdentifier, fun _ _ => h.le_of_find?⟩

lemma Store.Sound.numbered (h : s.Sound c) : s.Numbered where
  identifier_eq i d hd := by
    have heq : d.identifier = i := by simpa using List.find?_some hd
    have hlt := h.below d (List.mem_of_find?_eq_some hd)
    rw [heq] at hlt
    exact ⟨heq, hlt⟩
  found := h.grown.find?_eq
  nodup := h.grown.nodup

namespace Library

lemma load_of_package? {p : Package} (h : s.package? name = some p) (importer : Option Position) :
    ((l.catalog c).load name importer).run s = .ok (.ok p) s := by
  rw [Catalog.load, EStateM.run_bind, EStateM.run_get]
  exact Catalog.loadOn_of_kept h

/-- In whatever state a package is asked for, and whether it can be loaded or not, what was known remains known as it
was, and what is added has identifiers of its own. A package that is known is given as it is, at no cost. -/
theorem load_retains (h : l.Visited c chain s) (name : PackageName) (importer : Option Position) : ∃ r s',
    ((l.catalog c).load name importer).run s = .ok r s' ∧ s.Retains s' ∧ s.Numbered ∧ s'.Numbered ∧
      (∀ p, s.package? name = some p → r = .ok p ∧ s' = s) ∧
      ∀ p, r = .ok p → s'.package? name = some p ∧
        ∀ importer, ((l.catalog c).load name importer).run s' = .ok (.ok p) s' := by
  obtain ⟨hs, ht⟩ := h.sound
  obtain ⟨r, s', hrunOn, hloaded⟩ := l.loadOn_loads c chain name importer s hs ht
  have hrun := (run_load_on ht name importer).trans hrunOn
  have hsteps := steps_of_loadOn hs ht hrunOn
  have hextends := Store.Extends.of_steps hsteps
  have haccounted := (loadOn_accounts hs ht).elim hrunOn
  refine ⟨r, s', hrun, hextends.retains, hs.numbered, hloaded.sound.numbered, fun p hp => ?_, fun p hp => ?_⟩
  · cases (load_of_package? hp importer).symm.trans hrun
    exact ⟨rfl, rfl⟩
  · have hkept := haccounted.kept p hp
    exact ⟨hkept, load_of_package? hkept⟩

def oneOfTwoFails : Library :=
  .texts [(firstOfTwo, "(package-begin a) (record A []) (package-end)"),
    (secondOfTwo, "(package-begin b) (record A []) (record B [(field x (integer unsigned 7))])")]

lemma one_of_two_retains : ∃ s r s', oneOfTwoFails.Visited {} [] s ∧
    ((oneOfTwoFails.catalog {}).load secondOfTwo none).run s = .ok r s' ∧ s.Retains s' ∧ s'.Numbered ∧
      (s.package? firstOfTwo).isSome ∧ s'.types.declarations.map (·.identifier.value) = [0, 1, 3] := by
  let k := oneOfTwoFails.catalog {}
  have hloads : (((k.load firstOfTwo none).result? {}).bind fun first => ((k.load secondOfTwo none).result? first.2).bind
      fun second => ((k.load secondOfTwo none).result? second.2).map fun third =>
        ((second.2.package? firstOfTwo).isSome, third.2.types.declarations.map (·.identifier.value))) =
          some (true, [0, 1, 3]) := by
    decide +kernel
  obtain ⟨first, hfirst, hloads⟩ := Option.bind_eq_some_iff.mp hloads
  obtain ⟨second, hsecond, hloads⟩ := Option.bind_eq_some_iff.mp hloads
  obtain ⟨third, hthird, hresult⟩ := Option.map_eq_some_iff.mp hloads
  obtain ⟨hkept, hidentifiers⟩ := Prod.mk.inj hresult
  have hvisited : oneOfTwoFails.Visited {} [] second.2 :=
    .between (.loaded (.loaded .empty (Run.run_of_result? hfirst)) (Run.run_of_result? hsecond))
  obtain ⟨r, s', hrun, hretains, _, hnumbered, _⟩ := load_retains hvisited secondOfTwo none
  cases (Run.run_of_result? hthird).symm.trans hrun
  exact ⟨second.2, third.1, third.2, hvisited, hrun, hretains, hnumbered, hkept, hidentifiers⟩

end Library

end RecordSchema
