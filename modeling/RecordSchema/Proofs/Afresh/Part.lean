import RecordSchema.Proofs.Load.Underway
import RecordSchema.Proofs.Relocation.Same

namespace RecordSchema

variable {c : Capabilities} {t u u' : TypeTable}

lemma Attempt.Safe.ne_fault {ε α : Type} {P : α → Prop} {x : Attempt ε α} (h : Safe P x) (fault : Fault) :
    x ≠ .error (.fault fault) := by
  cases h <;> exact nofun

namespace FileState

variable {f : FileState}

lemma settle_safe (ht : t.Positive) (i : Identifier) (package : PackageName) {d : Definition Target}
    (h : d.body.Bound t) : (f.settle c t i package d).Safe fun found =>
      ∀ m ∈ found.2.memberTypes, Admitted c t m.1 m.2 :=
  ((Check.declaration_safe ht i package d h).retell _).bind fun _ hr =>
    ((Attempt.Safe.ofError (P := fun _ => True) fun _ _ => trivial).retell _).bind fun _ _ => .ok hr.2.2.2.2

end FileState

structure TypeTable.PartOf (u t : TypeTable) : Prop where
  subset : u.declarations ⊆ t.declarations
  mentions : ∀ d ∈ u.declarations, ∀ mention ∈ d.mentions, ∃ e ∈ u.declarations, mention = (e.target, e.bits)

namespace TypeTable.PartOf

lemma empty (t : TypeTable) : ({} : TypeTable).PartOf t where
  subset := List.nil_subset _
  mentions := by rintro d ⟨⟩

lemma mono {t' : TypeTable} (h : u.PartOf t) (ht : t.declarations ⊆ t'.declarations) : u.PartOf t' where
  subset := List.Subset.trans h.subset ht
  mentions := h.mentions

lemma append (h : u.PartOf t) (h' : u'.PartOf t) : TypeTable.PartOf ⟨u.declarations ++ u'.declarations⟩ t where
  subset := List.append_subset.mpr ⟨h.subset, h'.subset⟩
  mentions d hd mention hm := by
    rcases List.mem_append.mp hd with hd | hd
    · obtain ⟨e, he, heq⟩ := h.mentions d hd mention hm
      exact ⟨e, List.mem_append_left _ he, heq⟩
    · obtain ⟨e, he, heq⟩ := h'.mentions d hd mention hm
      exact ⟨e, List.mem_append_right _ he, heq⟩

lemma declare {d : Declaration} (h : u.PartOf t) (hd : d ∈ t.declarations)
    (hadmitted : ∀ m ∈ d.memberTypes, Admitted c u m.1 m.2) : TypeTable.PartOf ⟨u.declarations ++ [d]⟩ t where
  subset := List.append_subset.mpr ⟨h.subset, by simpa using hd⟩
  mentions e he mention hm := by
    rcases List.mem_append.mp he with he | he
    · obtain ⟨e', he', heq⟩ := h.mentions e he mention hm
      exact ⟨e', List.mem_append_left _ he', heq⟩
    · rw [List.mem_singleton.mp he] at hm
      obtain ⟨m, hmember, hm⟩ := List.mem_flatMap.mp hm
      obtain ⟨e', he', heq⟩ := (hadmitted m hmember).mentions h.mentions mention hm
      exact ⟨e', List.mem_append_left _ he', heq⟩

lemma find?_eq (h : u.PartOf t) (ht : t.Grown c) {d : Declaration} (hd : d ∈ u.declarations) :
    u.find? d.identifier = some d := by
  obtain ⟨e, he⟩ := Option.ne_none_iff_exists'.mp fun hnone : u.find? d.identifier = none =>
    List.find?_eq_none.mp hnone d hd (decide_eq_true rfl)
  obtain ⟨hmem, hi⟩ := mem_of_find? he
  have hsame := ht.find?_eq e (h.subset hmem)
  rw [hi, ht.find?_eq d (h.subset hd)] at hsame
  rw [he, hsame]

lemma closed (h : u.PartOf t) (ht : t.Grown c) : u.Closed where
  find?_eq d hd := h.find?_eq ht hd
  member d hd name target bits hm := by
    obtain ⟨placement, hmember⟩ := Declaration.mem_memberTypes_of_memberType? hm
    obtain ⟨e, he, heq⟩ := h.mentions d hd _ (Declaration.mem_mentions hmember (List.mem_singleton_self (target, bits)))
    cases heq
    exact ⟨e, h.find?_eq ht he⟩

lemma positive (h : u.PartOf t) (ht : t.Grown c) : u.Positive :=
  fun d hd => ht.positive d (h.subset hd)

lemma within (h : u.PartOf t) (ht : t.Grown c) : u.Within t := by
  intro i d hd
  obtain ⟨hmem, rfl⟩ := mem_of_find? hd
  exact ht.find?_eq d (h.subset hmem)

variable {f : FileState}

lemma effect_eq (h : u.PartOf t) (ht : t.Grown c) (hs : f.scope.Registered u)
    (ho : f.collector.opened = f.scope.current?) (e : Expr) : f.effect c t e = f.effect c u e :=
  ((h.within ht).effect_eq_or_fault f e).resolve_right fun ⟨fault, hfault⟩ =>
    (FileState.effect_safe (h.closed ht) hs ho e).ne_fault fault hfault

lemma settle_eq (h : u.PartOf t) (ht : t.Grown c) (i : Identifier) (package : PackageName) {d : Definition Target}
    (hd : d.body.Bound u) : f.settle c t i package d = f.settle c u i package d :=
  ((h.within ht).settle_eq_or_fault f i package d).resolve_right fun ⟨fault, hfault⟩ =>
    (FileState.settle_safe (h.positive ht) i package hd).ne_fault fault hfault

end TypeTable.PartOf

end RecordSchema
