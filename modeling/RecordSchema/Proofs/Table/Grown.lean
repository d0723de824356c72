import RecordSchema.Proofs.Check.Declaration

namespace RecordSchema

def DataType.mentions : DataType → List (Target × Nat)
  | vector element _ => element.mentions
  | matrix element _ _ => element.mentions
  | declared target bits => [(target, bits)]
  | _ => []

def Declaration.mentions (d : Declaration) : List (Target × Nat) :=
  d.memberTypes.flatMap fun m => m.2.mentions

lemma Declaration.mem_mentions {d : Declaration} {placement : Placement} {type : DataType}
    {mention : Target × Nat} (hm : (placement, type) ∈ d.memberTypes) (h : mention ∈ type.mentions) :
    mention ∈ d.mentions :=
  List.mem_flatMap.mpr ⟨_, hm, h⟩

namespace TypeTable

/-- Every new declaration has an identifier above all earlier ones and was checked against the table of
before. -/
inductive Grown (c : Capabilities) : TypeTable → Prop
  | empty : Grown c .empty
  | put {t : TypeTable} {d : Declaration} (grown : Grown c t)
      (above : ∀ e ∈ t.declarations, e.identifier.value < d.identifier.value)
      (laid : d.layout.Laid c.packedTotals) (admitted : ∀ m ∈ d.memberTypes, Admitted c t m.1 m.2) :
      Grown c ⟨t.declarations ++ [d]⟩

variable {c : Capabilities} {t : TypeTable}

lemma find?_put {d : Declaration} (h : t.find? d.identifier = none) :
    (TypeTable.mk (t.declarations ++ [d])).find? d.identifier = some d := by
  rw [find?] at h ⊢
  rw [List.find?_append, h]
  simp

lemma find?_put_of_find? {d e : Declaration} {i : Identifier} (h : t.find? i = some e) :
    (TypeTable.mk (t.declarations ++ [d])).find? i = some e := by
  rw [find?] at h ⊢
  rw [List.find?_append, h]
  rfl

lemma find?_eq_none_of_above {i : Identifier} (h : ∀ e ∈ t.declarations, e.identifier.value < i.value) :
    t.find? i = none := by
  rw [find?, List.find?_eq_none]
  intro e he hi
  have hlt := h e he
  rw [of_decide_eq_true hi] at hlt
  exact Nat.lt_irrefl _ hlt

lemma put_eq_ok {d : Declaration} (h : ∀ e ∈ t.declarations, e.identifier.value < d.identifier.value) :
    t.put d = .ok ⟨t.declarations ++ [d]⟩ := by
  rw [put, find?_eq_none_of_above h]

end TypeTable

lemma Admitted.mentions {c : Capabilities} {t : TypeTable} {placement : Placement} {type : DataType}
    (ht : ∀ d ∈ t.declarations, ∀ mention ∈ d.mentions, ∃ e ∈ t.declarations, mention = (e.target, e.bits))
    (h : Admitted c t placement type) :
    ∀ mention ∈ type.mentions, ∃ e ∈ t.declarations, mention = (e.target, e.bits) := by
  induction h with
  | vector _ _ _ ih => exact ih
  | matrix _ _ _ ih => exact ih
  | @declared _ d registered => exact fun mention hm => ⟨d, registered, List.mem_singleton.mp hm⟩
  | member registered found =>
    obtain ⟨placement, hm⟩ := Declaration.mem_memberTypes_of_memberType? found
    exact fun mention hmention => ht _ registered _ (Declaration.mem_mentions hm hmention)
  | _ => exact fun mention hm => by cases hm

namespace TypeTable.Grown

variable {c : Capabilities} {t : TypeTable}

lemma find?_eq (h : Grown c t) : ∀ d ∈ t.declarations, t.find? d.identifier = some d := by
  induction h with
  | empty => exact fun d hd => by cases hd
  | put _ above _ _ ih =>
    intro e he
    rcases List.mem_append.mp he with he | he
    · exact find?_put_of_find? (ih e he)
    · rw [List.mem_singleton.mp he]
      exact find?_put (find?_eq_none_of_above above)

lemma laid (h : Grown c t) : ∀ d ∈ t.declarations, d.layout.Laid c.packedTotals := by
  induction h with
  | empty => exact fun d hd => by cases hd
  | put _ _ laid _ ih =>
    intro e he
    rcases List.mem_append.mp he with he | he
    · exact ih e he
    · exact List.mem_singleton.mp he ▸ laid

lemma positive (h : Grown c t) : t.Positive := by
  induction h with
  | empty => exact fun d hd => by cases hd
  | put _ _ _ admitted ih =>
    intro e he m hm hi
    rcases List.mem_append.mp he with he | he
    · exact ih e he m hm hi
    · rw [List.mem_singleton.mp he] at hm
      exact (admitted m hm).positive ih hi

lemma mentions (h : Grown c t) : ∀ d ∈ t.declarations, ∀ mention ∈ d.mentions,
    ∃ e ∈ t.declarations, mention = (e.target, e.bits) ∧ e.identifier.value < d.identifier.value := by
  induction h with
  | empty => exact fun d hd => by cases hd
  | put _ above _ admitted ih =>
    intro d hd mention hmention
    rcases List.mem_append.mp hd with hd | hd
    · obtain ⟨e, he, hrest⟩ := ih d hd mention hmention
      exact ⟨e, List.mem_append_left _ he, hrest⟩
    · rw [List.mem_singleton.mp hd] at hmention ⊢
      obtain ⟨m, hm, hmention⟩ := List.mem_flatMap.mp hmention
      obtain ⟨e, he, heq⟩ := (admitted m hm).mentions (fun d hd mention hmention => by
        obtain ⟨e, he, heq, _⟩ := ih d hd mention hmention
        exact ⟨e, he, heq⟩) mention hmention
      exact ⟨e, List.mem_append_left _ he, heq, above e he⟩

lemma closed (h : Grown c t) : t.Closed where
  find?_eq := h.find?_eq
  member d hd name target bits hm := by
    obtain ⟨placement, hmember⟩ := Declaration.mem_memberTypes_of_memberType? hm
    have hmention := Declaration.mem_mentions hmember (List.mem_singleton_self (target, bits))
    obtain ⟨e, he, heq, _⟩ := h.mentions d hd _ hmention
    cases heq
    exact ⟨e, h.find?_eq e he⟩

end TypeTable.Grown

end RecordSchema
