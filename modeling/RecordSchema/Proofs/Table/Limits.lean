import RecordSchema.Proofs.Table.Grown

namespace RecordSchema

/-- The width of an integer is among those for its place. -/
def Capabilities.Allows (c : Capabilities) (placement : Placement) (bits : Nat) : Prop :=
  (c.integers placement).contains bits = true

def Capabilities.Packable (c : Capabilities) (bits : Nat) : Prop :=
  0 < bits ∧ ∃ total, bits ≤ total ∧ c.packedTotals.contains total = true

/-- The width of an integer is among those for the place where it was written out. It stands in another sort of
place only when it can come from, or go into, a packed record. -/
def Capabilities.Tolerates (c : Capabilities) (placement : Placement) (bits : Nat) : Prop :=
  ∃ origin, c.Allows origin bits ∧ (origin = placement ∨ c.Packable bits)

/-- Both sorts of places take the same integers, as far as one could get from one into the other. -/
def Capabilities.Uniform (c : Capabilities) : Prop :=
  ∀ bits, c.Packable bits → ∀ placement other, c.Allows placement bits → c.Allows other bits

def DataType.Supported (c : Capabilities) (integers : Placement → Nat → Prop) : Placement → DataType → Prop
  | placement, integer _ bits => integers placement bits
  | _, float bits => c.recordFloats.contains bits = true
  | _, vector element count =>
    element.Supported c integers .record ∧ (c.vectors element.isInteger).contains count = true
  | _, matrix element width height =>
    element.Supported c integers .record ∧ (c.matrices element.isInteger).contains width height = true
  | _, booleanSet _ octets => c.booleanSets.contains octets = true
  | _, string encoding octets => c.strings.contains octets = true ∧ c.encodings.contains encoding = true
  | _, declared .. => True

structure Declaration.Supported (c : Capabilities) (integers : Placement → Nat → Prop) (d : Declaration) :
    Prop where
  members : ∀ m ∈ d.memberTypes, m.2.Supported c integers m.1
  total : ∀ p, d.layout = .packed p → p.members ≠ [] → c.packedTotals.contains p.bits = true

variable {c : Capabilities} {integers : Placement → Nat → Prop} {t : TypeTable}

lemma DataType.Supported.mono {integers' : Placement → Nat → Prop}
    (h : ∀ placement bits, integers placement bits → integers' placement bits) :
    ∀ {placement : Placement} {type : DataType},
      type.Supported c integers placement → type.Supported c integers' placement
  | _, integer .., hs => h _ _ hs
  | _, float _, hs => hs
  | _, vector .., hs => ⟨mono h hs.1, hs.2⟩
  | _, matrix .., hs => ⟨mono h hs.1, hs.2⟩
  | _, booleanSet .., hs => hs
  | _, string .., hs => hs
  | _, declared .., hs => hs

lemma DataType.Supported.move {placement other : Placement} {type : DataType}
    (h : type.Supported c integers placement) (hi : type.isInteger = true → integers other type.bits) :
    type.Supported c integers other := by
  cases type with
  | integer kind bits => exact hi rfl
  | _ => exact h

lemma Capabilities.Tolerates.allows (h : c.Uniform) {placement : Placement} {bits : Nat}
    (ht : c.Tolerates placement bits) : c.Allows placement bits := by
  obtain ⟨origin, hallows, rfl | hpackable⟩ := ht
  · exact hallows
  · exact h bits hpackable origin placement hallows

lemma Declaration.Supported.of_uniform (h : c.Uniform) {d : Declaration} (hd : d.Supported c c.Tolerates) :
    d.Supported c c.Allows where
  members m hm := (hd.members m hm).mono fun _ _ => Capabilities.Tolerates.allows h
  total := hd.total

lemma Layout.Laid.packable {l : Layout} (h : l.Laid c.packedTotals) {type : DataType}
    (hm : (.packed, type) ∈ l.memberTypes) : type.isInteger = true ∧ c.Packable type.bits := by
  cases l with
  | packed p =>
    obtain ⟨f, hf, heq⟩ := List.mem_map.mp hm
    cases heq
    obtain ⟨hinteger, hwidth⟩ := h.integers f hf
    obtain ⟨m, hmem, hfield⟩ := List.mem_filterMap.mp hf
    have hrange : m.range = f.range := by
      cases m with
      | field g => cases hfield; rfl
      | padding range p => cases hfield
    have hupper := h.stack.upper_lt m hmem
    rw [hrange] at hupper
    refine ⟨hinteger, ?_, p.bits, ?_, h.total (List.ne_nil_of_mem hmem)⟩
    · rw [← hwidth]
      exact Nat.succ_pos _
    · rw [← hwidth, Interval.width]
      omega
  | record r =>
    obtain ⟨f, _, heq⟩ := List.mem_map.mp hm
    cases heq
  | union u =>
    obtain ⟨f, _, heq⟩ := List.mem_map.mp hm
    cases heq

lemma Admitted.supported (ht : ∀ d ∈ t.declarations, d.layout.Laid c.packedTotals ∧ d.Supported c c.Tolerates)
    {placement : Placement} {type : DataType} (h : Admitted c t placement type)
    (hp : placement = .packed → type.isInteger = true → c.Packable type.bits) :
    type.Supported c c.Tolerates placement := by
  induction h with
  | integer _ supported => exact ⟨_, supported, .inl rfl⟩
  | float _ supported => exact supported
  | vector _ _ supported ih => exact ⟨ih nofun, supported⟩
  | matrix _ _ supported ih => exact ⟨ih nofun, supported⟩
  | booleanSet supported _ _ => exact supported
  | string supported encodable => exact ⟨supported, encodable⟩
  | declared _ => trivial
  | @member placement d name type registered found =>
    obtain ⟨origin, hm⟩ := Declaration.mem_memberTypes_of_memberType? found
    obtain ⟨hlaid, hsupported⟩ := ht d registered
    have horigin := hsupported.members _ hm
    refine horigin.move fun hinteger => ?_
    have hwidth : c.Tolerates origin type.bits := by
      cases type with
      | integer kind bits => exact horigin
      | _ => cases hinteger
    -- The width was judged where the integer was written out, and every way from there to a place of the other
    -- sort leads through a packed record.
    obtain ⟨first, hallows, rfl | hpackable⟩ := hwidth
    · refine ⟨first, hallows, ?_⟩
      cases first with
      | packed => exact .inr (hlaid.packable hm).2
      | record =>
        cases placement with
        | record => exact .inl rfl
        | packed => exact .inr (hp rfl hinteger)
    · exact ⟨first, hallows, .inr hpackable⟩

namespace TypeTable.Grown

lemma supported (h : Grown c t) : ∀ d ∈ t.declarations, d.Supported c c.Tolerates := by
  induction h with
  | empty => exact fun d hd => by cases hd
  | @put t d grown _ laid admitted ih =>
    intro e he
    rcases List.mem_append.mp he with he | he
    · exact ih e he
    · cases List.mem_singleton.mp he
      have hearlier : ∀ d ∈ t.declarations, d.layout.Laid c.packedTotals ∧ d.Supported c c.Tolerates :=
        fun d hd => ⟨grown.laid d hd, ih d hd⟩
      refine ⟨fun m hm => (admitted m hm).supported hearlier fun hplacement _ => ?_, fun p hp hne => ?_⟩
      · obtain ⟨placement, type⟩ := m
        cases hplacement
        exact (laid.packable hm).2
      · rw [hp] at laid
        exact laid.total hne

end TypeTable.Grown

end RecordSchema
