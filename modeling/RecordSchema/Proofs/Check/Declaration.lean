import RecordSchema.Proofs.Check.Admitted

namespace RecordSchema

variable {c : Capabilities} {t : TypeTable}

namespace Check

lemma recordItems_safe : ∀ (items : List (RecordItem Target)) (seen : List FieldName) (offset : Nat),
    (∀ item ∈ items, item.Bound t) → (recordItems c t seen offset items).Safe fun r =>
      RecordMember.Tile offset r.members r.octets ∧ (r.fields.map RecordField.name).Nodup ∧
        ∀ f ∈ r.fields, f.name ∉ seen ∧ Admitted c t .record f.type
  | [], seen, offset, _ => by
    exact .ok ⟨.nil, .nil, by simp [RecordLayout.fields]⟩
  | .field name type p :: rest, seen, offset, h => by
    obtain ⟨htype, hrest⟩ := List.forall_mem_cons.mp h
    change Attempt.Safe _ (if name ∈ seen then _ else _)
    split
    · exact .error _
    · next hfresh =>
      refine (type.check_safe .record htype).bind fun type hadmitted => ?_
      refine (wholeOctets_safe _ _).bind fun octets ⟨hwhole, hoctets⟩ => ?_
      refine (recordItems_safe rest (name :: seen) (offset + octets) hrest).bind fun r hr => .ok ?_
      obtain ⟨htile, hnodup, hfields⟩ := hr
      subst hoctets
      have hcons : (RecordLayout.mk (.field ⟨name, type, offset, p⟩ :: r.members) r.octets).fields =
          ⟨name, type, offset, p⟩ :: r.fields := rfl
      rw [hcons, List.map_cons, List.nodup_cons, List.forall_mem_cons]
      refine ⟨.field hwhole htile, ⟨?_, hnodup⟩, ⟨hfresh, hadmitted⟩, fun f hf => ?_⟩
      · intro hmem
        obtain ⟨f, hf, hname⟩ := List.mem_map.mp hmem
        exact (hfields f hf).1 (hname ▸ List.mem_cons_self)
      · exact ⟨fun hs => (hfields f hf).1 (List.mem_cons_of_mem _ hs), (hfields f hf).2⟩
  | .padding octets p :: rest, seen, offset, h => by
    obtain ⟨hoctets, hrest⟩ := List.forall_mem_cons.mp h
    refine (octets.evaluate_safe hoctets).bind fun octets _ => ?_
    refine (positive_safe _ _ _).bind fun _ hpos => ?_
    refine (recordItems_safe rest seen (offset + octets) hrest).bind fun r hr => .ok ?_
    exact ⟨.padding hpos hr.1, hr.2⟩

lemma caseItems_safe : ∀ (items : List (CaseItem Target)) (seen : List CaseName),
    (∀ item ∈ items, item.type.Bound t) → (caseItems c t seen items).Safe fun cases =>
      cases.length = items.length ∧ (cases.map UnionCase.name).Nodup ∧
        ∀ u ∈ cases, u.name ∉ seen ∧ Admitted c t .record u.type
  | [], seen, _ => by
    rw [caseItems]
    exact .ok ⟨rfl, .nil, by simp⟩
  | item :: rest, seen, h => by
    obtain ⟨htype, hrest⟩ := List.forall_mem_cons.mp h
    rw [caseItems]
    split
    · exact .error _
    · next hfresh =>
      refine (item.type.check_safe .record htype).bind fun type hadmitted => ?_
      refine (caseItems_safe rest (item.name :: seen) hrest).bind fun cases hcases => .ok ?_
      obtain ⟨hlength, hnodup, hall⟩ := hcases
      rw [List.map_cons, List.nodup_cons, List.forall_mem_cons]
      refine ⟨by simp [hlength], ⟨?_, hnodup⟩, ⟨hfresh, hadmitted⟩, fun u hu => ?_⟩
      · intro hmem
        obtain ⟨u, hu, hname⟩ := List.mem_map.mp hmem
        exact (hall u hu).1 (hname ▸ List.mem_cons_self)
      · exact ⟨fun hs => (hall u hu).1 (List.mem_cons_of_mem _ hs), (hall u hu).2⟩

end Check

def PackedSpec.name? : PackedSpec → Option FieldName
  | field name .. => some name
  | padding .. => none

def PackedSpec.Sound (c : Capabilities) (t : TypeTable) (spec : PackedSpec) : Prop :=
  0 < spec.width ∧ ∀ name type width p, spec = .field name type width p →
    Admitted c t .packed type ∧ type.isInteger = true ∧ width = type.bits

def TypeTable.Positive (t : TypeTable) : Prop :=
  ∀ d ∈ t.declarations, ∀ m ∈ d.memberTypes, m.2.isInteger = true → 0 < m.2.bits

lemma Admitted.positive (ht : t.Positive) {placement : Placement} {type : DataType}
    (h : Admitted c t placement type) (hi : type.isInteger = true) : 0 < type.bits := by
  cases h with
  | integer positive _ => exact positive
  | member registered found =>
    obtain ⟨placement, hm⟩ := Declaration.mem_memberTypes_of_memberType? found
    exact ht _ registered _ hm hi
  | _ => cases hi

namespace Check

lemma packedItems_safe (ht : t.Positive) : ∀ (items : List (PackedItem Target)) (seen : List FieldName),
    (∀ item ∈ items, item.Bound t) → (packedItems c t seen items).Safe fun specs =>
      (∀ spec ∈ specs, spec.Sound c t) ∧ (specs.filterMap PackedSpec.name?).Nodup ∧
        ∀ name ∈ specs.filterMap PackedSpec.name?, name ∉ seen
  | [], seen, _ => by
    exact .ok ⟨by simp, .nil, by simp⟩
  | .field name type p :: rest, seen, h => by
    obtain ⟨htype, hrest⟩ := List.forall_mem_cons.mp h
    change Attempt.Safe _ (if name ∈ seen then _ else _)
    split
    · exact .error _
    · next hfresh =>
      refine (type.check_safe .packed htype).bind fun type hadmitted => ?_
      split
      · next hinteger =>
        refine (packedItems_safe ht rest (name :: seen) hrest).bind fun specs hspecs => .ok ?_
        obtain ⟨hsound, hnodup, hnames⟩ := hspecs
        have hcons : (PackedSpec.field name type type.bits p :: specs).filterMap PackedSpec.name? =
            name :: specs.filterMap PackedSpec.name? := rfl
        rw [hcons, List.nodup_cons, List.forall_mem_cons, List.forall_mem_cons]
        refine ⟨⟨⟨hadmitted.positive ht hinteger, ?_⟩, hsound⟩, ⟨?_, hnodup⟩, hfresh, ?_⟩
        · rintro _ _ _ _ ⟨rfl, rfl, rfl, rfl⟩
          exact ⟨hadmitted, hinteger, rfl⟩
        · exact fun hmem => hnames name hmem List.mem_cons_self
        · exact fun other hother hs => hnames other hother (List.mem_cons_of_mem _ hs)
      · exact .error _
  | .padding bits p :: rest, seen, h => by
    obtain ⟨hbits, hrest⟩ := List.forall_mem_cons.mp h
    refine (bits.evaluate_safe hbits).bind fun bits _ => ?_
    refine (positive_safe _ _ _).bind fun _ hpos => ?_
    refine (packedItems_safe ht rest seen hrest).bind fun specs hspecs => .ok ?_
    refine ⟨List.forall_mem_cons.mpr ⟨⟨hpos, ?_⟩, hspecs.1⟩, hspecs.2⟩
    rintro _ _ _ _ ⟨⟩

end Check

namespace PackedLayout

lemma place_cons (spec : PackedSpec) {later : List PackedSpec} {below : PackedLayout}
    (hlater : place later = .ok below) (hpos : 0 < spec.width) : ∃ range : BitRange, range.lower = below.bits ∧
      range.upper + 1 = below.bits + spec.width ∧
      place (spec :: later) = .ok ⟨spec.place range :: below.members, below.bits + spec.width⟩ := by
  have hle : below.bits ≤ below.bits + spec.width - 1 := by omega
  refine ⟨⟨below.bits, below.bits + spec.width - 1, hle⟩, rfl, ?_, ?_⟩
  · change below.bits + spec.width - 1 + 1 = _
    omega
  · rw [place, hlater]
    simp only [bind, Except.bind, BitRange.ofBounds, dif_pos hle, Nat.pos_iff_ne_zero.mp hpos, if_false]

lemma exists_place : ∀ {specs : List PackedSpec}, (∀ spec ∈ specs, 0 < spec.width) →
    ∃ p, place specs = .ok p ∧ PackedMember.Stack p.members p.bits ∧
      List.Forall₂ (fun spec m => ∃ range : BitRange, m = spec.place range ∧ range.width = spec.width)
        specs p.members
  | [], _ => ⟨⟨[], 0⟩, rfl, .nil, .nil⟩
  | spec :: later, h => by
    obtain ⟨hpos, hlater⟩ := List.forall_mem_cons.mp h
    obtain ⟨below, hbelow, hstack, hplaced⟩ := exists_place hlater
    obtain ⟨range, hlower, hupper, hplace⟩ := place_cons spec hbelow hpos
    have hrange : (spec.place range).range = range := by cases spec <;> rfl
    refine ⟨_, hplace, ?_, .cons ⟨range, rfl, ?_⟩ hplaced⟩
    · have hnext : PackedMember.Stack below.members (spec.place range).range.lower := by rwa [hrange, hlower]
      have hcons := PackedMember.Stack.cons hnext
      rwa [hrange, hupper] at hcons
    · rw [Interval.width]
      omega

lemma names_placed {specs : List PackedSpec} {members : List PackedMember}
    (h : List.Forall₂ (fun spec m => ∃ range : BitRange, m = spec.place range ∧ range.width = spec.width)
      specs members) :
    (members.filterMap PackedMember.field?).map PackedField.name = specs.filterMap PackedSpec.name? := by
  induction h with
  | nil => rfl
  | @cons spec m specs members hm _ ih =>
    obtain ⟨range, rfl, -⟩ := hm
    cases spec with
    | field name type width p => exact congrArg (name :: ·) ih
    | padding width p => exact ih

lemma fields_placed {specs : List PackedSpec} {members : List PackedMember}
    (h : List.Forall₂ (fun spec m => ∃ range : BitRange, m = spec.place range ∧ range.width = spec.width)
      specs members) (hs : ∀ spec ∈ specs, spec.Sound c t) :
    ∀ f ∈ members.filterMap PackedMember.field?,
      Admitted c t .packed f.type ∧ f.type.isInteger = true ∧ f.range.width = f.type.bits := by
  induction h with
  | nil => simp
  | @cons spec m specs members hm _ ih =>
    obtain ⟨hsound, hrest⟩ := List.forall_mem_cons.mp hs
    obtain ⟨range, rfl, hwidth⟩ := hm
    cases spec with
    | field name type width p =>
      obtain ⟨hadmitted, hinteger, hbits⟩ := hsound.2 name type width p rfl
      exact List.forall_mem_cons.mpr ⟨⟨hadmitted, hinteger, hwidth.trans hbits⟩, ih hrest⟩
    | padding width p => exact ih hrest

end PackedLayout

namespace UnionLayout

lemma foldl_upsert {cases : List UnionCase} : ∀ {kept : List UnionCase},
    ((kept ++ cases).map UnionCase.name).Nodup →
      cases.foldl (fun kept c => upsert UnionCase.name c kept) kept = kept ++ cases := by
  induction cases with
  | nil => simp
  | cons u rest ih =>
    intro kept h
    have hfresh : ∀ v ∈ kept, v.name ≠ u.name := by
      rw [List.map_append, List.nodup_append] at h
      exact fun v hv => h.2.2 _ (List.mem_map_of_mem hv) _ (by simp)
    rw [List.foldl_cons, upsert_of_fresh hfresh, ih (by simpa using h)]
    simp

lemma cases_ofCases {cases : List UnionCase} (h : (cases.map UnionCase.name).Nodup) :
    (ofCases cases).cases = cases :=
  @foldl_upsert cases [] h

end UnionLayout

namespace Check

lemma layout_safe (ht : t.Positive) (d : Definition Target) (h : d.body.Bound t) :
    (layout c t d).Safe fun l => l.Laid c.packedTotals ∧ ∀ m ∈ l.memberTypes, Admitted c t m.1 m.2 := by
  rw [layout]
  split
  · next items hbody =>
    rw [hbody] at h
    refine (recordItems_safe items [] 0 h).bind fun r ⟨htile, hnodup, hfields⟩ => .ok ⟨⟨htile, hnodup⟩, ?_⟩
    intro m hm
    obtain ⟨f, hf, rfl⟩ := List.mem_map.mp hm
    exact (hfields f hf).2
  · next items hbody =>
    rw [hbody] at h
    refine (packedItems_safe ht items [] h).bind fun specs ⟨hsound, hnodup, _⟩ => ?_
    obtain ⟨p, hp, hstack, hplaced⟩ := PackedLayout.exists_place fun spec hspec => (hsound spec hspec).1
    have hfields := PackedLayout.fields_placed hplaced hsound
    refine (Attempt.Safe.ofFault (P := (· = p)) hp rfl).bind ?_
    rintro _ rfl
    rw [packedTotal]
    split
    · next htotal =>
      refine .ok ⟨⟨hstack, ?_, fun f hf => (hfields f hf).2, fun hne => htotal.resolve_left hne⟩, ?_⟩
      · rw [PackedLayout.fields, PackedLayout.names_placed hplaced]
        exact hnodup
      · intro m hm
        obtain ⟨f, hf, rfl⟩ := List.mem_map.mp hm
        exact (hfields f hf).1
    · exact .error _
  · exact .error _
  · next cases hne hbody =>
    rw [hbody] at h
    refine (caseItems_safe cases [] h).bind fun found ⟨hlength, hnodup, hall⟩ => .ok ?_
    have hcases := UnionLayout.cases_ofCases hnodup
    refine ⟨⟨?_, ?_, ?_⟩, ?_⟩
    · rw [hcases]
      rintro rfl
      exact hne (List.length_eq_zero_iff.mp hlength.symm)
    · rw [hcases]
      rfl
    · rw [hcases]
      exact hnodup
    · intro m hm
      obtain ⟨u, hu, rfl⟩ := List.mem_map.mp hm
      exact (hall u (hcases ▸ hu)).2

lemma declaration_safe (ht : t.Positive) (i : Identifier) (package : PackageName) (d : Definition Target)
    (h : d.body.Bound t) : (declaration c t i package d).Safe fun r =>
      r.identifier = i ∧ r.package = package ∧ r.name = d.name ∧ r.layout.Laid c.packedTotals ∧
        ∀ m ∈ r.memberTypes, Admitted c t m.1 m.2 :=
  (layout_safe ht d h).bind fun _ hl => .ok ⟨rfl, rfl, rfl, hl⟩

lemma label_of_declaration {d : Definition Target} {i : Identifier} {package : PackageName} {r : Declaration}
    (h : declaration c t i package d = .ok r) : r.identifier = i ∧ r.name = d.name := by
  obtain ⟨layout, _, h⟩ := exists_of_bind_eq_ok h
  cases h
  exact ⟨rfl, rfl⟩

end Check

end RecordSchema
