import RecordSchema.Compile.Report
import RecordSchema.Proofs.Afresh.History
import RecordSchema.Proofs.Load.Growth

/-! A batch reports what each of its loads has reported, under the package that was asked for. -/

namespace RecordSchema

variable {l : Library} {c : Capabilities} {name : PackageName} {s s' : Store} {r : Report}

structure Turn where
  name : PackageName
  result : Except LoadError Package
  found : List Diagnostic

namespace Report

def names (r : Report) : List PackageName :=
  r.packages.map Prod.fst

lemma add_of_fresh (h : name ∉ r.names) (found : List Diagnostic) : r.add name found = ⟨r.packages ++ [(name, found)]⟩ := by
  rw [add, if_neg]
  intro hany
  obtain ⟨entry, hentry, hname⟩ := List.any_eq_true.mp hany
  exact h (List.mem_map.mpr ⟨entry, hentry, of_decide_eq_true hname⟩)

lemma map_eq_self {entries : List (PackageName × List Diagnostic)} (h : name ∉ entries.map Prod.fst)
    (found : List Diagnostic) :
    (entries.map fun entry => if entry.1 = name then (name, entry.2 ++ found) else entry) = entries := by
  conv_rhs => rw [← List.map_id entries]
  apply List.map_congr_left
  intro entry hentry
  rw [if_neg, id_eq]
  rintro rfl
  exact h (List.mem_map_of_mem hentry)

lemma add_of_mem (unique : r.names.Nodup) (h : name ∈ r.names) (found : List Diagnostic) : ∃ before old after,
    r.packages = before ++ (name, old) :: after ∧ name ∉ before.map Prod.fst ∧
      r.add name found = ⟨before ++ (name, old ++ found) :: after⟩ := by
  obtain ⟨⟨_, old⟩, hentry, rfl⟩ := List.mem_map.mp h
  obtain ⟨before, after, hpackages⟩ := List.append_of_mem hentry
  rw [names, hpackages, List.map_append, List.map_cons, List.nodup_middle, List.nodup_cons, List.mem_append,
    not_or] at unique
  obtain ⟨⟨hbefore, hafter⟩, _⟩ := unique
  refine ⟨before, old, after, hpackages, hbefore, ?_⟩
  rw [add, if_pos (List.any_eq_true.mpr ⟨_, hentry, decide_eq_true rfl⟩), hpackages, List.map_append, List.map_cons,
    map_eq_self hbefore, map_eq_self hafter, if_pos rfl]

lemma names_add (unique : r.names.Nodup) (name : PackageName) (found : List Diagnostic) :
    (r.add name found).names = if name ∈ r.names then r.names else r.names ++ [name] := by
  split
  · next h =>
    obtain ⟨before, old, after, hpackages, _, hadd⟩ := add_of_mem unique h found
    rw [hadd, names, names, hpackages, List.map_append, List.map_append]
    rfl
  · next h =>
    rw [add_of_fresh h, names, List.map_append]
    rfl

lemma lookup_eq_none {entries : List (PackageName × List Diagnostic)} (h : name ∉ entries.map Prod.fst) :
    entries.lookup name = none := by
  apply List.lookup_eq_none_iff.mpr
  intro entry hentry
  apply bne_iff_ne.mpr
  rintro rfl
  exact h (List.mem_map_of_mem hentry)

lemma diagnostics_add (unique : r.names.Nodup) (name other : PackageName) (found : List Diagnostic) :
    (r.add name found).diagnostics other = r.diagnostics other ++ if name = other then found else [] := by
  by_cases h : name ∈ r.names
  · obtain ⟨before, old, after, hpackages, hbefore, hadd⟩ := add_of_mem unique h found
    rw [hadd, diagnostics, diagnostics, hpackages, List.lookup_append, List.lookup_append, List.lookup_cons, List.lookup_cons]
    split
    · next heq =>
      obtain rfl := eq_of_beq heq
      rw [lookup_eq_none hbefore, if_pos rfl]
      rfl
    · next hne =>
      rw [if_neg (ne_of_beq_false hne).symm, List.append_nil]
  · rw [add_of_fresh h, diagnostics, diagnostics, List.lookup_append, List.lookup_cons]
    split
    · next heq =>
      obtain rfl := eq_of_beq heq
      rw [lookup_eq_none h, if_pos rfl]
      rfl
    · next hne =>
      rw [if_neg (ne_of_beq_false hne).symm, List.lookup_nil, Option.or_none, List.append_nil]

lemma all_add (unique : r.names.Nodup) (name : PackageName) (found : List Diagnostic) :
    (r.add name found).all.Perm (r.all ++ found) := by
  by_cases h : name ∈ r.names
  · obtain ⟨before, old, after, hpackages, _, hadd⟩ := add_of_mem unique h found
    simp only [hadd, all, hpackages, List.flatMap_append, List.flatMap_cons, List.append_assoc]
    apply List.Perm.append_left
    apply List.Perm.append_left
    exact List.perm_append_comm
  · rw [add_of_fresh h, all, List.flatMap_append, List.flatMap_singleton]
    exact .refl _

structure Groups (r : Report) (turns : List Turn) : Prop where
  unique : r.names.Nodup
  names : r.names = (turns.map Turn.name).eraseDups
  diagnostics : ∀ name, r.diagnostics name = (turns.filter (·.name = name)).flatMap Turn.found
  all : r.all.Perm (turns.flatMap Turn.found)

namespace Groups

variable {turns : List Turn} {turn : Turn}

lemma nil : Groups {} [] :=
  ⟨List.nodup_nil, rfl, fun _ => rfl, .refl []⟩

lemma add (h : r.Groups turns) (turn : Turn) : (r.add turn.name turn.found).Groups (turns ++ [turn]) where
  unique := by
    rw [names_add h.unique]
    split
    · exact h.unique
    · next hfresh => exact List.nodup_append_comm.mp (List.nodup_cons.mpr ⟨hfresh, h.unique⟩)
  names := by
    have hmem : turn.name ∈ r.names ↔ turn.name ∈ turns.map Turn.name := by
      rw [h.names, List.mem_eraseDups]
    rw [names_add h.unique, List.map_append, List.eraseDups_append, ← h.names, List.map_singleton, List.cons_removeAll,
      List.nil_removeAll]
    split
    · next hold => rw [if_neg (by simpa using hmem.mp hold), List.eraseDups_nil, List.append_nil]
    · next hfresh => rw [if_pos (by simpa using mt hmem.mpr hfresh)]; rfl
  diagnostics name := by
    rw [diagnostics_add h.unique, h.diagnostics, List.filter_append, List.flatMap_append]
    by_cases hname : turn.name = name <;> simp [hname]
  all := by
    rw [List.flatMap_append, List.flatMap_singleton]
    exact (all_add h.unique turn.name turn.found).trans (h.all.append_right turn.found)

lemma foldl_add : ∀ (later : List Turn) {turns : List Turn} {r : Report}, r.Groups turns →
    (later.foldl (fun r turn => r.add turn.name turn.found) r).Groups (turns ++ later)
  | [], turns, _, h => by rwa [List.append_nil]
  | turn :: later, turns, r, h => by
    rw [List.foldl_cons, List.append_cons]
    exact foldl_add later (h.add turn)

lemma errorCount_eq (h : r.Groups turns) : r.errorCount = (turns.map (·.found.length)).sum := by
  rw [errorCount, h.all.length_eq, List.length_flatMap]

lemma isSuccess_iff (h : r.Groups turns) : r.isSuccess = true ↔ ∀ turn ∈ turns, turn.found = [] := by
  have hall : r.isSuccess = true ↔ r.all = [] := by
    simp only [isSuccess, Report.all, List.all_eq_true, List.isEmpty_iff, List.flatMap_eq_nil_iff]
  have hturns : r.all = [] ↔ turns.flatMap Turn.found = [] := by
    rw [← List.perm_nil, ← List.perm_nil]
    exact ⟨h.all.symm.trans, h.all.trans⟩
  rw [hall, hturns, List.flatMap_eq_nil_iff]

end Groups

end Report

/-- The packages are loaded one by one, and what a load adds to the diagnostics is taken before the next. -/
inductive Library.Turns (l : Library) (c : Capabilities) : Store → List Turn → Store → Prop
  | nil (s : Store) : Turns l c s [] s
  | cons {s s₁ s' : Store} {turn : Turn} {later : List Turn}
      (loaded : ((l.catalog c).load turn.name none).run s = .ok turn.result s₁)
      (added : s₁.diagnostics = s.diagnostics ++ turn.found)
      (rest : Turns l c { s₁ with diagnostics := [] } later s') : Turns l c s (turn :: later) s'

structure Library.Takes (l : Library) (c : Capabilities) (s : Store) (turn : Turn) (s' : Store) : Prop where
  gives : ∃ lost, l.Gives c turn.name s turn.result s' lost turn.found
  found_eq_nil_iff : turn.found = [] ↔ ∃ p, turn.result = .ok p
  kept : ∀ p, turn.result = .ok p → s'.package? turn.name = some p
  grows : s.Extends s'

namespace Library

variable {turn : Turn} {turns : List Turn}

lemma load_takes (hs : s.Settled l c) (loaded : ((l.catalog c).load turn.name none).run s = .ok turn.result s')
    (added : s'.diagnostics = s.diagnostics ++ turn.found) : l.Takes c s turn s' := by
  have hrun := (run_load hs.idle.trail turn.name none).symm.trans loaded
  have haccounted : Accounted turn.name s turn.result s' := (loadOn_accounts hs.idle.sound hs.idle.trail).elim hrun
  obtain ⟨hloaded, _⟩ := (load_ends hs.idle turn.name none).elim loaded
  refine ⟨?_, ?_, haccounted.kept, .of_steps (steps_of_loadOn hs.idle.sound hs.idle.trail hrun)⟩
  · obtain ⟨lost, found, h⟩ := (load_gives hs turn.name).elim loaded
    obtain rfl := List.append_cancel_left (h.reported.symm.trans added)
    exact ⟨lost, h⟩
  · cases hr : turn.result with
    | ok p =>
      obtain ⟨_, _, hsame, _⟩ := hloaded.found p hr
      exact iff_of_true (List.append_right_eq_self.mp (added.symm.trans hsame)) ⟨p, rfl⟩
    | error e =>
      have htells := haccounted.told e hr
      rw [Store.Tells, added, List.length_append] at htells
      refine iff_of_false ?_ (by rintro ⟨p, ⟨⟩⟩)
      intro hnone
      rw [hnone, List.length_nil] at htells
      exact Nat.lt_irrefl _ htells

lemma Takes.settled (h : l.Takes c s turn s') : s'.Settled l c := by
  obtain ⟨_, h⟩ := h.gives
  exact h.settled

lemma Takes.succeeds {t : Store} {p : Package} (h : l.Takes c s turn s') (ht : t.Settled l c)
    (hp : t.package? turn.name = some p) : ∃ p', turn.result = .ok p' := by
  obtain ⟨lost, h⟩ := h.gives
  obtain ⟨lost', found', h'⟩ := (load_gives ht turn.name).elim (load_of_package? hp none)
  obtain ⟨ρ, _, hresult, _⟩ := h'.exists_renaming h
  exact ⟨p.rename ρ, hresult⟩

namespace Turns

lemma settled (h : l.Turns c s turns s') (hs : s.Settled l c) : s'.Settled l c := by
  induction h with
  | nil => exact hs
  | cons loaded added _ ih => exact ih (load_takes hs loaded added).settled.drained

lemma diagnostics_eq (h : l.Turns c s turns s') (hs : s.diagnostics = []) : s'.diagnostics = [] := by
  induction h with
  | nil => exact hs
  | cons _ _ _ ih => exact ih rfl

lemma grows (h : l.Turns c s turns s') (hs : s.Settled l c) : s.Extends s' := by
  induction h with
  | nil => exact .refl _
  | cons loaded added _ ih =>
    have htakes := load_takes hs loaded added
    exact htakes.grows.drained.trans (ih htakes.settled.drained)

lemma takes (h : l.Turns c s turns s') (hs : s.Settled l c) :
    ∀ turn ∈ turns, ∃ t t', l.Takes c t turn t' ∧ t'.Extends s' := by
  induction h with
  | nil => exact nofun
  | cons loaded added rest ih =>
    have htakes := load_takes hs loaded added
    have hs' := htakes.settled.drained
    refine List.forall_mem_cons.mpr ⟨⟨_, _, htakes, ?_⟩, ih hs'⟩
    exact (Store.Extends.refl _).drained.trans (rest.grows hs')

lemma forall_found_iff (h : l.Turns c s turns s') (hs : s.Settled l c) :
    (∀ turn ∈ turns, turn.found = []) ↔ ∀ turn ∈ turns, ∃ p, turn.result = .ok p := by
  apply forall₂_congr
  intro turn hturn
  obtain ⟨t, t', htakes, _⟩ := h.takes hs turn hturn
  exact htakes.found_eq_nil_iff

lemma kept_iff (h : l.Turns c s turns s') (hs : s.Settled l c) :
    ∀ turn ∈ turns, (∃ p, turn.result = .ok p) ↔ (s'.package? turn.name).isSome := by
  intro turn hturn
  obtain ⟨t, t', htakes, hgrows⟩ := h.takes hs turn hturn
  rw [Option.isSome_iff_exists]
  constructor
  · rintro ⟨p, hp⟩
    exact ⟨p, hgrows.package?_eq (htakes.kept p hp)⟩
  · rintro ⟨p, hp⟩
    exact htakes.succeeds (h.settled hs) hp

end Turns

lemma checkEach_ends : ∀ (names : List PackageName) {r : Report} {s : Store}, s.Settled l c → s.diagnostics = [] →
    ((l.catalog c).checkEach r names).Ends s fun r' s' => ∃ turns, l.Turns c s turns s' ∧
      turns.map Turn.name = names ∧ r' = turns.foldl (fun r turn => r.add turn.name turn.found) r
  | [], r, s, _, _ => .pure ⟨[], .nil s, rfl, rfl⟩
  | name :: names, r, s, hs, hempty => by
    obtain ⟨result, s₁, hrun, lost, found, h⟩ := load_gives hs name
    have hload : ((l.catalog c).load name none).Ends s fun _ s' => s' = s₁ := .of_run hrun rfl
    have htake : Run.takeDiagnostics.Ends s₁ fun taken s' => taken = found ∧ s' = { s₁ with diagnostics := [] } := by
      refine .of_run rfl ⟨?_, rfl⟩
      rw [h.reported, hempty, List.nil_append]
    rw [Catalog.checkEach]
    refine hload.bind ?_
    rintro _ _ rfl
    refine htake.bind ?_
    rintro _ _ ⟨rfl, rfl⟩
    refine (checkEach_ends names h.settled.drained rfl).mono ?_
    rintro r' s' ⟨turns, hturns, rfl, rfl⟩
    exact ⟨⟨name, result, _⟩ :: turns, .cons hrun h.reported hturns, rfl, rfl⟩

/-- A batch gives a report of the packages that were asked for, each once and in the order in which they were first
asked for. Under a package is what its loads have added to the diagnostics, one load after the other, and nothing else
is told. No diagnostic is left behind, and the batch is a success if every load has succeeded, that is if in the end
every package is kept. -/
theorem batch_reports_turns {requests : List Request} (served : ((l.catalog c).serve requests).run {} = .ok () s)
    (taken : s.diagnostics = []) (names : List PackageName) : ∃ report s' turns,
    ((l.catalog c).checkPackages names).run s = .ok report s' ∧ l.Turns c s turns s' ∧
      turns.map Turn.name = names ∧ report.names = names.eraseDups ∧
      (∀ name, report.diagnostics name = (turns.filter (·.name = name)).flatMap Turn.found) ∧
      report.errorCount = (turns.map (·.found.length)).sum ∧ s'.diagnostics = [] ∧
      (report.isSuccess ↔ ∀ turn ∈ turns, ∃ p, turn.result = .ok p) ∧
      (report.isSuccess ↔ ∀ name ∈ names, (s'.package? name).isSome) := by
  have hs := settled_of_serve served
  obtain ⟨report, s', hrun, turns, hturns, rfl, rfl⟩ := checkEach_ends (r := {}) names hs taken
  have hgroups := Report.Groups.foldl_add turns Report.Groups.nil
  have hsuccess := hgroups.isSuccess_iff.trans (hturns.forall_found_iff hs)
  refine ⟨_, s', turns, hrun, hturns, rfl, hgroups.names, hgroups.diagnostics, hgroups.errorCount_eq,
    hturns.diagnostics_eq taken, hsuccess, hsuccess.trans ?_⟩
  rw [List.forall_mem_map]
  exact forall₂_congr (hturns.kept_iff hs)

lemma retried_batch_reports : ∃ s report s' turns,
    ((oneOfTwoFails.catalog {}).serve
      [.load firstOfTwo none, .load secondOfTwo none, .takeDiagnostics]).run {} = .ok () s ∧ s.diagnostics = [] ∧
    ((oneOfTwoFails.catalog {}).checkPackages [secondOfTwo, firstOfTwo, secondOfTwo]).run s = .ok report s' ∧
      oneOfTwoFails.Turns {} s turns s' ∧ report.names = [secondOfTwo, firstOfTwo] ∧
        (report.packages.map fun entry => entry.2.length) = [4, 0] ∧ report.isSuccess = false := by
  let k := oneOfTwoFails.catalog {}
  have hruns : (((k.serve [.load firstOfTwo none, .load secondOfTwo none, .takeDiagnostics]).result? {}).bind fun before =>
      ((k.checkPackages [secondOfTwo, firstOfTwo, secondOfTwo]).result? before.2).map fun after =>
        (before.2.diagnostics, after.1.packages.map fun entry => entry.2.length, after.1.isSuccess)) =
          some ([], [4, 0], false) := by
    decide +kernel
  obtain ⟨before, hbefore, hruns⟩ := Option.bind_eq_some_iff.mp hruns
  obtain ⟨after, hafter, hruns⟩ := Option.map_eq_some_iff.mp hruns
  simp only [Prod.mk.injEq] at hruns
  obtain ⟨htaken, hlengths, hsuccess⟩ := hruns
  obtain ⟨report, s', turns, hrun, hturns, _, hnames, _⟩ := batch_reports_turns (Run.run_of_result? hbefore) htaken
    [secondOfTwo, firstOfTwo, secondOfTwo]
  cases (Run.run_of_result? hafter).symm.trans hrun
  exact ⟨before.2, after.1, after.2, turns, Run.run_of_result? hbefore, htaken, hrun, hturns, hnames, hlengths, hsuccess⟩

end Library

end RecordSchema
