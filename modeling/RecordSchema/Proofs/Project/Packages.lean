import RecordSchema.Project.Basic
import RecordSchema.Proofs.Source.Place

namespace RecordSchema

namespace Path

lemma getLast?_ne_of_not_mem {w : List Char} (h : '/' ∉ w) : w.getLast? ≠ some '/' :=
  fun hlast => h (List.mem_of_getLast? hlast)

lemma foldl_join_from : ∀ {words : List (List Char)} {base : List Char}, base ≠ [] → base.getLast? ≠ some '/' →
    (∀ w ∈ words, w ≠ [] ∧ '/' ∉ w) → words.foldl join base = Text.joinWith ['/'] (base :: words)
  | [], _, _, _, _ => rfl
  | w :: rest, base, hne, hlast, hwords => by
    obtain ⟨⟨hw, hslash⟩, hrest⟩ := List.forall_mem_cons.mp hwords
    have hhead : w.head? ≠ some '/' := fun hhead => hslash (List.mem_of_head? hhead)
    have hstep : join base w = base ++ ['/'] ++ w := by
      rw [join, if_neg (not_or.mpr ⟨hne, hhead⟩), if_neg hlast, List.append_assoc]
      rfl
    have hlast' : (base ++ ['/'] ++ w).getLast? ≠ some '/' := by
      rw [List.getLast?_append_of_ne_nil _ hw]
      exact getLast?_ne_of_not_mem hslash
    rw [List.foldl_cons, hstep, foldl_join_from (by simp) hlast' hrest, Text.joinWith_append_cons]

lemma foldl_join {words : List (List Char)} (h : ∀ w ∈ words, w ≠ [] ∧ '/' ∉ w) :
    words.foldl join [] = Text.joinWith ['/'] words := by
  cases words with
  | nil => rfl
  | cons first rest =>
    obtain ⟨⟨hfirst, hslash⟩, hrest⟩ := List.forall_mem_cons.mp h
    have hstep : join [] first = first := if_pos (.inl rfl)
    rw [List.foldl_cons, hstep, foldl_join_from hfirst (getLast?_ne_of_not_mem hslash) hrest]

lemma appendSuffix_of_getLast? (suffix : List Char) {path : List Char} {c : Char} (h : path.getLast? = some c)
    (hc : c ≠ '/') : appendSuffix suffix path = path ++ suffix := by
  obtain ⟨front, rfl⟩ := List.getLast?_eq_some_iff.mp h
  have hkept : (((front ++ [c]).reverse.dropWhile (· = '/')).reverse) = front ++ [c] := by
    rw [List.reverse_concat, List.dropWhile_cons_of_neg (by simpa using hc), List.reverse_cons, List.reverse_reverse]
  rw [appendSuffix, hkept]
  cases front <;> rfl

end Path

namespace Place

lemma exists_steps : ∀ (here : Place) {words : List (List Char)}, Path.Clean words → ['.', '.'] ∉ words →
    ∃ places, steps here words = some places ∧ (here :: places).getLast? = some (here ++ words)
  | here, [], _, _ => ⟨[], rfl, by simp⟩
  | here, w :: rest, hclean, hback => by
    obtain ⟨⟨hne, hdot, _⟩, hrest⟩ := List.forall_mem_cons.mp hclean
    obtain ⟨hw, hback⟩ := not_or.mp (mt List.mem_cons.mpr hback)
    have hstep : step here w = some (here ++ [w]) := by
      rw [step, if_neg (not_or.mpr ⟨hne, hdot⟩), if_pos (Ne.symm hw)]
    obtain ⟨places, hsteps, hlast⟩ := exists_steps (here ++ [w]) hrest hback
    refine ⟨(here ++ [w]) :: places, ?_, ?_⟩
    · simp only [steps, hstep, hsteps, Option.bind_eq_bind, Option.bind_some]
    · rw [List.getLast?_cons_cons, hlast, List.append_assoc, List.singleton_append]

lemma exists_along {words : List (List Char)} (hne : words ≠ []) (hclean : Path.Clean words)
    (hback : ['.', '.'] ∉ words) :
    ∃ places, along (String.ofList (Text.joinWith ['/'] words)) = some places ∧ places.getLast? = some words := by
  obtain ⟨places, hsteps, hlast⟩ := exists_steps [] hclean hback
  refine ⟨places, ?_, ?_⟩
  · rw [along, String.toList_ofList, if_neg hclean.head?_joinWith,
      Text.splitOn_joinWith hne fun w hw => (hclean w hw).2.2, hsteps]
  · cases places with
    | nil => exact absurd (Option.some.inj hlast).symm hne
    | cons next rest => rwa [List.getLast?_cons_cons] at hlast

end Place

namespace FileTree

lemma mapM_parse (segments : List Segment) : (segments.map fun s => s.text.toList).mapM
    (fun w => (Name.parse segmentGrammar (String.ofList w)).toOption) = some segments := by
  induction segments with
  | nil => rfl
  | cons s rest ih =>
    rw [List.map_cons, List.mapM_cons, ih, String.ofList_toList, Name.parse_text]
    rfl

lemma packageAt?_placeOf (name : PackageName) : packageAt? (placeOf name) = some name := by
  have hsuffix : sourceSuffix.isSuffixOf (name.words.getLast name.words_ne_nil ++ sourceSuffix) = true :=
    List.isSuffixOf_iff_suffix.mpr (List.suffix_append _ _)
  have hparse := mapM_parse name.segments
  rw [packageAt?, Library.placeOf_eq]
  simp only [List.getLast?_append_cons, List.getLast?_singleton, Option.bind_eq_bind, Option.bind_some, hsuffix, if_true,
    List.dropLast_concat, List.length_append, Nat.add_sub_cancel, List.take_left, List.dropLast_append_getLast]
  rw [PackageName.words, hparse, Option.bind_some, PackageName.ofSegments, dif_neg name.segments_ne_nil]
  rfl

lemma file?_of_along {tree : FileTree} {path : String} {places : List Place} {place : Place}
    (h : Place.along path = some places) (hlast : places.getLast? = some place) :
    tree.file? path = if places.dropLast.all tree.isDirectory then tree.files.lookup place else none := by
  rw [file?, h]
  simp only [Option.bind_eq_bind, Option.bind_some, hlast]

lemma files_add {tree : FileTree} {path : String} {contents : FileContents} {places : List Place} {place : Place}
    (h : Place.along path = some places) (hlast : places.getLast? = some place) :
    (tree.add path contents).files = upsert Prod.fst (place, contents) tree.files := by
  rw [add, h, Option.getD_some]
  simp only [hlast]

@[simp] lemma directories_add (tree : FileTree) (path : String) (contents : FileContents) :
    (tree.add path contents).directories = tree.directories ++ ((Place.along path).getD []).dropLast := by
  rw [add]
  cases hlast : ((Place.along path).getD []).getLast? with
  | none => simp [List.getLast?_eq_none_iff.mp hlast]
  | some place => rfl

@[simp] lemma root_add (tree : FileTree) (path : String) (contents : FileContents) :
    (tree.add path contents).root = tree.root := by
  rw [add]
  cases ((Place.along path).getD []).getLast? <;> rfl

end FileTree

def Library.rootless : Library :=
  .files { root := "" }

namespace PackageName

lemma placeOf_ne_back (name : PackageName) : ['.', '.'] ∉ FileTree.placeOf name := by
  rw [Library.placeOf_eq, List.mem_append, List.mem_singleton, not_or]
  refine ⟨fun h => ?_, fun h => ?_⟩
  · exact (name.dot_not_mem_words _ (List.dropLast_subset _ h)).2 List.mem_cons_self
  · have hlength := congrArg List.length h
    have hsuffix : sourceSuffix.length = 4 := rfl
    simp only [List.length_append, hsuffix, List.length_cons, List.length_nil] at hlength
    omega

lemma sourcePath_render (name : PackageName) :
    Project.sourcePath name.render = String.ofList (Text.joinWith ['/'] (FileTree.placeOf name)) := by
  obtain ⟨before, hbefore⟩ := Text.exists_joinWith_concat ['/'] name.words.dropLast
  have hpath := hbefore (name.words.getLast name.words_ne_nil)
  rw [List.dropLast_concat_getLast] at hpath
  obtain ⟨hne, hslash⟩ := name.slash_not_mem_words _ (List.getLast_mem name.words_ne_nil)
  obtain ⟨c, hc⟩ := Option.isSome_iff_exists.mp (List.getLast?_isSome.mpr hne)
  have hlast : (before ++ name.words.getLast name.words_ne_nil).getLast? = some c := by
    rw [List.getLast?_append_of_ne_nil _ hne, hc]
  have hcne : c ≠ '/' := fun heq => Path.getLast?_ne_of_not_mem hslash (heq ▸ hc)
  rw [Project.sourcePath, render, String.toList_ofList]
  simp only [splitOn_chars, Path.foldl_join name.slash_not_mem_words, hpath, Path.appendSuffix_of_getLast? _ hlast hcne]
  rw [Library.placeOf_eq, hbefore, List.append_assoc]

lemma exists_along_sourcePath (name : PackageName) : ∃ places,
    Place.along (Project.sourcePath name.render) = some places ∧ places.getLast? = some (FileTree.placeOf name) := by
  rw [sourcePath_render]
  exact Place.exists_along (Library.rootless.place_ne_nil name) (Library.rootless.place_clean name) name.placeOf_ne_back

lemma path_rootless (name : PackageName) : Library.rootless.path name = Project.sourcePath name.render := by
  rw [name.sourcePath_render]
  change String.ofList (Path.join [] (String.ofList _).toList) = _
  rw [String.toList_ofList, Path.join, if_pos (.inl rfl)]

end PackageName

lemma lookup_map_injective {κ μ α β : Type} [BEq κ] [LawfulBEq κ] [BEq μ] [LawfulBEq μ] {f : κ → μ}
    (hf : f.Injective) (g : α → β) (k : κ) : ∀ items : List (κ × α), (items.map fun item => (f item.1, g item.2)).lookup (f k) = (items.lookup k).map g
  | [] => rfl
  | (key, a) :: rest => by
    have hbeq : (f k == f key) = (k == key) := by
      rw [Bool.eq_iff_iff, beq_iff_eq, beq_iff_eq, hf.eq_iff]
    rw [List.map_cons, List.lookup_cons, List.lookup_cons, hbeq, lookup_map_injective hf g k rest]
    cases k == key <;> rfl

lemma foldl_of_fresh {σ α β γ κ : Type} {add : σ → α → σ} (held : σ → List β) (f : α → β) (key : α → κ) (spot : β → γ)
    (hspot : ∀ a b, spot (f a) = spot (f b) → key a = key b)
    (step : ∀ s a, (∀ x ∈ held s, spot x ≠ spot (f a)) → held (add s a) = held s ++ [f a]) :
    ∀ (rest earlier : List α) {s : σ}, held s = earlier.map f → ((earlier ++ rest).map key).Nodup →
      held (rest.foldl add s) = (earlier ++ rest).map f
  | [], earlier, s, hs, _ => by rw [List.foldl_nil, List.append_nil, hs]
  | a :: rest, earlier, s, hs, hnodup => by
    have hfresh : ∀ x ∈ held s, spot x ≠ spot (f a) := by
      rw [hs]
      intro x hx heq
      obtain ⟨b, hb, rfl⟩ := List.mem_map.mp hx
      rw [List.map_append, List.map_cons, List.nodup_append] at hnodup
      exact hnodup.2.2 (key b) (List.mem_map_of_mem hb) (key a) List.mem_cons_self (hspot b a heq)
    have hadd : held (add s a) = (earlier ++ [a]).map f := by
      rw [step s a hfresh, hs, List.map_append, List.map_singleton]
    rw [List.append_cons] at hnodup ⊢
    exact foldl_of_fresh held f key spot hspot step rest (earlier ++ [a]) hadd hnodup

namespace Project

def fileOf (source : PackageName × String) : String × String :=
  (sourcePath source.1.render, source.2)

def addSource (p : Project) (source : PackageName × String) : Project :=
  p.addPackage source.1.render source.2

def ofSources (name : String) (sources : List (PackageName × String)) : Project :=
  sources.foldl addSource { name }

lemma sourcePath_inj {p q : PackageName} (h : Path.ofText (sourcePath p.render) = Path.ofText (sourcePath q.render)) :
    p = q := by
  refine Library.rootless.path_injective ?_
  rwa [p.path_rootless, q.path_rootless]

lemma name_foldl_addSource (sources : List (PackageName × String)) (p : Project) :
    (sources.foldl addSource p).name = p.name := by
  induction sources generalizing p with
  | nil => rfl
  | cons source rest ih => exact ih (p.addSource source)

lemma files_addPackage {p : Project} {package text : String}
    (h : ∀ file ∈ p.files, Path.ofText file.1 ≠ Path.ofText (sourcePath package)) :
    (p.addPackage package text).files = p.files ++ [(sourcePath package, text)] := by
  have hnone : p.files.find? (fun file => decide (Path.ofText file.1 = Path.ofText (sourcePath package))) = none := by
    rw [List.find?_eq_none]
    intro file hfile heq
    exact h file hfile (of_decide_eq_true heq)
  have hfresh : ∀ file ∈ p.files, file.1 ≠ sourcePath package := fun file hfile heq => h file hfile (by rw [heq])
  rw [addPackage]
  simp only [hnone, Option.map_none, Option.getD_none]
  exact upsert_of_fresh hfresh

variable {sources : List (PackageName × String)}

lemma files_ofSources (name : String) (h : (sources.map Prod.fst).Nodup) :
    (ofSources name sources).files = sources.map fileOf := by
  have hspot (a b : PackageName × String) (hpath : Path.ofText (fileOf a).1 = Path.ofText (fileOf b).1) : a.1 = b.1 :=
    sourcePath_inj hpath
  have step (p : Project) (source : PackageName × String)
      (hfresh : ∀ file ∈ p.files, Path.ofText file.1 ≠ Path.ofText (fileOf source).1) :
      (p.addSource source).files = p.files ++ [fileOf source] :=
    files_addPackage hfresh
  exact foldl_of_fresh files fileOf Prod.fst (fun file => Path.ofText file.1) hspot step sources [] rfl h

def placed (source : PackageName × String) : Place × FileContents :=
  (FileTree.placeOf source.1, .text source.2)

lemma placeOf_injective : Function.Injective FileTree.placeOf :=
  Library.rootless.place_injective

def addFile (tree : FileTree) (file : String × String) : FileTree :=
  tree.add file.1 (.text file.2)

lemma tree_eq (p : Project) : p.tree = p.files.foldl addFile { root := p.name } := rfl

lemma files_tree (name : String) (h : (sources.map Prod.fst).Nodup) :
    (ofSources name sources).tree.files = sources.map placed := by
  have hspot (a b : PackageName × String) (hplace : (placed a).1 = (placed b).1) : a.1 = b.1 :=
    placeOf_injective hplace
  have step (tree : FileTree) (source : PackageName × String)
      (hfresh : ∀ entry ∈ tree.files, entry.1 ≠ (placed source).1) :
      (addFile tree (fileOf source)).files = tree.files ++ [placed source] := by
    obtain ⟨places, halong, hlast⟩ := source.1.exists_along_sourcePath
    rw [addFile, fileOf, FileTree.files_add halong hlast]
    exact upsert_of_fresh hfresh
  rw [tree_eq, files_ofSources name h, List.foldl_map]
  exact foldl_of_fresh FileTree.files placed Prod.fst Prod.fst hspot step sources [] rfl h

lemma directories_foldl : ∀ (files : List (String × String)) (tree : FileTree), (files.foldl addFile tree).directories =
    tree.directories ++ files.flatMap fun file => ((Place.along file.1).getD []).dropLast
  | [], tree => (List.append_nil _).symm
  | file :: rest, tree => by
    rw [List.foldl_cons, directories_foldl rest, addFile, FileTree.directories_add, List.flatMap_cons, List.append_assoc]

lemma root_foldl : ∀ (files : List (String × String)) (tree : FileTree), (files.foldl addFile tree).root = tree.root
  | [], _ => rfl
  | file :: rest, tree => by rw [List.foldl_cons, root_foldl rest, addFile, FileTree.root_add]

lemma root_tree (name : String) (sources : List (PackageName × String)) : (ofSources name sources).tree.root = name := by
  rw [tree_eq, root_foldl, ofSources, name_foldl_addSource]

theorem file?_tree (name : String) (h : (sources.map Prod.fst).Nodup) (package : PackageName) :
    (ofSources name sources).tree.file? (sourcePath package.render) = (sources.lookup package).map .text := by
  obtain ⟨places, halong, hlast⟩ := package.exists_along_sourcePath
  have hlookup : (sources.map placed).lookup (FileTree.placeOf package) = (sources.lookup package).map .text :=
    lookup_map_injective placeOf_injective FileContents.text package sources
  rw [FileTree.file?_of_along halong hlast, files_tree name h, hlookup]
  cases hfound : sources.lookup package with
  | none => exact ite_self none
  | some text =>
    have hmem : (package, text) ∈ sources := by
      obtain ⟨before, after, rfl, _⟩ := List.lookup_eq_some_iff.mp hfound
      simp
    refine if_pos (List.all_eq_true.mpr fun place hplace => ?_)
    have hdirectory : place ∈ (ofSources name sources).tree.directories := by
      rw [tree_eq, directories_foldl, files_ofSources name h]
      refine List.mem_append_right _ (List.mem_flatMap.mpr ⟨fileOf (package, text), List.mem_map_of_mem hmem, ?_⟩)
      rw [fileOf, halong]
      exact hplace
    simp [FileTree.isDirectory, hdirectory]

end Project

end RecordSchema
