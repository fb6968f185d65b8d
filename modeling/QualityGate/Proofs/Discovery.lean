import Mathlib.Data.List.Nodup
import QualityGate.Analysis.Project
import QualityGate.Proofs.Lines
import QualityGate.Proofs.Matching
import QualityGate.Proofs.Orders
import QualityGate.Proofs.Paths

/-!
# Which files are found

The walk through a project goes from directory to directory (`Entry.walk`), and finds the files behind directories that it enters
(`sources_eq_filter`). It enters a directory of other people's files only when a pattern to include matches the directory itself. The
filters look at the whole path of a file, and let a file pass that is included by name. So the walk finds what the filters select as
long as it enters all directories on the way to that, and else it finds less (`sources_eq_selected_iff`); with nothing to include by
name it finds just that.
-/

namespace QualityGate

namespace Discovery

/-! ## The way to a file -/

/-- The directories on the way to a file, each with its path and its name; `above` is the path so far. -/
def directoriesFrom (above : String) : List String → List (String × String)
  | [] => []
  | [_] => []
  | name :: rest => (under above name, name) :: directoriesFrom (under above name) rest

/-- The directories on the way to a file of a project, each with its path and its name. -/
def directories (path : String) : List (String × String) := directoriesFrom "" (Path.segments path)

/-- Whether a walk enters all directories on the way to a file; `above` is the path so far. -/
def reaches (f : Filters) (above : String) : List String → Bool
  | [] => true
  | [_] => true
  | name :: rest =>
    !name.toList.contains '\\' && !skipsDirectory f (under above name) name && reaches f (under above name) rest

/-- Whether a file of a project is one of its sources, given by its path in the project. -/
def selects (t : Toolchain) (f : Filters) (path : String) : Bool :=
  reaches f "" (Path.segments path) && isSourceFile t (normalizePath path) && f.passes (normalizePath path)

/-- The first directory on the way is followed by those below it. -/
theorem directoriesFrom_cons (above name : String) {rest : List String} (h : rest ≠ []) :
    directoriesFrom above (name :: rest) = (under above name, name) :: directoriesFrom (under above name) rest := by
  obtain ⟨next, rest, rfl⟩ := List.exists_cons_of_ne_nil h
  rfl

/-- A walk gets past a directory when it enters it and gets past those below it. -/
theorem reaches_cons (f : Filters) (above name : String) {rest : List String} (h : rest ≠ []) : reaches f above (name :: rest) =
    (!name.toList.contains '\\' && !skipsDirectory f (under above name) name && reaches f (under above name) rest) := by
  obtain ⟨next, rest, rfl⟩ := List.exists_cons_of_ne_nil h
  rfl

/-- A file is reached when each directory on the way to it is entered. -/
theorem reaches_iff {f : Filters} {above : String} {segments : List String} : reaches f above segments = true ↔
    ∀ dir ∈ directoriesFrom above segments, '\\' ∉ dir.2.toList ∧ skipsDirectory f dir.1 dir.2 = false := by
  induction above, segments using directoriesFrom.induct with
  | case1 above => exact iff_of_true rfl nofun
  | case2 above name => exact iff_of_true rfl nofun
  | case3 above name rest hrest ih =>
    rw [reaches_cons f above name hrest, directoriesFrom_cons above name hrest, List.forall_mem_cons, ← ih]
    simp

/-- The directories on the way are named by all segments but the last. -/
theorem map_name_directoriesFrom (above : String) (segments : List String) :
    (directoriesFrom above segments).map Prod.snd = segments.dropLast := by
  induction above, segments using directoriesFrom.induct with
  | case1 above => rfl
  | case2 above name => rfl
  | case3 above name rest hrest ih =>
    rw [directoriesFrom_cons above name hrest, List.map_cons, ih, List.dropLast_cons_of_ne_nil hrest]

/-- A directory on the way to a file stands in its path between slashes. -/
theorem infix_of_mem_dropLast {segments : List (List Char)} {name : List Char} (h : name ∈ segments.dropLast) :
    '/' :: name ++ ['/'] <:+: '/' :: ['/'].intercalate segments := by
  induction segments with
  | nil => cases h
  | cons first rest ih =>
    cases rest with
    | nil => cases h
    | cons next rest =>
      rw [List.dropLast_cons_of_ne_nil (List.cons_ne_nil _ _)] at h
      have hjoin : ['/'].intercalate (first :: next :: rest) = first ++ '/' :: ['/'].intercalate (next :: rest) := by
        rw [List.intercalate_cons_cons]
        simp
      rw [hjoin]
      rcases List.mem_cons.mp h with rfl | h
      · exact ⟨[], ['/'].intercalate (next :: rest), by simp⟩
      · exact (ih h).trans ⟨'/' :: first, [], by simp⟩

/-- A directory on the way stands between slashes in the path. -/
theorem infix_of_mem_directories {path : String} {dir : String × String} (h : dir ∈ directories path) :
    '/' :: dir.2.toList ++ ['/'] <:+: '/' :: path.toList := by
  have hname : dir.2 ∈ (Path.segments path).dropLast := by
    rw [← map_name_directoriesFrom ""]
    exact List.mem_map_of_mem h
  rw [Path.segments_eq, ← List.map_dropLast] at hname
  obtain ⟨piece, hpiece, heq⟩ := List.mem_map.mp hname
  rw [← heq, String.toList_ofList, ← @List.intercalate_splitOn _ path.toList _ _ '/']
  exact infix_of_mem_dropLast hpiece

/-! ## What a walk finds -/

namespace Entry

variable {t : Toolchain} {f : Filters}

/-- What is found of one more file. -/
def found (t : Toolchain) (f : Filters) (path : String) : List String := visit t f "" (.file path)

/-- A file is found or not whatever the path so far. -/
theorem visit_file (above path : String) : visit t f above (.file path) = found t f path := by
  rw [found, visit, visit]

/-- A walk goes through the entries one behind the other. -/
theorem walk_append (above : String) (entries more : List Entry) :
    walk t f above (entries ++ more) = walk t f above entries ++ walk t f above more := by
  induction entries with
  | nil => rfl
  | cons entry entries ih => rw [List.cons_append, walk, walk, ih, List.append_assoc]

theorem walk_singleton (above : String) (entry : Entry) : walk t f above [entry] = visit t f above entry := by
  rw [walk, walk, List.append_nil]

/-- What more is found in a directory after a change to it is found where the directory is entered. -/
theorem walk_within {above name : String} {change : List Entry → List Entry} {more : List String}
    (h : ∀ entries, (walk t f (under above name) (change entries)).Perm (walk t f (under above name) entries ++ more))
    (entries : List Entry) : (walk t f above (within name change entries)).Perm (walk t f above entries ++
      if name.toList.contains '\\' || skipsDirectory f (under above name) name then [] else more) := by
  induction entries with
  | nil =>
    rw [within, walk_singleton, visit, walk, List.nil_append]
    split
    · exact .refl _
    · exact h []
  | cons entry rest ih =>
    cases entry with
    | file path =>
      rw [within, walk, walk, List.append_assoc]
      exact ih.append_left _
    | directory other entries =>
      rw [within]
      split
      · rename_i heq
        subst heq
        rw [walk, walk, visit, visit, List.append_assoc]
        split
        · rw [List.append_nil]
        · refine ((h entries).append_right _).trans ?_
          rw [List.append_assoc]
          exact List.perm_append_comm.append_left _
      · rw [walk, walk, List.append_assoc]
        exact ih.append_left _

/-- One more file is found where all directories on the way to it are entered. -/
theorem walk_insert (path above : String) (segments : List String) (entries : List Entry) :
    (walk t f above (insert path segments entries)).Perm
      (walk t f above entries ++ if reaches f above segments then found t f path else []) := by
  induction segments generalizing above entries with
  | nil => rw [insert, walk_append, walk_singleton, visit_file, reaches, if_pos rfl]
  | cons name rest ih =>
    cases rest with
    | nil => rw [insert, walk_append, walk_singleton, visit_file, reaches, if_pos rfl]
    | cons next rest =>
      rw [insert]
      refine (walk_within (fun entries => ih (under above name) entries) entries).trans (.of_eq (congrArg _ ?_))
      rw [reaches_cons f above name (List.cons_ne_nil _ _)]
      cases name.toList.contains '\\' <;> cases skipsDirectory f (under above name) name <;> rfl

/-- A walk through a project finds the files that are selected by their paths. -/
theorem walk_ofPaths (paths : List String) :
    (walk t f "" (ofPaths paths)).Perm ((paths.filter (selects t f)).map normalizePath) := by
  have hall : ∀ entries, (walk t f "" (paths.foldl (fun entries path => insert path (Path.segments path) entries) entries)).Perm
      (walk t f "" entries ++ (paths.filter (selects t f)).map normalizePath) := by
    induction paths with
    | nil =>
      intro entries
      rw [List.filter_nil, List.map_nil, List.append_nil, List.foldl_nil]
    | cons path paths ih =>
      intro entries
      have hfound : (if reaches f "" (Path.segments path) then found t f path else []) =
          ([path].filter (selects t f)).map normalizePath := by
        unfold found
        rw [visit, List.filter_singleton]
        cases hreaches : reaches f "" (Path.segments path) <;>
          cases hkept : isSourceFile t (normalizePath path) && f.passes (normalizePath path) <;>
          simp [selects, hreaches, hkept]
      rw [List.foldl_cons]
      refine (ih _).trans (((walk_insert path "" _ entries).append_right _).trans (.of_eq ?_))
      rw [hfound, List.append_assoc, ← List.map_append, ← List.filter_append, List.singleton_append]
  exact hall []

end Entry

/-! ## Plain paths -/

/-- Whether a path has no backslash, and no directory on the way to it is a hidden one. -/
structure Plain (path : String) : Prop where
  slashes : '\\' ∉ path.toList
  visible : ∀ dir ∈ directories path, Text.starts dir.2 "." = false

/-- Whether each directory of other people's files on the way to a file is one that a pattern to include matches. -/
def Entered (f : Filters) (path : String) : Prop :=
  ∀ dir ∈ directories path, dir.2 ∈ vendorDirectories → matchesAny (dir.1 ++ "/") f.include_ = true

namespace Plain

variable {path : String} {f : Filters} {t : Toolchain}

/-- A plain path is spelled as it stands. -/
theorem normalChars_eq (h : Plain path) : Path.normalChars path.toList = path.toList := by
  refine Path.normalChars_eq_self h.slashes fun ⟨rest, hpath⟩ => ?_
  have hdirectory : ("." , ".") ∈ directories path := by
    unfold directories
    rw [Path.segments_eq, ← hpath]
    have hsplit : List.splitOn '/' (['.', '/'] ++ rest) = ['.'] :: List.splitOn '/' rest :=
      @List.splitOn_append_cons_self_of_not_mem _ ['.'] _ _ '/' (by decide) rest
    rw [hsplit, List.map_cons, directoriesFrom_cons]
    · exact List.mem_cons_self
    · rw [ne_eq, List.map_eq_nil_iff]
      exact List.splitOn_ne_nil _ _
  cases h.visible _ hdirectory

/-- A plain path is normalized as it stands. -/
theorem normalizePath_eq (h : Plain path) : normalizePath path = path := by
  unfold normalizePath
  rw [h.normalChars_eq, String.ofList_toList]

/-- On the way to a file that the filters select without a pattern to include, no directory is one of other people's files. -/
theorem notMem_vendorDirectories (h : Plain path) (unnamed : f.include_ = []) (passes : f.passes path = true) :
    ∀ dir ∈ directories path, dir.2 ∉ vendorDirectories := by
  intro dir hdir hvendor
  have hpath : isVendorPath path = true := by
    unfold isVendorPath
    rw [h.normalChars_eq]
    refine Bool.or_eq_true_iff.mpr (.inl (List.any_eq_true.mpr ⟨dir.2, hvendor, ?_⟩))
    exact contains_iff_isInfix.mpr (infix_of_mem_directories hdir)
  unfold Filters.passes at passes
  rw [unnamed, hpath] at passes
  cases passes

/-- A walk gets to a plain path when it enters the directories of other people's files on the way. -/
theorem reaches_iff_entered (h : Plain path) : reaches f "" (Path.segments path) = true ↔ Entered f path := by
  rw [reaches_iff]
  refine forall₂_congr fun dir hdir => ?_
  have hslashes : '\\' ∉ dir.2.toList := by
    intro hmem
    have hinfix := (infix_of_mem_directories hdir).subset (List.mem_cons_of_mem '/' (List.mem_append_left ['/'] hmem))
    rcases List.mem_cons.mp hinfix with heq | hpath
    · cases heq
    · exact h.slashes hpath
  have hincluded : (!f.include_.isEmpty && matchesAny (dir.1 ++ "/") f.include_) = matchesAny (dir.1 ++ "/") f.include_ := by
    cases f.include_ <;> rfl
  unfold skipsDirectory
  rw [h.visible dir hdir, hincluded, Bool.or_false]
  simp [hslashes]

/-- A plain path is a source when the filters pass it, its name is that of one, and a walk gets there. -/
theorem selects_iff (h : Plain path) : selects t f path = true ↔
    (isSourceFile t path = true ∧ f.passes path = true) ∧ Entered f path := by
  unfold selects
  rw [h.normalizePath_eq, Bool.and_eq_true, Bool.and_eq_true, h.reaches_iff_entered]
  tauto

end Plain

/-! ## The files of a project -/

/-- What the filters select of the source files below a directory, sorted. -/
def selected (d : Disk) (root : String) (t : Toolchain) (f : Filters) : List String :=
  sortTexts ((filesBelow d root).filter fun path => isSourceFile t path && f.passes path)

section Files

variable {d : Disk} {root : String} {t : Toolchain} {f : Filters}

/-- A path below a directory is one behind the directory and a slash. -/
theorem eq_of_below? {root path relative : String} (h : below? root path = some relative) :
    path.toList = (if root = "/" then "/" else root ++ "/").toList ++ relative.toList := by
  unfold below? at h
  generalize (if root = "/" then "/" else root ++ "/") = lead at h ⊢
  dsimp only at h
  split at h
  · rename_i hstarts
    obtain ⟨tail, htail⟩ := List.isPrefixOf_iff_prefix.mp hstarts
    rw [← Option.some.inj h, ← htail, String.toList_ofList, ← String.length_toList, List.drop_left]
  · cases h

/-- No file is below a directory twice. -/
theorem nodup_filesBelow (distinct : (d.map Prod.fst).Nodup) : (filesBelow d root).Nodup := by
  have hfiles : (d.files.map Prod.fst).Sublist (d.map Prod.fst) := by
    unfold Disk.files
    induction d with
    | nil => exact .slnil
    | cons entry d ih =>
      obtain ⟨path, entry⟩ := entry
      have hrest := ih (List.nodup_cons.mp distinct).2
      cases entry with
      | file text => exact hrest.cons_cons path
      | directory => exact hrest.cons path
  have hmap : filesBelow d root = (d.files.map Prod.fst).filterMap (below? (Disk.key root)) := by
    rw [List.filterMap_map]
    rfl
  rw [hmap]
  refine List.Nodup.filterMap (fun a b relative ha hb => ?_) (distinct.sublist hfiles)
  exact String.toList_injective ((eq_of_below? ha).trans (eq_of_below? hb).symm)

/-- The sources of a project are the files below it that are selected by their paths, sorted. -/
theorem sources_eq_filter (d : Disk) (root : String) (t : Toolchain) (f : Filters) :
    sources d root t f = sortTexts (((filesBelow d root).filter (selects t f)).map normalizePath) :=
  sortTexts_perm (Entry.walk_ofPaths _)

/-- The sources of a project are its files that are selected, sorted. -/
theorem sources_eq (plain : ∀ path ∈ filesBelow d root, Plain path) :
    sources d root t f = sortTexts ((filesBelow d root).filter (selects t f)) := by
  rw [sources_eq_filter]
  refine congrArg sortTexts ((List.map_congr_left fun path hpath => ?_).trans (List.map_id _))
  exact (plain path (List.mem_of_mem_filter hpath)).normalizePath_eq

/-- A plain path is among the sources when the filters pass it, its name is that of one, and a walk gets there. -/
theorem mem_sources (plain : ∀ path ∈ filesBelow d root, Plain path) {path : String} : path ∈ sources d root t f ↔
    path ∈ filesBelow d root ∧ (isSourceFile t path = true ∧ f.passes path = true) ∧ Entered f path := by
  rw [sources_eq plain, sortTexts, mem_sortBy, List.mem_filter]
  exact and_congr_right fun hpath => (plain path hpath).selects_iff

/-- A file is selected when the filters pass it and its name is that of a source. -/
theorem mem_selected {path : String} : path ∈ selected d root t f ↔
    path ∈ filesBelow d root ∧ isSourceFile t path = true ∧ f.passes path = true := by
  rw [selected, sortTexts, mem_sortBy, List.mem_filter, Bool.and_eq_true]

end Files

/-- What the walk through a project finds, where no directory is hidden and no name has a backslash: it is sorted, names no file twice,
and has just the source files that the filters select and that are reached, since the patterns to include match each directory of other
people's files on the way. It is all that the filters select exactly when all of that is reached so; with nothing to include by name,
it is. -/
theorem sources_eq_selected_iff {d : Disk} {root : String} (distinct : (d.map Prod.fst).Nodup)
    (plain : ∀ path ∈ filesBelow d root, Plain path) (t : Toolchain) (f : Filters) :
    (sources d root t f).Pairwise (fun a b => (unitOrder a b).isLE) ∧ (sources d root t f).Nodup ∧
    (∀ path, path ∈ sources d root t f ↔
      path ∈ filesBelow d root ∧ (isSourceFile t path = true ∧ f.passes path = true) ∧ Entered f path) ∧
    (sources d root t f = selected d root t f ↔
      ∀ path ∈ filesBelow d root, isSourceFile t path = true → f.passes path = true → Entered f path) ∧
    (f.include_ = [] → sources d root t f = selected d root t f) := by
  have hequal : sources d root t f = selected d root t f ↔
      ∀ path ∈ filesBelow d root, isSourceFile t path = true → f.passes path = true → Entered f path := by
    refine ⟨fun heq path hpath hsource hpasses => ?_, fun hentered => ?_⟩
    · have hmem : path ∈ sources d root t f := heq ▸ mem_selected.mpr ⟨hpath, hsource, hpasses⟩
      exact ((mem_sources plain).mp hmem).2.2
    · rw [sources_eq plain, selected]
      refine congrArg sortTexts (List.filter_congr fun path hpath => Bool.eq_iff_iff.mpr ?_)
      rw [(plain path hpath).selects_iff, Bool.and_eq_true]
      exact and_iff_left_of_imp fun hselected => hentered path hpath hselected.1 hselected.2
  refine ⟨?_, ?_, fun path => mem_sources plain, hequal, fun unnamed => hequal.mpr fun path hpath _ hpasses dir hdir hvendor => ?_⟩
  · rw [sources_eq plain]
    exact pairwise_sortBy
  · rw [sources_eq plain]
    exact (List.mergeSort_perm _ _).nodup_iff.mpr ((nodup_filesBelow distinct).filter _)
  · exact absurd hvendor ((plain path hpath).notMem_vendorDirectories unnamed hpasses dir hdir)

namespace Vendored

/-- A project with a source of its own and one that is vendored. -/
def disk : Disk :=
  [("/p", .directory), ("/p/src", .directory), ("/p/src/lib.rs", .file ""), ("/p/vendor", .directory), ("/p/vendor/foo.rs", .file "")]

/-- The paths of the example are plain. -/
theorem plain : ∀ path ∈ filesBelow disk "/p", Plain path := by
  have hfiles : filesBelow disk "/p" = ["src/lib.rs", "vendor/foo.rs"] := by decide +kernel
  rw [hfiles]
  simp only [List.forall_mem_cons]
  exact ⟨⟨by decide +kernel, by decide +kernel⟩, ⟨by decide +kernel, by decide +kernel⟩, nofun⟩

end Vendored

/-- A pattern to include that matches the vendor directory lets the walk find what is vendored there. -/
theorem includedDirectory_found :
    sources Vendored.disk "/p" .rust ⟨["vendor/**"], []⟩ = selected Vendored.disk "/p" .rust ⟨["vendor/**"], []⟩ ∧
      "vendor/foo.rs" ∈ sources Vendored.disk "/p" .rust ⟨["vendor/**"], []⟩ := by
  have hentered : ∀ path ∈ filesBelow Vendored.disk "/p", isSourceFile .rust path = true →
      Filters.passes ⟨["vendor/**"], []⟩ path = true → Entered ⟨["vendor/**"], []⟩ path := by
    unfold Entered
    decide +kernel
  obtain ⟨-, -, hmem, hequal, -⟩ := @sources_eq_selected_iff Vendored.disk "/p" (by decide) Vendored.plain .rust ⟨["vendor/**"], []⟩
  have hfile : "vendor/foo.rs" ∈ filesBelow Vendored.disk "/p" ∧
      isSourceFile .rust "vendor/foo.rs" = true ∧ Filters.passes ⟨["vendor/**"], []⟩ "vendor/foo.rs" = true := by
    decide +kernel
  exact ⟨hequal.mpr hentered, (hmem _).mpr ⟨hfile.1, hfile.2, hentered _ hfile.1 hfile.2.1 hfile.2.2⟩⟩

/-- A vendored file that is included by its path passes the filters, and the walk does not find it. -/
theorem includedFile_hidden :
    let f : Filters := ⟨["vendor/foo.rs"], []⟩
    "vendor/foo.rs" ∈ filesBelow Vendored.disk "/p" ∧ isSourceFile .rust "vendor/foo.rs" = true ∧ f.passes "vendor/foo.rs" = true ∧
      sources Vendored.disk "/p" .rust f = [] := by
  decide +kernel

end Discovery

end QualityGate
