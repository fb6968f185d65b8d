import QualityGate.Coverage.Report
import QualityGate.Proofs.Paths
import QualityGate.Proofs.Records

/-!
# The coverage of a file

A report has the percentages under the absolute paths of the files; a file of a project is looked up by its path in the project. The
look-up takes the first entry that ends in a slash and the path. So each file gets its own percentage exactly if no file stands at the
end of the absolute path of one before it, and none has a name that every record answers to (`ofFile?_own_iff`).
-/

namespace QualityGate

namespace Path

/-- A path in a project: with forward slashes and no leading `./`, and with no segment that is empty. -/
structure IsRelative (path : String) : Prop where
  normal : normalizePath path = path
  named : "" ∉ segments path

instance (path : String) : Decidable (IsRelative path) :=
  decidable_of_iff (normalizePath path = path ∧ "" ∉ segments path) ⟨fun h => ⟨h.1, h.2⟩, fun h => ⟨h.normal, h.named⟩⟩

namespace IsRelative

variable {path : String}

/-- A relative path has no empty segment. -/
theorem nil_notMem_splitOn (h : IsRelative path) : [] ∉ path.toList.splitOn '/' := by
  intro hmem
  refine h.named ?_
  rw [segments_eq]
  exact List.mem_map.mpr ⟨[], hmem, rfl⟩

/-- A path in a project does not begin with a slash. -/
theorem ne_slash_cons (h : IsRelative path) (rest : List Char) : path.toList ≠ '/' :: rest := by
  intro hpath
  have hsplit : List.splitOn '/' ([] ++ '/' :: rest) = List.splitOn '/' [] ++ List.splitOn '/' rest :=
    List.splitOn_append_cons_self [] rest
  refine h.nil_notMem_splitOn ?_
  rw [hpath, ← List.nil_append ('/' :: rest), hsplit]
  simp

/-- In a path in a project no slash stands behind another. -/
theorem ne_append_slashes (h : IsRelative path) (above rest : List Char) : path.toList ≠ above ++ '/' :: '/' :: rest := by
  intro hpath
  have hsplit : List.splitOn '/' ('/' :: rest) = [[]] ++ List.splitOn '/' rest := by
    rw [← List.nil_append ('/' :: rest), List.splitOn_append_cons_self]
    simp
  refine h.nil_notMem_splitOn ?_
  rw [hpath, List.splitOn_append_cons_self, hsplit]
  simp

end IsRelative

end Path

namespace CoverageReport

open QualityGate.Path (IsRelative isAbsolute)

/-- Where a file of a project stands. -/
def absolute (root file : String) : String := root ++ "/" ++ file

/-- A report of the coverage of the files of a project, by their absolute paths in the order of the list. -/
def ofProject (total : Option Number) (root : String) (files : List String) (percent : String → Number) : CoverageReport :=
  ⟨total, files.map fun file => (absolute root file, percent file)⟩

/-- Whether the absolute path of a file ends in a slash and another file. -/
def EndsWith (root file other : String) : Prop := '/' :: other.toList <:+ (absolute root file).toList

instance (root file other : String) : Decidable (EndsWith root file other) :=
  inferInstanceAs (Decidable ('/' :: other.toList <:+ (absolute root file).toList))

variable {root file : String} {files : List String} {total : Option Number} {percent : String → Number}

theorem toList_absolute (root file : String) : (absolute root file).toList = root.toList ++ '/' :: file.toList := by
  simp [absolute]

/-- The absolute path of a file ends in the file. -/
theorem endsWith_self (root file : String) : EndsWith root file file := by
  rw [EndsWith, toList_absolute]
  exact List.suffix_append _ _

/-- An absolute path begins with a slash. -/
theorem absolute_eq_slash_cons (hroot : isAbsolute root) (file : String) : ∃ rest, (absolute root file).toList = '/' :: rest := by
  obtain ⟨rest, hrest⟩ := List.isPrefixOf_iff_prefix.mp hroot
  rw [toList_absolute, ← hrest]
  exact ⟨_, rfl⟩

/-- The entries of a report by absolute paths that a look-up takes for those of a file. -/
theorem isTail_iff (hroot : isAbsolute root) (h : IsRelative file) (other : String) :
    (isTail (absolute root other).toList file.toList || isTail file.toList (absolute root other).toList) = true ↔
      EndsWith root other file := by
  have hbelow : isTail file.toList (absolute root other).toList = false := by
    obtain ⟨rest, hrest⟩ := absolute_eq_slash_cons hroot other
    refine Bool.eq_false_iff.mpr fun htail => ?_
    obtain ⟨above, habove⟩ := List.isSuffixOf_iff_suffix.mp htail
    rw [hrest] at habove
    exact h.ne_append_slashes above rest habove.symm
  rw [hbelow, Bool.or_false, isTail, List.isSuffixOf_iff_suffix, EndsWith]

/-- A file of a project is looked up among the absolute paths from the first to the last. -/
theorem ofFile?_ofProject (hroot : isAbsolute root) (h : IsRelative file) :
    (ofProject total root files percent).ofFile? file =
      match Inherited.ofName? file with
      | some answer => some (.inherited answer)
      | none => (files.find? fun other => EndsWith root other file).map fun other => .number (percent other) := by
  have hexact : Record.get? (ofProject total root files percent).byFile file = none := by
    refine Record.get?_eq_none_iff.mpr fun hmem => ?_
    unfold ofProject Record.keys at hmem
    rw [List.map_map] at hmem
    obtain ⟨other, -, hother⟩ := List.mem_map.mp hmem
    obtain ⟨rest, hrest⟩ := absolute_eq_slash_cons hroot other
    rw [show absolute root other = file from hother] at hrest
    exact h.ne_slash_cons rest hrest
  unfold ofFile?
  rw [h.normal]
  dsimp only
  rw [hexact]
  cases Inherited.ofName? file with
  | some answer => rfl
  | none =>
    dsimp only [ofProject]
    rw [List.find?_map, Option.map_map]
    congr 1
    refine congrArg (List.find? · files) (funext fun other => ?_)
    exact Bool.eq_iff_iff.mpr ((isTail_iff hroot h other).trans decide_eq_true_iff.symm)

/-- Each item is the first that passes its test exactly if no item passes the test of a later one. -/
theorem find?_self_iff {α : Type} (test : α → α → Bool) {items : List α} (hself : ∀ x ∈ items, test x x = true)
    (hdistinct : items.Nodup) :
    (∀ x ∈ items, items.find? (test x) = some x) ↔ items.Pairwise fun earlier later => test later earlier = false := by
  induction items with
  | nil => exact iff_of_true nofun .nil
  | cons first rest ih =>
    obtain ⟨hfirst, hrest⟩ := List.forall_mem_cons.mp hself
    obtain ⟨hnew, hdistinct⟩ := List.nodup_cons.mp hdistinct
    rw [List.forall_mem_cons, List.pairwise_cons, ← ih hrest hdistinct, List.find?_cons_of_pos hfirst]
    constructor
    · rintro ⟨-, h⟩
      have hpasses : ∀ x ∈ rest, test x first = false := by
        intro x hx
        refine Bool.eq_false_iff.mpr fun hpass => hnew ?_
        have heq := h x hx
        rw [List.find?_cons_of_pos hpass] at heq
        exact Option.some.inj heq ▸ hx
      refine ⟨hpasses, fun x hx => ?_⟩
      rw [← h x hx, List.find?_cons_of_neg (by simp [hpasses x hx])]
    · rintro ⟨hpasses, h⟩
      refine ⟨rfl, fun x hx => ?_⟩
      rw [List.find?_cons_of_neg (by simp [hpasses x hx]), h x hx]

/-- Items of which none passes the test of another are in no order in which one passes that of a later one, and conversely. -/
theorem pairwise_perm_iff {α : Type} [DecidableEq α] {r : α → α → Prop} {items : List α} (hdistinct : items.Nodup) :
    (∀ order : List α, order.Perm items → order.Pairwise r) ↔ ∀ x ∈ items, ∀ y ∈ items, x ≠ y → r x y := by
  constructor
  · intro h x hx y hy hne
    have hpair := h (x :: items.erase x) (List.perm_cons_erase hx).symm
    exact (List.pairwise_cons.mp hpair).1 y ((List.mem_erase_of_ne hne.symm).mpr hy)
  · intro h order horder
    refine (horder.nodup_iff.mpr hdistinct).imp_of_mem fun hx hy hne => ?_
    exact h _ (horder.mem_iff.mp hx) _ (horder.mem_iff.mp hy) hne

/-- Whether every file of a project gets its own percentage, whatever the percentages are. -/
def EachOwn (total : Option Number) (root : String) (files : List String) : Prop :=
  ∀ percent : String → Number, ∀ file ∈ files, (ofProject total root files percent).ofFile? file = some (.number (percent file))

/-- Every file gets its own percentage when none is an inherited name, and no absolute path ends in a file that is listed behind it. -/
theorem eachOwn_iff (hroot : isAbsolute root) (hfiles : ∀ file ∈ files, IsRelative file) (hdistinct : files.Nodup) :
    EachOwn total root files ↔ (∀ file ∈ files, Inherited.ofName? file = none) ∧
      files.Pairwise fun earlier later => ¬ EndsWith root earlier later := by
  have hself : ∀ file ∈ files, decide (EndsWith root file file) = true := fun file _ => decide_eq_true (endsWith_self root file)
  have hfirst : (∀ file ∈ files, files.find? (fun other => EndsWith root other file) = some file) ↔
      files.Pairwise fun earlier later => ¬ EndsWith root earlier later := by
    rw [find?_self_iff (fun file other => decide (EndsWith root other file)) hself hdistinct]
    simp only [decide_eq_false_iff_not]
  rw [← hfirst, ← forall₂_and]
  constructor
  · intro h file hfile
    -- The file alone has everything covered, so only its own entry has its percentage.
    have hown := h (fun other => if other = file then 100 else 0) file hfile
    rw [ofFile?_ofProject hroot (hfiles file hfile)] at hown
    cases hname : Inherited.ofName? file with
    | some answer =>
      rw [hname] at hown
      cases hown
    | none =>
      rw [hname, Option.map_eq_some_iff] at hown
      obtain ⟨other, hfound, hpercent⟩ := hown
      have hsame : other = file := by
        by_contra hne
        rw [if_neg hne, if_pos rfl, Figure.number.injEq] at hpercent
        exact absurd hpercent (by decide +kernel)
      exact ⟨rfl, hsame ▸ hfound⟩
  · intro h percent file hfile
    obtain ⟨hname, hfound⟩ := h file hfile
    rw [ofFile?_ofProject hroot (hfiles file hfile), hname, hfound]
    rfl

/-- In a report by absolute paths, every file of a project gets its own percentage, whatever the percentages are, exactly if none has a
name that every record answers to, and none stands behind a slash at the end of the absolute path of a file before it. So it does in
whatever order the report lists the files exactly if none has such a name, and none stands so at the end of another. -/
theorem ofFile?_own_iff (hroot : isAbsolute root) (hfiles : ∀ file ∈ files, IsRelative file) (hdistinct : files.Nodup) :
    (EachOwn total root files ↔ (∀ file ∈ files, Inherited.ofName? file = none) ∧
      files.Pairwise fun earlier later => ¬ EndsWith root earlier later) ∧
    ((∀ order : List String, order.Perm files → EachOwn total root order) ↔ (∀ file ∈ files, Inherited.ofName? file = none) ∧
      ∀ file ∈ files, ∀ other ∈ files, file ≠ other → ¬ EndsWith root file other) := by
  refine ⟨eachOwn_iff hroot hfiles hdistinct, ?_⟩
  have horder : ∀ order : List String, order.Perm files → (EachOwn total root order ↔
      (∀ file ∈ files, Inherited.ofName? file = none) ∧ order.Pairwise fun earlier later => ¬ EndsWith root earlier later) := by
    intro order hperm
    have hsame : (∀ file ∈ order, Inherited.ofName? file = none) ↔ ∀ file ∈ files, Inherited.ofName? file = none :=
      forall_congr' fun file => imp_congr_left hperm.mem_iff
    rw [← hsame]
    exact eachOwn_iff hroot (fun file hfile => hfiles file (hperm.mem_iff.mp hfile)) (hperm.nodup_iff.mpr hdistinct)
  rw [← pairwise_perm_iff hdistinct]
  constructor
  · intro h
    exact ⟨((horder files (.refl _)).mp (h files (.refl _))).1, fun order hperm => ((horder order hperm).mp (h order hperm)).2⟩
  · rintro ⟨hnames, hpairs⟩ order hperm
    exact (horder order hperm).mpr ⟨hnames, hpairs order hperm⟩

/-- Files of which one ends in the name of the other, but not behind a slash. -/
theorem otherTail_own : isAbsolute "/work/demo" ∧ (∀ file ∈ ["src/my_lib.rs", "lib.rs"], IsRelative file) ∧
    EachOwn none "/work/demo" ["src/my_lib.rs", "lib.rs"] := by
  have hroot : isAbsolute "/work/demo" := by decide
  have hfiles : ∀ file ∈ ["src/my_lib.rs", "lib.rs"], IsRelative file := by decide +kernel
  obtain ⟨hown, -⟩ := @ofFile?_own_iff "/work/demo" ["src/my_lib.rs", "lib.rs"] none hroot hfiles (by decide)
  exact ⟨hroot, hfiles, hown.mpr (by decide +kernel)⟩

/-- A file at the end of the path of one that is listed before it gets the percentage of that one; so does a file in a directory named
like the project. -/
theorem nestedFile_not_own :
    let nested := ofProject none "/work/demo" ["crates/a/src/lib.rs", "src/lib.rs"] fun file => if file = "src/lib.rs" then 90 else 10
    let named := ofProject none "/work/demo" ["cli.py", "demo/cli.py"] fun file => if file = "demo/cli.py" then 90 else 10
    nested.ofFile? "src/lib.rs" = some (.number 10) ∧ named.ofFile? "demo/cli.py" = some (.number 10) := by
  decide +kernel

end CoverageReport

end QualityGate
