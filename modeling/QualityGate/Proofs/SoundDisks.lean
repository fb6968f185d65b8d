import QualityGate.Proofs.DiskEntries

/-!
# Sound disks

On a disk as file systems keep it each entry stands at a path that is worked out, and can be reached: the path is no longer than
paths can be, and there are directories all the way to it. A directory with a file in it is there on such a disk
(`Disk.Reaches.directory`), and it can be made again without a change (`Disk.Reaches.ensureDirectory_eq`).
-/

namespace QualityGate

namespace Path

/-- Whether a path leads from the root through names, with nothing left to work out. -/
structure LeadsThrough (path : String) (names : List String) : Prop where
  eq : path = "/" ++ Text.join "/" names
  isName : ∀ name ∈ names, '/' ∉ name.toList ∧ IsName name

theorem exists_leadsThrough_resolve (directory path : String) : ∃ names, LeadsThrough (resolve directory path) names :=
  ⟨_, rfl, fun _ hmem => ⟨slash_notMem_of_mem_segments (mem_resolveSegments hmem).1, (mem_resolveSegments hmem).2⟩⟩

namespace LeadsThrough

variable {path name : String} {names : List String}

/-- A path from the root is absolute. -/
theorem isAbsolute (h : LeadsThrough path names) : Path.isAbsolute path = true := by
  rw [h.eq, Path.isAbsolute, Text.starts, String.toList_append]
  rfl

/-- A path from the root is not empty. -/
theorem ne_empty (h : LeadsThrough path names) : path ≠ "" := by
  rintro rfl
  have := congrArg String.toList h.eq
  simp at this

/-- The names on the way are all that is left of the path when it is worked out. -/
theorem resolveSegments_eq (h : LeadsThrough path names) : resolveSegments false (segments path) = names := by
  rw [h.eq]
  exact resolveSegments_segments_slash h.isName

/-- A path with nothing left to work out is known as it is spelled. -/
theorem key_eq (h : LeadsThrough path names) : Disk.key path = path := by
  unfold Disk.key Path.resolve
  rw [if_pos h.isAbsolute, if_pos h.isAbsolute]
  dsimp only
  rw [h.resolveSegments_eq, h.eq]

/-- The steps of the path, other than that from the root, are the names. -/
theorem steps_eq (h : LeadsThrough path names) : (segments (Disk.key path)).filter (· ≠ "") = names := by
  have hnames : names.filter (· ≠ "") = names :=
    List.filter_eq_self.mpr fun name hmem => by simpa using (h.isName name hmem).2.1
  rw [h.key_eq, h.eq]
  by_cases hempty : names = []
  · subst hempty
    decide
  · rw [segments_slash_join hempty fun part hmem => (h.isName part hmem).1, List.filter_cons_of_neg (by simp), hnames]

/-- A name in the directory of a path. -/
theorem join (h : LeadsThrough path names) (hname : IsName name) (hslash : '/' ∉ name.toList) :
    LeadsThrough (Path.join [path, name]) (names ++ [name]) := by
  refine ⟨?_, fun part hmem => ?_⟩
  · have hwhole : Path.join [path, name] = clean (path ++ "/" ++ name) := by
      simp [Path.join, Text.join, String.intercalate_cons_cons, hname.1, h.ne_empty, String.append_assoc]
    have hends : EndsIn (path ++ "/" ++ name) name := ⟨hslash, .inr ⟨path, rfl⟩⟩
    have hnoSlash : Text.ends (path ++ "/" ++ name) "/" = false := by
      rw [← Bool.not_eq_true, ← endsIn_iff_ends (hends.ne_empty hname.1)]
      exact fun hempty => hname.1 (hends.unique hempty)
    have habsolute : Path.isAbsolute (path ++ "/" ++ name) = true := by
      rw [h.eq, Path.isAbsolute, Text.starts, String.append_assoc, String.append_assoc, String.toList_append]
      rfl
    rw [hwhole, clean, if_neg (hends.ne_empty hname.1), habsolute, hnoSlash, segments_slash path hslash]
    dsimp only
    rw [resolveSegments_append _ _ hname, Bool.not_true, h.resolveSegments_eq, if_neg (join_append_ne_empty _ hname hslash),
      if_pos rfl]
    simp
  · rcases List.mem_append.mp hmem with hmem | hmem
    · exact h.isName part hmem
    · obtain rfl := List.mem_singleton.mp hmem
      exact ⟨hslash, hname⟩

/-- One more name stands behind a slash. -/
theorem join_names {names : List String} (hne : names ≠ []) (name : String) :
    Text.join "/" (names ++ [name]) = Text.join "/" names ++ "/" ++ name := by
  unfold Text.join
  rw [String.intercalate_append_of_ne_nil hne (List.cons_ne_nil _ _), String.intercalate_singleton]

/-- A path in a directory starts with the path of the directory. -/
theorem exists_append_eq_join (h : LeadsThrough path names) (hname : IsName name) (hslash : '/' ∉ name.toList) :
    ∃ more, path ++ more = Path.join [path, name] := by
  rw [(h.join hname hslash).eq]
  by_cases hempty : names = []
  · subst hempty
    exact ⟨name, by rw [h.eq]; simp [Text.join]⟩
  · exact ⟨"/" ++ name, by rw [h.eq, join_names hempty]; simp only [String.append_assoc]⟩

end LeadsThrough

end Path

namespace Disk

open QualityGate.Path

variable {d : Disk} {path name : String} {names : List String}

/-- Whether a disk has directories all the way to a path that is worked out and no longer than paths can be. -/
structure Reaches (d : Disk) (path : String) : Prop where
  key_eq : key path = path
  nul : '\x00' ∉ path.toList
  clear : d.obstacle? path = none
  above : ∀ p ∈ parents path, d.isDirectory p

instance (d : Disk) (path : String) : Decidable (d.Reaches path) :=
  decidable_of_iff (key path = path ∧ '\x00' ∉ path.toList ∧ d.obstacle? path = none ∧ ∀ p ∈ parents path, d.isDirectory p)
    ⟨fun ⟨hkey, hnul, hclear, habove⟩ => ⟨hkey, hnul, hclear, habove⟩, fun h => ⟨h.key_eq, h.nul, h.clear, h.above⟩⟩

/-- Whether a disk reaches all that stands on it. -/
def Sound (d : Disk) : Prop := ∀ entry ∈ d, d.Reaches entry.1

instance (d : Disk) : Decidable d.Sound := inferInstanceAs (Decidable (∀ entry ∈ d, d.Reaches entry.1))

/-- One more name has one more directory above it. -/
theorem above_append {names : List String} (hne : names ≠ []) (last base : String) :
    above (names ++ [last]) base = above names base ++ [base ++ "/" ++ Text.join "/" names] := by
  induction names generalizing base with
  | nil => exact absurd rfl hne
  | cons name rest ih =>
    cases rest with
    | nil => simp [above, Text.join]
    | cons next rest =>
      have hrest := ih (List.cons_ne_nil _ _) (base ++ "/" ++ name)
      show (base ++ "/" ++ name) :: above ((next :: rest) ++ [last]) (base ++ "/" ++ name) = _
      rw [hrest]
      simp [above, Text.join, String.intercalate_cons_cons, String.append_assoc]

/-- The directories above a path in a directory are those above the directory and itself, other than the root. -/
theorem parents_join (h : LeadsThrough path names) (hname : IsName name) (hslash : '/' ∉ name.toList) (hne : names ≠ []) :
    parents (Path.join [path, name]) = parents path ++ [path] := by
  unfold parents
  rw [(h.join hname hslash).steps_eq, h.steps_eq, above_append hne, h.eq, String.empty_append]

/-- What is in the way to a directory is in the way to all below it. -/
theorem obstacleBelow?_append (names more : List String) (directory : String)
    (h : d.obstacleBelow? directory (names ++ more) = none) : d.obstacleBelow? directory names = none := by
  induction names generalizing directory with
  | nil => rfl
  | cons name rest ih =>
    rw [List.cons_append, obstacleBelow?] at h
    rw [obstacleBelow?]
    split at h
    · cases h
    · rename_i hname
      rw [if_neg hname]
      split at h
      · rename_i hfile
        rw [if_pos hfile]
        split at h
        · rename_i hlast
          rw [(List.append_eq_nil_iff.mp (List.isEmpty_iff.mp hlast)).1]
          rfl
        · cases h
      · rename_i hfile
        rw [if_neg hfile]
        split at h
        · rename_i hdirectory
          rw [if_pos hdirectory]
          exact ih _ h
        · rename_i hdirectory
          rw [if_neg hdirectory]

/-- The directory of what a disk reaches is there, and reached. -/
theorem Reaches.directory (h : d.Reaches (Path.join [path, name])) (hpath : LeadsThrough path names) (hname : IsName name)
    (hslash : '/' ∉ name.toList) : d.Reaches path ∧ d.isDirectory path = true := by
  obtain ⟨more, hmore⟩ := hpath.exists_append_eq_join hname hslash
  have hclear := h.clear
  unfold obstacle? at hclear
  rw [(hpath.join hname hslash).steps_eq] at hclear
  split at hclear
  · cases hclear
  rename_i hlength
  have hnul : '\x00' ∉ path.toList := fun hmem => h.nul (by
    rw [← hmore, String.toList_append]
    exact List.mem_append_left _ hmem)
  have hobstacle : d.obstacle? path = none := by
    rw [← hmore, String.utf8ByteSize_append] at hlength
    unfold obstacle?
    rw [if_neg (by omega), hpath.steps_eq]
    exact obstacleBelow?_append names [name] "" hclear
  by_cases hempty : names = []
  · subst hempty
    refine ⟨⟨hpath.key_eq, hnul, hobstacle, fun p hp => ?_⟩, ?_⟩
    · unfold parents at hp
      rw [hpath.steps_eq] at hp
      exact absurd hp List.not_mem_nil
    · have hroot : key path = "/" := by
        rw [hpath.key_eq, hpath.eq]
        rfl
      unfold isDirectory at?
      rw [if_pos hroot]
      rfl
  · have habove := h.above
    rw [parents_join hpath hname hslash hempty] at habove
    exact ⟨⟨hpath.key_eq, hnul, hobstacle, fun p hp => habove p (List.mem_append_left _ hp)⟩,
      habove path (List.mem_append_right _ List.mem_cons_self)⟩

/-- Directories that are there are made without a change. -/
theorem withDirectories_eq {paths : List String} (h : ∀ p ∈ paths, d.isDirectory p = true) : paths.foldl withDirectory d = d := by
  induction paths with
  | nil => rfl
  | cons p paths ih =>
    have hthere : d.withDirectory p = d := by
      unfold withDirectory
      rw [beq_iff_eq.mp (h p List.mem_cons_self)]
      rfl
    rw [List.foldl_cons, hthere]
    exact ih fun q hq => h q (List.mem_cons_of_mem _ hq)

/-- A directory that is there, with all above it, need not be made. -/
theorem Reaches.ensureDirectory_eq (h : d.Reaches path) (hpath : d.isDirectory path = true) : d.ensureDirectory path = d := by
  refine withDirectories_eq fun p hp => ?_
  rcases List.mem_append.mp hp with hp | hp
  · exact h.above p hp
  · rw [List.mem_singleton.mp hp, h.key_eq]
    exact hpath

/-- A file that is written as it is leaves every entry as it is. -/
theorem Reaches.at?_write (h : d.Reaches path) {text : String} (htext : d.text? path = some text) (other : String) :
    (d.write path text).at? other = d.at? other := by
  have hat := text?_eq_some_iff.mp htext
  have hdirectories : (parents path).foldl withDirectory d = d := withDirectories_eq h.above
  show (((parents path).foldl withDirectory d).put path (.file text)).at? other = d.at? other
  rw [hdirectories]
  by_cases hkey : key other = key path
  · have hother : ∀ d : Disk, d.at? other = d.at? path := fun d => by
      unfold at?
      rw [hkey]
    have hroot : key path ≠ "/" := fun hroot => by
      unfold at? at hat
      rw [if_pos hroot] at hat
      cases hat
    rw [hother, hother, at?_put_self hroot, hat]
  · exact at?_put_of_ne hkey d _

/-- What stands on a sound disk is reached. -/
theorem Sound.reaches (h : d.Sound) {e : DiskEntry} (hroot : key path ≠ "/") (hat : d.at? path = some e) : d.Reaches (key path) := by
  rw [at?_eq_lookup hroot, List.lookup_eq_some_iff] at hat
  obtain ⟨before, after, heq, -⟩ := hat
  exact h (key path, e) (heq ▸ List.mem_append_right _ List.mem_cons_self)

end Disk

end QualityGate
