import QualityGate.Proofs.DiskEntries
import QualityGate.Refactor.Loop

/-!
# Where a backup stands

The backup of a file stands at a place of its own: it is not the file, and it is not the test file that a request about the file
names. So what a run writes itself never overwrites a backup. Nor is the test file the file itself, when the file's path ends in a name.
-/

namespace QualityGate

open QualityGate.Path Refactor

/-! ## A file and its backup -/

/-- Without steps above its start a path keeps none of its steps up. -/
theorem up_notMem_stack {stack : List String} (h : ".." ∉ stack) (parts : List String) :
    ".." ∉ parts.foldl (pushSegment false) stack :=
  fun hmem => (mem_stack hmem).elim h fun hpart => hpart.2.2.2 rfl

/-- A path with one more segment is at least as long as both. -/
theorem length_join_append (parts : List String) (name : String) :
    (Text.join "/" parts).length + name.length ≤ (Text.join "/" (parts ++ [name])).length := by
  unfold Text.join
  by_cases hparts : parts = []
  · subst hparts
    simp
  · rw [String.intercalate_append_of_ne_nil hparts (List.cons_ne_nil _ _), String.intercalate_singleton, String.length_append,
      String.length_append]
    omega

/-- A step at the end of a path makes nothing longer. -/
theorem length_resolve_step {segment : String} (h : ¬IsName segment) (parts : List String) :
    (Text.join "/" (resolveSegments false (parts ++ [segment]))).length ≤
      (Text.join "/" (resolveSegments false parts)).length := by
  have hup := up_notMem_stack (show ".." ∉ ([] : List String) from List.not_mem_nil) parts
  unfold resolveSegments
  rw [List.foldl_append, List.foldl_cons, List.foldl_nil]
  generalize parts.foldl (pushSegment false) [] = stack at hup
  unfold pushSegment
  split
  · exact Nat.le_refl _
  · rename_i hstep
    rw [not_or] at hstep
    have hsegment : segment = ".." := by
      by_contra hne
      exact h ⟨hstep.1, hstep.2, hne⟩
    rw [if_pos hsegment]
    cases stack with
    | nil => exact Nat.le_refl _
    | cons top rest =>
      have htop : top ≠ ".." := by
        rintro rfl
        exact hup List.mem_cons_self
      dsimp only
      rw [if_neg htop, List.reverse_cons]
      exact Nat.le_of_add_right_le (length_join_append rest.reverse top)

theorem slash_notMem_backupSuffix : '/' ∉ backupSuffix.toList := by decide

/-- The name of a copy is a name. -/
theorem isName_backup (name : String) : IsName (name ++ backupSuffix) := by
  have hne : ∀ other, other.length < backupSuffix.length → name ++ backupSuffix ≠ other := by
    intro other hlt heq
    have := congrArg String.length heq
    rw [String.length_append] at this
    omega
  exact ⟨hne "" (by decide), hne "." (by decide), hne ".." (by decide)⟩

/-- An absolute path is known by its resolved segments. -/
theorem key_of_isAbsolute {path : String} (h : isAbsolute path = true) :
    Disk.key path = "/" ++ Text.join "/" (resolveSegments false (segments path)) := by
  unfold Disk.key Path.resolve
  rw [if_pos h, if_pos h]

/-- The path of a copy is absolute when that of the file is. -/
theorem isAbsolute_backupOf (path : String) : isAbsolute (backupOf path) = isAbsolute path := by
  unfold isAbsolute Text.starts backupOf
  rw [String.toList_append]
  cases h : path.toList with
  | nil => decide
  | cons c rest => rfl

theorem endsIn_backupOf {path name : String} (h : EndsIn path name) : EndsIn (backupOf path) (name ++ backupSuffix) :=
  h.append slash_notMem_backupSuffix

/-- A copy is not at the root. -/
theorem key_backupOf_ne_root (path : String) : Disk.key (backupOf path) ≠ "/" := by
  obtain ⟨name, hname⟩ := exists_endsIn path
  exact (endsIn_backupOf hname).key_ne_root (isName_backup name)

/-- A backup does not stand where its file stands. -/
theorem key_backupOf_ne (path : String) : Disk.key (backupOf path) ≠ Disk.key path := by
  obtain ⟨name, hends⟩ := exists_endsIn path
  have hlonger : ∀ text : String, text ++ backupSuffix ≠ text := by
    intro text heq
    have := congrArg String.length heq
    rw [String.length_append] at this
    exact absurd this (by simp [backupSuffix])
  by_cases hname : IsName name
  · intro heq
    have hkey := (endsIn_backupOf hends).key (isName_backup name)
    rw [heq] at hkey
    exact hlonger name (hkey.unique (hends.key hname))
  by_cases habsolute : isAbsolute path = true
  · obtain ⟨parts, hparts, hbackup⟩ := hends.segments_append slash_notMem_backupSuffix
    rw [← backupOf] at hbackup
    rw [key_of_isAbsolute habsolute, key_of_isAbsolute ((isAbsolute_backupOf path).trans habsolute), hparts, hbackup,
      resolveSegments_append false parts (isName_backup name)]
    intro heq
    have hlength := congrArg String.length heq
    rw [String.length_append, String.length_append] at hlength
    have hstep := length_resolve_step hname parts
    have hjoin := length_join_append (resolveSegments false parts) (name ++ backupSuffix)
    have hpos : 0 < (name ++ backupSuffix).length := by
      rw [String.length_append]
      exact Nat.add_pos_right _ (by decide)
    omega
  · unfold Disk.key
    rw [if_neg habsolute, if_neg (by rwa [isAbsolute_backupOf])]
    exact hlonger path

/-! ## A file's tests and its backup -/

/-- The name of a file's tests. -/
def testNameOf (file : String) : String :=
  let path := normalizePath file
  let extension := extname path
  let base := basename path
  let stem := if extension ≠ "" ∧ base ≠ extension then String.ofList (base.toList.take (base.length - extension.length)) else base
  stem ++ "_test" ++ extension

/-- The tests of a file below the sources stand beside it, and others in a directory of their own. -/
theorem testFileFor_eq (file : String) :
    RewriteRequest.testFileFor file =
      if Text.starts (normalizePath file) "src/" || Text.has (normalizePath file) "/src/" then
        Path.join [dirname (normalizePath file), testNameOf file]
      else Path.join ["tests", testNameOf file] := rfl

/-- The tests are named after the file, with `_test` before the extension. -/
theorem testNameOf_spec (file : String) :
    (testNameOf file).toList = (basename (normalizePath file)).toList ++ "_test".toList ∨
      ∃ stem rest, '.' ∉ rest ∧ (basename (normalizePath file)).toList = stem ++ '.' :: rest ∧
        (testNameOf file).toList = stem ++ "_test".toList ++ '.' :: rest := by
  unfold testNameOf
  dsimp only
  rcases extname_spec (normalizePath file) with hnone | ⟨stem, rest, hstem, hrest, hbase, hext⟩
  · left
    rw [hnone]
    simp
  · right
    refine ⟨stem, rest, hrest, hbase, ?_⟩
    have hne : extname (normalizePath file) ≠ "" := by
      rw [hext]
      intro hempty
      have := congrArg String.toList hempty
      simp at this
    have hbaseNe : basename (normalizePath file) ≠ extname (normalizePath file) := by
      intro heq
      rw [heq, hext, String.toList_ofList] at hbase
      have := congrArg List.length hbase
      rw [List.length_append] at this
      exact hstem (List.length_eq_zero_iff.mp (by omega))
    rw [if_pos ⟨hne, hbaseNe⟩, String.toList_append, String.toList_append, String.toList_ofList, hext, String.toList_ofList,
      ← String.length_toList, ← String.length_toList, hbase, String.toList_ofList, List.length_append, Nat.add_sub_cancel, List.take_left]

/-- The name of a file's tests adds nothing but `_test` to the characters of the file's own. -/
theorem mem_testNameOf {file : String} {c : Char} (h : c ∈ (testNameOf file).toList) :
    c ∈ (basename (normalizePath file)).toList ∨ c ∈ "_test".toList := by
  rcases testNameOf_spec file with hname | ⟨stem, rest, -, hbase, hname⟩
  · rwa [hname, List.mem_append] at h
  · rw [hname, List.append_assoc, List.mem_append, List.mem_append] at h
    rw [hbase, List.mem_append]
    rcases h with hmem | hmem | hmem
    · exact .inl (.inl hmem)
    · exact .inr hmem
    · exact .inl (.inr hmem)

theorem slash_notMem_testNameOf (file : String) : '/' ∉ (testNameOf file).toList := fun h =>
  (mem_testNameOf h).elim (basename_spec (normalizePath file)).1 (by decide)

theorem backslash_notMem_testNameOf (file : String) : '\\' ∉ (testNameOf file).toList := fun h =>
  (mem_testNameOf h).elim (fun hbase => backslash_notMem_normalizePath file (mem_of_mem_basename hbase)) (by decide)

/-- The name of tests is longer than that of the file. -/
theorem length_testNameOf (file : String) : (testNameOf file).toList.length = (basename (normalizePath file)).toList.length + 5 := by
  rcases testNameOf_spec file with h | ⟨stem, rest, -, hbase, h⟩
  · rw [h, List.length_append]
    rfl
  · rw [h, hbase]
    simp only [List.length_append, List.length_cons]
    have : "_test".toList.length = 5 := by decide
    omega

/-- The name of tests is a name. -/
theorem isName_testNameOf (file : String) : IsName (testNameOf file) := by
  have hmem : '_' ∈ (testNameOf file).toList := by
    rcases testNameOf_spec file with h | ⟨stem, rest, -, -, h⟩ <;> rw [h] <;> simp
  refine ⟨?_, ?_, ?_⟩ <;> intro heq <;> rw [heq] at hmem <;> exact absurd hmem (by decide)

/-- The path of tests ends in their name. -/
theorem endsIn_testFileFor (file : String) : EndsIn (RewriteRequest.testFileFor file) (testNameOf file) := by
  have hname : EndsIn (testNameOf file) (testNameOf file) := ⟨slash_notMem_testNameOf file, .inl rfl⟩
  rw [testFileFor_eq]
  split
  · exact hname.join (isName_testNameOf file) _
  · exact hname.join (isName_testNameOf file) _

/-- Where the tests of a file are known on the disk, their name is the last. -/
theorem endsIn_key_tests (cfg : RunConfig) (file : String) :
    EndsIn (Disk.key (pathIn cfg (RewriteRequest.testFileFor file))) (testNameOf file) :=
  ((endsIn_testFileFor file).join (isName_testNameOf file) cfg.projectRoot).key (isName_testNameOf file)

/-- Tests are not at the root. -/
theorem key_tests_ne_root (cfg : RunConfig) (file : String) :
    Disk.key (pathIn cfg (RewriteRequest.testFileFor file)) ≠ "/" :=
  ((endsIn_testFileFor file).join (isName_testNameOf file) cfg.projectRoot).key_ne_root (isName_testNameOf file)

/-- The tests of a file are not named like it. -/
theorem testNameOf_ne_name {file name : String} (h : EndsIn file name) : testNameOf file ≠ name := by
  intro heq
  have hsuffix : (testNameOf file).toList <:+ file.toList := by
    rw [heq]
    exact h.suffix
  have hname : (testNameOf file).toList ≠ [] := fun hnil => (isName_testNameOf file).1 (String.toList_eq_nil_iff.mp hnil)
  have hslash := slash_notMem_testNameOf file
  have hshort := (suffix_basename (suffix_normalizePath hsuffix hslash (backslash_notMem_testNameOf file)) hname hslash).length_le
  rw [length_testNameOf] at hshort
  omega

/-- The tests that a request about a file names do not stand where the file stands. -/
theorem key_tests_ne_target (cfg : RunConfig) {file name : String} (h : EndsIn file name) (hname : IsName name) :
    Disk.key (pathIn cfg (RewriteRequest.testFileFor file)) ≠ Disk.key (pathIn cfg file) := by
  have htarget : EndsIn (Disk.key (pathIn cfg file)) name := (h.join hname cfg.projectRoot).key hname
  intro heq
  rw [← heq] at htarget
  exact testNameOf_ne_name h ((endsIn_key_tests cfg file).unique htarget)

/-- Two texts with the same last point agree before it and behind it. -/
theorem append_cons_inj_of_last {c : Char} {a x b y : List Char} (h : a ++ c :: x = b ++ c :: y) (hx : c ∉ x) (hy : c ∉ y) :
    a = b ∧ x = y := by
  have hpieces := congrArg (List.splitOn c) h
  rw [List.splitOn_append_cons_self, List.splitOn_append_cons_self, List.splitOn_eq_singleton hx, List.splitOn_eq_singleton hy]
    at hpieces
  obtain rfl : x = y := List.singleton_inj.mp (List.append_inj' hpieces rfl).2
  exact ⟨List.append_cancel_right h, rfl⟩

/-- Behind its last segment a path only has slashes. -/
theorem getLast?_of_basename {path : String} {c : Char} (hc : c ≠ '/') (h : (basename path).toList.getLast? = some c) :
    ∃ lead slashes, path.toList = lead ++ c :: slashes ∧ ∀ d ∈ slashes, d = '/' := by
  obtain ⟨-, lead, hlead⟩ := basename_spec path
  have hlast : (dropTrailingSlashes path).toList.getLast? = some c := by
    rw [hlead, List.getLast?_append, h]
    rfl
  unfold dropTrailingSlashes at hlast
  dsimp only at hlast
  split at hlast
  · exact absurd (Option.some.inj hlast).symm hc
  · rw [String.toList_ofList] at hlast
    refine ⟨((path.toList.reverse.dropWhile (· = '/')).reverse).dropLast, (path.toList.reverse.takeWhile (· = '/')).reverse, ?_, ?_⟩
    · rw [← List.singleton_append, ← List.append_assoc, List.dropLast_append_getLast? _ hlast, ← List.reverse_append,
        List.takeWhile_append_dropWhile, List.reverse_reverse]
    · intro d hd
      simpa using List.mem_takeWhile_imp (List.mem_reverse.mp hd)

/-- A file that has a base name ends in the last character of it, or in what is taken for a slash. -/
theorem getLast?_of_basename_normalizePath {file : String} {c : Char} (hslash : c ≠ '/')
    (h : (basename (normalizePath file)).toList.getLast? = some c) :
    ∃ d, file.toList.getLast? = some d ∧ (d = c ∨ d = '/' ∨ d = '\\') := by
  obtain ⟨lead, slashes, hpath, hslashes⟩ := getLast?_of_basename hslash h
  obtain ⟨start, hstart⟩ : ∃ start, (file.toList.map fun c => if c = '\\' then '/' else c) = start ++ c :: slashes := by
    unfold normalizePath normalChars at hpath
    rw [String.toList_ofList] at hpath
    split at hpath
    · rename_i rest hrest
      exact ⟨'.' :: '/' :: lead, by rw [hrest, hpath]; rfl⟩
    · exact ⟨lead, hpath⟩
  have hlast : (file.toList.map fun c => if c = '\\' then '/' else c).getLast? = some ((c :: slashes).getLast (List.cons_ne_nil _ _)) := by
    rw [hstart, List.getLast?_append, List.getLast?_eq_some_getLast (List.cons_ne_nil _ _)]
    rfl
  rw [List.getLast?_map] at hlast
  obtain ⟨d, hd, hsame⟩ := Option.map_eq_some_iff.mp hlast
  refine ⟨d, hd, ?_⟩
  have hmem : (c :: slashes).getLast (List.cons_ne_nil _ _) ∈ c :: slashes := List.getLast_mem _
  rw [← hsame] at hmem
  split at hmem
  · rename_i hback
    exact .inr (.inr hback)
  · rcases List.mem_cons.mp hmem with heq | hmem
    · exact .inl heq
    · exact .inr (.inl (hslashes d hmem))

/-- A name that ends in `p`, in a slash or in a backslash is joined to a root with that end. -/
theorem getLast?_of_endsIn_join {root file name : String} {d : Char} (h : EndsIn (Path.join [root, file]) name)
    (hlast : file.toList.getLast? = some d) (hd : d ≠ '.') : name = "" ∨ name.toList.getLast? = some d := by
  have hne : file ≠ "" := by
    rintro rfl
    cases hlast
  obtain ⟨segment, hsegment⟩ := exists_endsIn file
  by_cases hempty : segment = ""
  · subst hempty
    exact .inl (h.unique (hsegment.join_slash hne root))
  have hsegmentLast : segment.toList.getLast? = some d := by
    rcases hsegment.2 with rfl | ⟨lead, rfl⟩
    · exact hlast
    · rw [String.toList_append, List.getLast?_append_of_ne_nil _ (by simpa using hempty)] at hlast
      exact hlast
  have hname : IsName segment := by
    refine ⟨hempty, ?_, ?_⟩ <;> rintro rfl <;> exact hd (Option.some.inj hsegmentLast).symm
  rw [h.unique (hsegment.join hname root)]
  exact .inr hsegmentLast

/-- The tests of a file are not named like its backup. -/
theorem testNameOf_ne_backup {root file name : String} (h : EndsIn (Path.join [root, file]) name) :
    testNameOf file ≠ name ++ backupSuffix := by
  intro heq
  have hchars := congrArg String.toList heq
  rw [String.toList_append] at hchars
  rcases testNameOf_spec file with hplain | ⟨stem, rest, hrest, hbase, hdotted⟩
  · rw [hplain] at hchars
    have hlast := congrArg List.getLast? hchars
    rw [List.getLast?_append_of_ne_nil _ (by decide), List.getLast?_append_of_ne_nil _ (by decide)] at hlast
    exact absurd hlast (by decide)
  · rw [hdotted] at hchars
    obtain ⟨hname, rfl⟩ := append_cons_inj_of_last (y := "backup".toList) hchars hrest (by decide)
    have hbaseLast : (basename (normalizePath file)).toList.getLast? = some 'p' := by
      rw [hbase, List.getLast?_append_of_ne_nil _ (by decide)]
      rfl
    obtain ⟨d, hlast, hd⟩ := getLast?_of_basename_normalizePath (by decide) hbaseLast
    have hnameLast : name.toList.getLast? = some 't' := by
      rw [← hname, List.getLast?_append_of_ne_nil _ (by decide)]
      rfl
    have hdot : d ≠ '.' := by rcases hd with rfl | rfl | rfl <;> decide
    rcases getLast?_of_endsIn_join h hlast hdot with hempty | hnameLast'
    · rw [hempty] at hnameLast
      cases hnameLast
    · rw [hnameLast'] at hnameLast
      obtain rfl := Option.some.inj hnameLast
      rcases hd with hd | hd | hd <;> exact absurd hd (by decide)

/-- The tests that a request about a file names do not stand where the file's backup stands. -/
theorem key_tests_ne_backup (cfg : RunConfig) (file : String) :
    Disk.key (backupOf (pathIn cfg file)) ≠ Disk.key (pathIn cfg (RewriteRequest.testFileFor file)) := by
  obtain ⟨name, hname⟩ := exists_endsIn (pathIn cfg file)
  have hbackup := (endsIn_backupOf hname).key (isName_backup name)
  intro heq
  rw [heq] at hbackup
  exact testNameOf_ne_backup hname ((endsIn_key_tests cfg file).unique hbackup)

end QualityGate
