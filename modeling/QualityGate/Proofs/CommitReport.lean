import QualityGate.Proofs.FileHistories
import QualityGate.Proofs.LoggedCommits
import QualityGate.Proofs.Orders

/-!
# The report of a log

The report of a printed log says what the commits say exactly if every author can be counted and no path is printed in quotes
(`ofLog_tells_iff`).
-/

namespace QualityGate.Churn

variable {asciiOnly : Bool} {commits : List LoggedCommit} {output : List Char} {periodDays : Number} {now : Instant}

/-! ## What a report tells -/

/-- The counts add up to a number: one is added after the other, which is exact as far as every whole number is there. -/
structure IsTotal (counts : List Nat) (x : Number) : Prop where
  eq_added : x = added counts
  exact : counts.sum ≤ 2 ^ 53 → x = .ofNat counts.sum

/-- Counts that are added one after the other add up. -/
theorem isTotal_added (counts : List Nat) : IsTotal counts (added counts) where
  eq_added := rfl
  exact h := by
    have hsum := Number.foldl_add_ofNat 0 counts (by rwa [Nat.zero_add])
    rwa [Nat.zero_add] at hsum

/-- Whether a commit lists a file. -/
def LoggedCommit.lists (c : LoggedCommit) (path : String) : Bool := c.entries.any (·.path == path)

/-- The commits that list a file. -/
def touching (commits : List LoggedCommit) (path : String) : List LoggedCommit := commits.filter (·.lists path)

/-- The entries of a file. -/
def entriesOf (commits : List LoggedCommit) (path : String) : List Entry := commits.flatMap (·.entries.filter (·.path == path))

/-- Whether what a report says of a file is what the commits say of it. -/
structure TellsFile (commits : List LoggedCommit) (f : FileChurn) : Prop where
  commitCount : f.commitCount = (touching commits f.path).length
  authors_nodup : f.uniqueAuthors.Nodup
  mem_authors : ∀ author, author ∈ f.uniqueAuthors ↔ author ∈ (touching commits f.path).map (·.author)
  additions : IsTotal ((entriesOf commits f.path).map (·.additions.getD 0)) f.additions
  deletions : IsTotal ((entriesOf commits f.path).map (·.deletions.getD 0)) f.deletions
  firstSeen : ∃ first, IsLeast {date | date ∈ (touching commits f.path).map (·.date)} first ∧ f.firstSeen = Instant.text first
  lastModified : ∃ last, IsGreatest {date | date ∈ (touching commits f.path).map (·.date)} last ∧ f.lastModified = Instant.text last

/-- Whether a report says of the commits, their authors and the files that they list what the commits say. -/
structure Tells (commits : List LoggedCommit) (report : ChurnAnalysis) : Prop where
  totalCommits : report.summary.totalCommits = commits.length
  mem_authors : ∀ author, (report.summary.authorContributions.get? author).isSome ↔ author ∈ commits.map (·.author)
  contributions : ∀ author ∈ commits.map (·.author), ∃ x, report.summary.authorContributions.get? author = some (.number x) ∧
    IsTotal (List.replicate ((commits.map (·.author)).count author) 1) x
  paths_nodup : (report.files.map (·.path)).Nodup
  mem_paths : ∀ path, path ∈ report.files.map (·.path) ↔ touching commits path ≠ []
  files : ∀ f ∈ report.files, TellsFile commits f

/-! ## Files with histories -/

/-- A report lists the files that have a history. -/
theorem paths_perm : ((ofLog output periodDays now).files.map (·.path)).Perm (Record.keys (readLog output).files) := by
  unfold ofLog sortBy
  refine ((List.mergeSort_perm _ _).map FileChurn.path).trans (.of_eq ?_)
  rw [List.map_map, List.map_map]
  rfl

/-- A file of a report with its history. -/
structure Reports (f : FileChurn) (h : History) : Prop where
  commitCount : f.commitCount = h.commits
  uniqueAuthors : f.uniqueAuthors = sortTexts h.authors
  additions : f.additions = h.additions
  deletions : f.deletions = h.deletions
  firstSeen : f.firstSeen = Instant.text h.first
  lastModified : f.lastModified = Instant.text h.last

/-- A file of a report has a history that is reported. -/
theorem exists_history {f : FileChurn} (h : f ∈ (ofLog output periodDays now).files) :
    ∃ history, (f.path, history) ∈ (readLog output).files ∧ Reports f history := by
  unfold ofLog at h
  dsimp only at h
  obtain ⟨raw, hraw, rfl⟩ := List.mem_map.mp (mem_sortBy.mp h)
  obtain ⟨⟨path, history⟩, hfile, rfl⟩ := List.mem_map.mp hraw
  exact ⟨history, hfile, ⟨rfl, rfl, rfl, rfl, rfl, rfl⟩⟩

/-! ## Commits that are read -/

/-- The changes that are read of some commits. -/
def changesOf (asciiOnly : Bool) (commits : List LoggedCommit) : List (Commit × Change) :=
  commits.flatMap fun c => c.entries.map fun e => (c.commit, e.change asciiOnly)

/-- Commits add to their number, to the contributions and to the histories. -/
theorem foldl_after (commits : List LoggedCommit) (log : Log) :
    (commits.foldl (Log.after asciiOnly) log).commits = log.commits + commits.length ∧
    (commits.foldl (Log.after asciiOnly) log).contributions = (commits.map (·.author)).foldl Record.count log.contributions ∧
    (commits.foldl (Log.after asciiOnly) log).files =
      (changesOf asciiOnly commits).foldl (fun files x => addChange files x.1 x.2) log.files := by
  induction commits generalizing log with
  | nil => exact ⟨rfl, rfl, rfl⟩
  | cons c commits ih =>
    obtain ⟨hcommits, hcontributions, hfiles⟩ := ih (log.after asciiOnly c)
    refine ⟨?_, hcontributions, ?_⟩
    · rw [List.foldl_cons, hcommits, List.length_cons]
      simp only [Log.after]
      omega
    · rw [List.foldl_cons, hfiles, changesOf, changesOf, List.flatMap_cons, List.foldl_append, List.foldl_map]
      simp only [Log.after, List.foldl_map]

/-! ## Entries without quotes -/

/-- A commit that lists a file has one entry of it. -/
theorem LoggedCommit.length_filter (c : LoggedCommit) (path : String) :
    (c.entries.filter (·.path == path)).length = if c.lists path then 1 else 0 := by
  have hcount : (c.entries.filter (·.path == path)).length = (c.entries.map (·.path)).count path := by
    rw [List.count_eq_countP, List.countP_map, List.countP_eq_length_filter]
    rfl
  have hlists : c.lists path = true ↔ path ∈ c.entries.map (·.path) := by
    simp [lists]
  rw [hcount, c.distinct.count]
  simp only [hlists]

/-- The changes that are read of a file are those that the commits list for it. -/
theorem ofFile_changesOf (h : ∀ c ∈ commits, ∀ e ∈ c.entries, e.IsBare asciiOnly) (path : String) :
    ofFile path (changesOf asciiOnly commits) =
      commits.flatMap fun c => (c.entries.filter (·.path == path)).map fun e => (c.commit, e.change asciiOnly) := by
  unfold ofFile changesOf
  rw [List.filter_flatMap]
  refine List.flatMap_congr fun c hc => ?_
  rw [List.filter_map]
  refine congrArg _ (List.filter_congr fun e he => ?_)
  dsimp only [Function.comp_apply]
  rw [e.path_change (h c hc e he)]

/-- The changes of a file are read of the commits that list it. -/
theorem map_fst_ofFile (h : ∀ c ∈ commits, ∀ e ∈ c.entries, e.IsBare asciiOnly) (path : String) :
    (ofFile path (changesOf asciiOnly commits)).map (·.1) = (touching commits path).map (·.commit) := by
  have hcommit : ∀ c : LoggedCommit, ((c.entries.filter (·.path == path)).map fun e => (c.commit, e.change asciiOnly)).map (·.1) =
      if c.lists path then [c.commit] else [] := by
    intro c
    rw [List.map_map, show (Prod.fst ∘ fun e : Entry => (c.commit, e.change asciiOnly)) = fun _ => c.commit from rfl, List.map_const',
      c.length_filter]
    split <;> rfl
  rw [ofFile_changesOf h, List.map_flatMap]
  simp only [hcommit]
  clear h
  induction commits with
  | nil => rfl
  | cons c commits ih =>
    rw [List.flatMap_cons, ih, touching, touching, List.filter_cons]
    split <;> rfl

section Bare

variable (hbare : ∀ c ∈ commits, ∀ e ∈ c.entries, e.IsBare asciiOnly)

include hbare

/-- What is read of the counts of a file adds up to their total. -/
theorem isTotal_ofFile {path : String} {count : Entry → Nat} {read : Change → Number}
    (hread : ∀ e : Entry, read (e.change asciiOnly) = .ofNat (count e)) :
    IsTotal ((entriesOf commits path).map count) (((ofFile path (changesOf asciiOnly commits)).map (read ·.2)).foldl (· + ·) 0) := by
  have hmap : (ofFile path (changesOf asciiOnly commits)).map (read ·.2) = ((entriesOf commits path).map count).map Number.ofNat := by
    rw [ofFile_changesOf hbare, List.map_flatMap, entriesOf, List.map_map, List.map_flatMap]
    refine List.flatMap_congr fun c _ => ?_
    rw [List.map_map]
    exact List.map_congr_left fun e _ => hread e
  rw [hmap, List.foldl_map]
  exact isTotal_added _

/-- What is read of the changes of a file is read of the commits that touch it. -/
theorem map_ofFile {α : Type} (path : String) (read : Commit → α) :
    (ofFile path (changesOf asciiOnly commits)).map (fun x => read x.1) = (touching commits path).map fun c => read c.commit := by
  have hmap := congrArg (List.map read) (map_fst_ofFile hbare path)
  rwa [List.map_map, List.map_map] at hmap

/-- The dates of the changes of a file are those of the commits that touch it. -/
theorem dates_ofFile {path : String} {x : Commit × Change} (hx : x ∈ ofFile path (changesOf asciiOnly commits)) :
    dates x.1.date (ofFile path (changesOf asciiOnly commits)) = {date | date ∈ (touching commits path).map (·.date)} := by
  have hmap : (ofFile path (changesOf asciiOnly commits)).map (·.1.date) = (touching commits path).map (·.date) :=
    map_ofFile hbare path Commit.date
  ext date
  rw [dates, Set.mem_ofPred_eq, Set.mem_ofPred_eq, ← hmap, List.mem_cons]
  exact or_iff_right_of_imp fun heq => heq ▸ List.mem_map_of_mem hx

/-- What is reported of a file is what the commits that list it say. -/
theorem tellsFile {f : FileChurn} {history : History} (hfile : Reports f history) {x : Commit × Change}
    (hx : x ∈ ofFile f.path (changesOf asciiOnly commits)) (h : Tallied x.1.date (ofFile f.path (changesOf asciiOnly commits)) history) :
    TellsFile commits f where
  commitCount := by
    rw [hfile.commitCount, h.commits, ← List.length_map Prod.fst, map_fst_ofFile hbare, List.length_map]
  authors_nodup := by
    rw [hfile.uniqueAuthors]
    exact (List.mergeSort_perm _ _).nodup_iff.mpr h.authors_nodup
  mem_authors author := by
    rw [hfile.uniqueAuthors, sortTexts, mem_sortBy, h.mem_authors, map_ofFile hbare f.path Commit.author]
    rfl
  additions := by
    rw [hfile.additions, h.additions]
    exact isTotal_ofFile hbare fun _ => rfl
  deletions := by
    rw [hfile.deletions, h.deletions]
    exact isTotal_ofFile hbare fun _ => rfl
  firstSeen := ⟨history.first, dates_ofFile hbare hx ▸ h.first, hfile.firstSeen⟩
  lastModified := ⟨history.last, dates_ofFile hbare hx ▸ h.last, hfile.lastModified⟩

end Bare

/-! ## The report of a printed log -/

/-- A file is touched when a commit has an entry for it. -/
theorem touching_ne_nil_iff {path : String} :
    touching commits path ≠ [] ↔ ∃ c ∈ commits, ∃ e ∈ c.entries, e.path = path := by
  simp [touching, LoggedCommit.lists, List.filter_eq_nil_iff]

/-- The files that are read are those of the entries. -/
theorem mem_paths_changesOf {path : String} :
    path ∈ (changesOf asciiOnly commits).map (·.2.path) ↔ ∃ c ∈ commits, ∃ e ∈ c.entries, (e.change asciiOnly).path = path := by
  simp [changesOf, and_assoc]

/-- Where the listed paths are those that are read, none is in quotes: the one with the fewest quotes in it would not be read, as what is
read of a path in quotes has more. -/
theorem isBare_of_paths
    (h : ∀ path, path ∈ (changesOf asciiOnly commits).map (·.2.path) ↔ touching commits path ≠ []) :
    ∀ c ∈ commits, ∀ e ∈ c.entries, e.IsBare asciiOnly := by
  have hfewer : ∀ n, ∀ c ∈ commits, ∀ e ∈ c.entries, e.path.toList.count '"' = n → e.IsBare asciiOnly := by
    intro n
    induction n using Nat.strong_induction_on with
    | _ n ih =>
      intro c hc e he hn
      obtain ⟨c', hc', e', he', hread⟩ := mem_paths_changesOf.mp ((h e.path).mpr (touching_ne_nil_iff.mpr ⟨c, hc, e, he, rfl⟩))
      have hbare : e'.IsBare asciiOnly := by
        by_contra hquoted
        have hless := e'.count_lt_path_change hquoted
        rw [hread, hn] at hless
        exact hquoted (ih _ hless c' hc' e' he' rfl)
      rw [e'.path_change hbare] at hread
      unfold Entry.IsBare at hbare ⊢
      rwa [hread] at hbare
  exact fun c hc e he => hfewer _ c hc e he rfl

/-- What is read of a log whose authors have no bars. -/
theorem readLog_spec (h : ∀ c ∈ commits, '|' ∉ c.author.toList) :
    (readLog (printed asciiOnly commits)).commits = commits.length ∧
      (readLog (printed asciiOnly commits)).contributions = (commits.map (·.author)).foldl Record.count [] ∧
      Histories (changesOf asciiOnly commits) (readLog (printed asciiOnly commits)).files := by
  obtain ⟨hcommits, hcontributions, hfiles⟩ := @foldl_after asciiOnly commits ⟨none, 0, [], []⟩
  rw [← readLog_printed h] at hcommits hcontributions hfiles
  exact ⟨hcommits.trans (Nat.zero_add _), hcontributions, hfiles ▸ histories_foldl _⟩

/-- Commits of authors who can be counted, without quoted paths, are told. -/
theorem tells_of_plain (h : ∀ c ∈ commits, PlainAuthor c.author ∧ ∀ e ∈ c.entries, e.IsBare asciiOnly) :
    Tells commits (ofLog (printed asciiOnly commits) periodDays now) := by
  have hbare : ∀ c ∈ commits, ∀ e ∈ c.entries, e.IsBare asciiOnly := fun c hc => (h c hc).2
  have hplain : ∀ author ∈ commits.map (·.author), Inherited.ofName? author = none :=
    List.forall_mem_map.mpr fun c hc => (h c hc).1.not_inherited
  obtain ⟨hcommits, hcontributions, hhistories⟩ := @readLog_spec asciiOnly commits fun c hc => (h c hc).1.bar_notMem
  have hcount : ∀ author, (ofLog (printed asciiOnly commits) periodDays now).summary.authorContributions.get? author =
      if author ∈ commits.map (·.author) then some (.number (added (List.replicate ((commits.map (·.author)).count author) 1)))
      else none :=
    fun author => (congrArg (Record.get? · author) hcontributions).trans (get?_foldl_count hplain author)
  exact {
    totalCommits := hcommits
    mem_authors := by
      intro author
      rw [hcount]
      split <;> simp [*]
    contributions := fun author hauthor => ⟨_, (hcount author).trans (if_pos hauthor), isTotal_added _⟩
    paths_nodup := paths_perm.nodup_iff.mpr hhistories.nodup
    mem_paths := by
      intro path
      rw [paths_perm.mem_iff, hhistories.mem_keys, mem_paths_changesOf, touching_ne_nil_iff]
      refine exists_congr fun c => and_congr_right fun hc => exists_congr fun e => and_congr_right fun he => ?_
      rw [e.path_change (hbare c hc e he)]
    files := by
      intro f hf
      obtain ⟨history, hfile, hreports⟩ := exists_history hf
      obtain ⟨x, hx, htallied⟩ := hhistories.tallied f.path history hfile
      exact tellsFile hbare hreports hx htallied }

/-- The report of a printed log tells the commits exactly if no author has a bar in the name or a name that every record answers to, and
no path is printed in quotes. -/
theorem ofLog_tells_iff (asciiOnly : Bool) (commits : List LoggedCommit) (periodDays : Number) (now : Instant) :
    Tells commits (ofLog (printed asciiOnly commits) periodDays now) ↔
      ∀ c ∈ commits, PlainAuthor c.author ∧ ∀ e ∈ c.entries, e.IsBare asciiOnly := by
  refine ⟨fun h => ?_, tells_of_plain⟩
  have hplain : ∀ c ∈ commits, PlainAuthor c.author := by
    intro c hc
    obtain ⟨x, hx, -⟩ := h.contributions c.author (List.mem_map_of_mem hc)
    exact onlyPlain_readLog _ _ _ hx
  obtain ⟨-, -, hhistories⟩ := @readLog_spec asciiOnly commits fun c hc => (hplain c hc).bar_notMem
  have hbare : ∀ c ∈ commits, ∀ e ∈ c.entries, e.IsBare asciiOnly := by
    refine isBare_of_paths fun path => ?_
    rw [← hhistories.mem_keys, ← paths_perm.mem_iff, h.mem_paths]
  exact fun c hc => ⟨hplain c hc, hbare c hc⟩

/-- A commit of one file. -/
def aliceCommit : LoggedCommit where
  hash := "aaa"
  author := "alice"
  iso := "2026-10-10T00:00:00Z"
  date := 1791590400000
  entries := [⟨some 3, some 1, "src/a.rs", by decide, by decide +kernel, by decide, by decide +kernel⟩]
  hash_plain := by decide
  author_named := by decide
  author_onLine := by decide
  iso_plain := by decide
  dated := by decide +kernel
  distinct := by decide

/-- A log of this commit is told. -/
theorem aliceCommit_told : Tells [aliceCommit] (ofLog (printed true [aliceCommit]) 30 1792281600000) :=
  (ofLog_tells_iff true [aliceCommit] 30 1792281600000).mpr (by decide +kernel)

/-- A commit of another file, the day after, by an author with a bar in the name. -/
def adminCommit : LoggedCommit where
  hash := "bbb"
  author := "eve|admin"
  iso := "2026-10-11T00:00:00Z"
  date := 1791676800000
  entries := [⟨some 5, some 2, "src/b.rs", by decide, by decide +kernel, by decide, by decide +kernel⟩]
  hash_plain := by decide
  author_named := by decide
  author_onLine := by decide
  iso_plain := by decide
  dated := by decide +kernel
  distinct := by decide

/-- The commit of an author with a bar in the name is not counted, and its change goes to the author of the commit before it. -/
theorem barredAuthor_untold :
    let output := printed true [aliceCommit, adminCommit]
    (ofLog output 30 1792281600000).summary.totalCommits = 1 ∧
      (ofLog output 30 1792281600000).summary.authorContributions = [("alice", .number 1)] ∧
      ((readLog output).files.map fun (path, h) => (path, h.authors, h.first)) =
        [("src/a.rs", ["alice"], 1791590400000), ("src/b.rs", ["alice"], 1791590400000)] ∧
      ¬ Tells [aliceCommit, adminCommit] (ofLog output 30 1792281600000) := by
  have hcommits : (ofLog (printed true [aliceCommit, adminCommit]) 30 1792281600000).summary.totalCommits = 1 := by decide +kernel
  refine ⟨hcommits, by decide +kernel, by decide +kernel, fun h => ?_⟩
  have htotal := h.totalCommits
  rw [hcommits] at htotal
  cases htotal

end QualityGate.Churn
