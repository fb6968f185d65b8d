import Mathlib.Order.Bounds.Basic
import QualityGate.Churn
import QualityGate.Proofs.Groups
import QualityGate.Proofs.Lines
import QualityGate.Proofs.Magnitudes
import QualityGate.Proofs.Records

/-!
# The histories of files and the commits of authors

The history of a file tells the changes of that file alone, in whatever order they come (`histories_foldl`). The commits of an author are
counted (`get?_foldl_count`) unless the name is one that every record answers to; under such a name no log leads to a number, nor under
one with a bar, which ends a name in a header (`onlyPlain_readLog`).
-/

namespace QualityGate.Churn

/-! ## Histories -/

variable {start : Instant} {changes : List (Commit × Change)} {files : List (String × History)}

/-- A date and those of some changes. -/
def dates (start : Instant) (changes : List (Commit × Change)) : Set Instant := {date | date ∈ start :: changes.map (·.1.date)}

/-- One more change adds its date. -/
theorem dates_append (x : Commit × Change) : dates start (changes ++ [x]) = insert x.1.date (dates start changes) := by
  ext date
  simp only [dates, List.map_append, List.map_cons, List.map_nil, ← List.cons_append, List.mem_append, List.mem_singleton,
    Set.mem_insert_iff, Set.mem_ofPred_eq]
  exact or_comm

/-- A history that tells some changes, of which the first is of the date at which the history starts. -/
structure Tallied (start : Instant) (changes : List (Commit × Change)) (h : History) : Prop where
  commits : h.commits = changes.length
  authors_nodup : h.authors.Nodup
  mem_authors : ∀ author, author ∈ h.authors ↔ author ∈ changes.map (·.1.author)
  additions : h.additions = (changes.map (·.2.additions)).foldl (· + ·) 0
  deletions : h.deletions = (changes.map (·.2.deletions)).foldl (· + ·) 0
  first : IsLeast (dates start changes) h.first
  last : IsGreatest (dates start changes) h.last

/-- The history of a file before its first change. -/
def fresh (date : Instant) : History := ⟨0, [], 0, 0, date, date⟩

/-- A fresh history tells no changes. -/
theorem tallied_fresh (date : Instant) : Tallied date [] (fresh date) := by
  have hdates : dates date [] = {date} := by
    ext other
    simp [dates]
  exact { commits := rfl, authors_nodup := .nil, mem_authors := fun _ => Iff.rfl, additions := rfl, deletions := rfl,
          first := hdates ▸ isLeast_singleton, last := hdates ▸ isGreatest_singleton }

/-- One more change adds its author, unless that is listed. -/
theorem authors_add (h : History) (commit : Commit) (change : Change) :
    (h.add commit change).authors = if commit.author ∈ h.authors then h.authors else h.authors ++ [commit.author] := by
  simp only [History.add, List.contains_iff_mem]

/-- One more change is told with the others. -/
theorem Tallied.add {h : History} (hh : Tallied start changes h) (x : Commit × Change) :
    Tallied start (changes ++ [x]) (h.add x.1 x.2) where
  commits := by rw [List.length_append, ← hh.commits]; rfl
  authors_nodup := authors_add h x.1 x.2 ▸ nodup_appendNew hh.authors_nodup
  mem_authors author := by
    rw [authors_add, mem_appendNew, hh.mem_authors, List.map_append, List.mem_append, List.map_singleton, List.mem_singleton]
  additions := by rw [List.map_append, List.foldl_append, ← hh.additions]; rfl
  deletions := by rw [List.map_append, List.foldl_append, ← hh.deletions]; rfl
  first := by
    have hfirst := hh.first.insert x.1.date
    rw [min_comm] at hfirst
    exact (dates_append x).symm ▸ hfirst
  last := by
    have hlast := hh.last.insert x.1.date
    rw [max_comm] at hlast
    exact (dates_append x).symm ▸ hlast

/-- The changes of a file. -/
def ofFile (path : String) (changes : List (Commit × Change)) : List (Commit × Change) := changes.filter (·.2.path == path)

theorem ofFile_append_of_eq {path : String} {x : Commit × Change} (h : x.2.path = path) :
    ofFile path (changes ++ [x]) = ofFile path changes ++ [x] := filter_append_singleton_of_eq h

theorem ofFile_append_of_ne {path : String} {x : Commit × Change} (h : x.2.path ≠ path) :
    ofFile path (changes ++ [x]) = ofFile path changes := filter_append_singleton_of_ne h

/-- Histories that tell some changes: each file that one of them changes has one, which tells the changes of the file. -/
structure Histories (changes : List (Commit × Change)) (files : List (String × History)) : Prop where
  nodup : (Record.keys files).Nodup
  mem_keys : ∀ path, path ∈ Record.keys files ↔ path ∈ changes.map (·.2.path)
  tallied : ∀ path h, (path, h) ∈ files → ∃ x ∈ ofFile path changes, Tallied x.1.date (ofFile path changes) h

theorem histories_nil : Histories [] [] where
  nodup := .nil
  mem_keys := fun _ => Iff.rfl
  tallied := nofun

/-- One more change adds its file, unless that is listed. -/
theorem keys_addChange (files : List (String × History)) (x : Commit × Change) :
    Record.keys (addChange files x.1 x.2) =
      if x.2.path ∈ Record.keys files then Record.keys files else Record.keys files ++ [x.2.path] := by
  have hpresent : (files.lookup x.2.path).isSome = true ↔ x.2.path ∈ Record.keys files := by
    rw [← not_iff_not, Option.not_isSome_iff_eq_none]
    exact Record.get?_eq_none_iff
  unfold addChange
  dsimp only
  by_cases h : x.2.path ∈ Record.keys files
  · rw [if_pos h, if_pos (hpresent.mpr h), Record.keys, List.map_map]
    refine List.map_congr_left fun file _ => ?_
    dsimp only [Function.comp_apply]
    split <;> rfl
  · rw [if_neg h, if_neg (mt hpresent.mp h), Record.keys, List.map_append]
    rfl

/-- A history after a change is one before it, or that of the changed file. -/
theorem mem_addChange {path : String} {history : History} {x : Commit × Change} (h : (path, history) ∈ addChange files x.1 x.2) :
    (path ≠ x.2.path ∧ (path, history) ∈ files) ∨ ∃ before, path = x.2.path ∧ history = before.add x.1 x.2 ∧
      ((path, before) ∈ files ∨ (path ∉ Record.keys files ∧ before = fresh x.1.date)) := by
  unfold addChange at h
  dsimp only at h
  split at h
  · obtain ⟨⟨other, before⟩, hfile, heq⟩ := List.mem_map.mp h
    dsimp only at heq
    split at heq
    · rename_i hpath
      obtain ⟨rfl, rfl⟩ := Prod.mk.inj heq
      exact .inr ⟨before, hpath, rfl, .inl hfile⟩
    · rename_i hpath
      obtain ⟨rfl, rfl⟩ := Prod.mk.inj heq
      exact .inl ⟨hpath, hfile⟩
  · rename_i habsent
    have hnew : x.2.path ∉ Record.keys files := Record.get?_eq_none_iff.mp (Option.not_isSome_iff_eq_none.mp habsent)
    rcases List.mem_append.mp h with hfile | hfile
    · exact .inl ⟨fun heq => hnew (heq ▸ List.mem_map_of_mem hfile), hfile⟩
    · obtain ⟨rfl, rfl⟩ := Prod.mk.inj (List.mem_singleton.mp hfile)
      exact .inr ⟨_, rfl, rfl, .inr ⟨hnew, rfl⟩⟩

/-- One more change is told with the others. -/
theorem Histories.addChange (h : Histories changes files) (x : Commit × Change) :
    Histories (changes ++ [x]) (addChange files x.1 x.2) where
  nodup := keys_addChange files x ▸ nodup_appendNew h.nodup
  mem_keys path := by
    rw [keys_addChange, mem_appendNew, h.mem_keys, List.map_append, List.mem_append, List.map_singleton, List.mem_singleton]
  tallied path history hfile := by
    rcases mem_addChange hfile with ⟨hne, hfile⟩ | ⟨before, rfl, rfl, hfile | ⟨hnew, rfl⟩⟩
    · rw [ofFile_append_of_ne hne.symm]
      exact h.tallied path history hfile
    · rw [ofFile_append_of_eq rfl]
      obtain ⟨y, hy, htallied⟩ := h.tallied _ before hfile
      exact ⟨y, List.mem_append_left _ hy, htallied.add x⟩
    · have hnone : ofFile x.2.path changes = [] := by
        refine List.filter_eq_nil_iff.mpr fun y hy hpath => hnew ((h.mem_keys _).mpr ?_)
        exact eq_of_beq hpath ▸ List.mem_map_of_mem hy
      rw [ofFile_append_of_eq rfl, hnone]
      exact ⟨x, List.mem_singleton_self x, (tallied_fresh x.1.date).add x⟩

/-- The histories after some changes tell them. -/
theorem histories_foldl (changes : List (Commit × Change)) :
    Histories changes (changes.foldl (fun files x => addChange files x.1 x.2) []) := by
  induction changes using List.reverseRecOn with
  | nil => exact histories_nil
  | append_singleton changes x ih =>
    rw [List.foldl_append]
    exact ih.addChange x

/-! ## Contributions -/

/-- Counts that are added one after the other. -/
def added (counts : List Nat) : Number := counts.foldl (fun sum count => sum + .ofNat count) 0

/-- An author whose commits can be counted: the name has no bar, and is none that every record answers to. -/
structure PlainAuthor (author : String) : Prop where
  bar_notMem : '|' ∉ author.toList
  not_inherited : Inherited.ofName? author = none

instance (author : String) : Decidable (PlainAuthor author) :=
  decidable_of_iff ('|' ∉ author.toList ∧ Inherited.ofName? author = none)
    ⟨fun h => ⟨h.1, h.2⟩, fun h => ⟨h.bar_notMem, h.not_inherited⟩⟩

/-- Contributions with numbers only under the names of such authors. -/
def OnlyPlain (r : Record Figure) : Prop := ∀ author x, r.get? author = some (.number x) → PlainAuthor author

/-- A header that is read has an author without a bar. -/
theorem bar_notMem_of_header? {line : List Char} {commit : Commit} (h : header? line = some commit) : '|' ∉ commit.author.toList := by
  unfold header? at h
  split at h
  · split at h
    · rename_i hash author iso rest hfields
      split at h
      · cases h
      · obtain ⟨date, -, rfl⟩ := Option.map_eq_some_iff.mp h
        rw [String.toList_ofList]
        have hmem : author ∈ splitWhere (· = '|') (line.drop 7) := hfields ▸ by simp
        rw [splitWhere_eq_splitOn] at hmem
        exact notMem_of_mem_splitOn hmem
    · cases h
  · cases h

section Record

variable {r : Record Figure} {author : String}

/-- One more commit of an author adds one to the count under that name. -/
theorem get?_count (h : author ≠ Inherited.baseName) (name : String) :
    (r.count author).get? name = if name = author then some ((r.figure? author).getD (.number 0)).next else r.get? name := by
  rw [Record.count, Record.assign, if_neg h, Record.get?_set]

/-- One more commit of an author without a bar leads to no number under the name of another author who cannot be counted. -/
theorem OnlyPlain.count (h : OnlyPlain r) (hbar : '|' ∉ author.toList) : OnlyPlain (r.count author) := by
  intro name x hx
  by_cases hbase : author = Inherited.baseName
  · rw [Record.count, Record.assign, if_pos hbase] at hx
    exact h name x hx
  rw [get?_count hbase] at hx
  split at hx
  · -- Counting on from an inherited answer gives a text, so under the name there was a number before, or nothing at all.
    rename_i heq
    subst heq
    refine ⟨hbar, ?_⟩
    unfold Record.figure? at hx
    cases hfigure : r.get? name with
    | some f =>
      rw [hfigure] at hx
      cases f with
      | number y => exact (h name y hfigure).not_inherited
      | text s => cases hx
      | inherited answer => cases hx
    | none =>
      rw [hfigure] at hx
      cases hanswer : Inherited.ofName? name with
      | none => rfl
      | some answer =>
        rw [hanswer] at hx
        cases hx
  · exact h name x hx

end Record

/-- One more line leaves numbers only under the names of such authors. -/
theorem onlyPlain_readLine {log : Log} (h : OnlyPlain log.contributions) (raw : List Char) :
    OnlyPlain (readLine log raw).contributions := by
  unfold readLine
  dsimp only
  split
  · rename_i commit hcommit
    exact h.count (bar_notMem_of_header? hcommit)
  · split <;> exact h

/-- Whatever a log says, only authors who can be counted have a number of commits. -/
theorem onlyPlain_readLog (output : List Char) : OnlyPlain (readLog output).contributions := by
  have hrun : ∀ (lines : List (List Char)) (log : Log), OnlyPlain log.contributions →
      OnlyPlain (lines.foldl readLine log).contributions := by
    intro lines
    induction lines with
    | nil => exact fun _ h => h
    | cons line lines ih => exact fun log h => ih _ (onlyPlain_readLine h line)
  exact hrun _ _ nofun

/-- One more commit adds one. -/
theorem added_replicate_succ (n : Nat) : added (List.replicate (n + 1) 1) = added (List.replicate n 1) + 1 := by
  rw [List.replicate_succ', added, List.foldl_append]
  rfl

/-- The commits of authors whose names no record answers to are counted. -/
theorem get?_foldl_count {authors : List String} (h : ∀ author ∈ authors, Inherited.ofName? author = none) (name : String) :
    Record.get? (authors.foldl Record.count []) name =
      if name ∈ authors then some (.number (added (List.replicate (authors.count name) 1))) else none := by
  induction authors using List.reverseRecOn generalizing name with
  | nil => rfl
  | append_singleton authors author ih =>
    obtain ⟨hauthors, hauthor⟩ := List.forall_mem_append.mp h
    have hplain := hauthor author (List.mem_singleton_self author)
    have hbase : author ≠ Inherited.baseName := by
      rintro rfl
      cases hplain
    have hfigure : ((authors.foldl Record.count []).figure? author).getD (.number 0) =
        .number (added (List.replicate (authors.count author) 1)) := by
      unfold Record.figure?
      rw [ih hauthors author]
      by_cases hmem : author ∈ authors
      · rw [if_pos hmem]
        rfl
      · rw [if_neg hmem, List.count_eq_zero_of_not_mem hmem]
        dsimp only
        rw [hplain]
        rfl
    rw [List.foldl_append, List.foldl_cons, List.foldl_nil, get?_count hbase, hfigure, List.count_append]
    by_cases heq : name = author
    · subst heq
      rw [if_pos rfl, if_pos (by simp), List.count_singleton_self, added_replicate_succ]
      rfl
    · have hcount : [author].count name = 0 := List.count_eq_zero_of_not_mem (by simpa using heq)
      rw [if_neg heq, ih hauthors name, hcount, Nat.add_zero]
      simp [heq]

end QualityGate.Churn
