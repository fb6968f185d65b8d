import QualityGate.Churn
import QualityGate.Proofs.DecimalText
import QualityGate.Proofs.Lines

/-!
# Logs of commits

A log has for each commit its header, an empty line and a line for each file, with the path in quotes when it has characters that git
escapes. A commit whose author has no bar in the name is read from its lines (`foldl_readLine_lines`), and a log of such commits commit by
commit (`readLog_printed`). The path that is read of one in quotes has more quotes than the path has (`Entry.count_lt_path_change`).
-/

namespace QualityGate.Churn

/-! ## A printed log -/

/-- A byte as its three octal digits behind a backslash. -/
def octal (byte : UInt8) : List Char :=
  let n := byte.toNat
  '\\' :: [n / 64, n / 8 % 8, n % 8].map fun digit => Char.ofNat (48 + digit)

/-- The characters that are written with a letter behind a backslash. -/
def letters : List (Char × Char) :=
  [('\x07', 'a'), ('\x08', 'b'), ('\t', 't'), ('\n', 'n'), ('\x0b', 'v'), ('\x0c', 'f'), ('\r', 'r'), ('"', '"'), ('\\', '\\')]

/-- A character of a path in quotes. Whether characters beyond ASCII stand as they are is a setting of git. -/
def escaped (asciiOnly : Bool) (c : Char) : List Char :=
  match letters.lookup c with
  | some letter => ['\\', letter]
  | none =>
    if c.toNat < 32 ∨ c.toNat = 127 ∨ (asciiOnly ∧ 128 ≤ c.toNat) then (String.utf8EncodeChar c).flatMap octal else [c]

/-- Whether a path with the character needs no quotes for it. -/
def isBare (asciiOnly : Bool) (c : Char) : Bool := escaped asciiOnly c = [c]

/-- A path as git prints it: in quotes when one of its characters needs them. -/
def spelled (asciiOnly : Bool) (path : List Char) : List Char :=
  if path.all (isBare asciiOnly) then path else '"' :: (path.flatMap (escaped asciiOnly) ++ ['"'])

/-- The lines added to a file and deleted from it, where a binary file has neither count, and its path. -/
structure Entry where
  additions : Option Nat
  deletions : Option Nat
  path : String
  named : path ≠ ""
  normal : normalizePath path = path
  onLine : path.toList.any isLineEnd = false
  trimmed : trimEnd path.toList = path.toList

/-- The characters of dates in ISO text. -/
def isDateChar (c : Char) : Bool := c.isDigit || ['-', ':', '+', '.', 'T', 'Z'].contains c

/-- A commit of a log. -/
structure LoggedCommit where
  hash : String
  author : String
  iso : String
  date : Instant
  entries : List Entry
  hash_plain : '|' ∉ hash.toList ∧ '\n' ∉ hash.toList
  author_named : author ≠ ""
  author_onLine : '\n' ∉ author.toList
  iso_plain : iso.toList.all isDateChar = true
  dated : Instant.ofText? iso = some date
  distinct : (entries.map (·.path)).Nodup

/-- A count of lines, or the hyphen of a binary file. -/
def countText : Option Nat → List Char
  | none => ['-']
  | some n => Number.digits n

namespace Entry

def line (asciiOnly : Bool) (e : Entry) : List Char :=
  countText e.additions ++ '\t' :: (countText e.deletions ++ '\t' :: spelled asciiOnly e.path.toList)

/-- What is read of an entry: its path is normalized as it is printed. -/
def change (asciiOnly : Bool) (e : Entry) : Change where
  additions := .ofNat (e.additions.getD 0)
  deletions := .ofNat (e.deletions.getD 0)
  path := normalizePath (String.ofList (spelled asciiOnly e.path.toList))

end Entry

namespace LoggedCommit

/-- A format with the hash, the author and the date filled in. -/
def fill (c : LoggedCommit) : List Char → List Char
  | '%' :: 'H' :: rest => c.hash.toList ++ c.fill rest
  | '%' :: 'a' :: 'n' :: rest => c.author.toList ++ c.fill rest
  | '%' :: 'a' :: 'I' :: rest => c.iso.toList ++ c.fill rest
  | other :: rest => other :: c.fill rest
  | [] => []

def header (c : LoggedCommit) : List Char := c.fill logFormat.toList

/-- The lines of a commit: its header, and its entries behind an empty line. -/
def lines (asciiOnly : Bool) (c : LoggedCommit) : List (List Char) :=
  c.header :: if c.entries.isEmpty then [] else [] :: c.entries.map (·.line asciiOnly)

/-- What is to be read of the header. -/
def commit (c : LoggedCommit) : Commit := ⟨c.author, c.date⟩

end LoggedCommit

/-- The log of some commits, each line with its line feed. -/
def printed (asciiOnly : Bool) (commits : List LoggedCommit) : List Char :=
  (commits.flatMap (·.lines asciiOnly)).flatMap (· ++ ['\n'])

/-! ## Quoted paths -/

variable {asciiOnly : Bool}

/-- The octal digits of a byte are printable. -/
theorem printable_of_mem_octal {byte : UInt8} {d : Char} (h : d ∈ octal byte) : 32 ≤ d.toNat ∧ d.toNat < 127 := by
  have hdigit : ∀ digit < 8, 32 ≤ (Char.ofNat (48 + digit)).toNat ∧ (Char.ofNat (48 + digit)).toNat < 127 := by decide
  have hbyte : byte.toNat < 256 := byte.toNat_lt
  rcases List.mem_cons.mp h with rfl | h
  · decide
  · obtain ⟨digit, hmem, rfl⟩ := List.mem_map.mp h
    refine hdigit digit ?_
    simp only [List.mem_cons, List.not_mem_nil, or_false] at hmem
    omega

/-- A character that is written in another way is written in ASCII. -/
theorem printable_of_mem_escaped {c d : Char} (h : d ∈ escaped asciiOnly c) : d = c ∨ (32 ≤ d.toNat ∧ d.toNat < 127) := by
  have hletters : ∀ pair ∈ letters, 32 ≤ pair.2.toNat ∧ pair.2.toNat < 127 := by decide
  unfold escaped at h
  split at h
  · rename_i letter hletter
    obtain ⟨before, after, hmem, -⟩ := List.lookup_eq_some_iff.mp hletter
    have hprintable := hletters (c, letter) (hmem ▸ by simp)
    rcases List.mem_cons.mp h with rfl | h
    · exact .inr (by decide)
    · rw [List.mem_singleton.mp h]
      exact .inr hprintable
  · split at h
    · obtain ⟨byte, -, hbyte⟩ := List.mem_flatMap.mp h
      exact .inr (printable_of_mem_octal hbyte)
    · exact .inl (List.mem_singleton.mp h)

/-- Nothing printable ends a line. -/
theorem isLineEnd_of_printable {d : Char} (h : 32 ≤ d.toNat ∧ d.toNat < 127) : isLineEnd d = false := by
  have hfeed : d ≠ '\n' := by
    rintro rfl
    exact absurd h.1 (by decide)
  have hreturn : d ≠ '\r' := by
    rintro rfl
    exact absurd h.1 (by decide)
  simp only [isLineEnd, Bool.or_eq_false_iff, decide_eq_false_iff_not]
  exact ⟨⟨⟨hfeed, hreturn⟩, by omega⟩, by omega⟩

/-- A path on one line is printed on one line. -/
theorem spelled_onLine {path : List Char} (h : path.any isLineEnd = false) : (spelled asciiOnly path).any isLineEnd = false := by
  have hquote : isLineEnd '"' = false := rfl
  unfold spelled
  split
  · exact h
  · rw [List.any_cons, List.any_append, List.any_cons, List.any_nil, hquote, Bool.false_or, Bool.or_false, Bool.or_false]
    refine List.any_eq_false.mpr fun d hd => ?_
    obtain ⟨c, hc, hescaped⟩ := List.mem_flatMap.mp hd
    rcases printable_of_mem_escaped hescaped with rfl | hprintable
    · exact List.any_eq_false.mp h d hc
    · rw [isLineEnd_of_printable hprintable]
      exact Bool.false_ne_true

/-- No quote is lost in quotes. -/
theorem count_le_flatMap_escaped (path : List Char) : path.count '"' ≤ (path.flatMap (escaped asciiOnly)).count '"' := by
  induction path with
  | nil => exact Nat.le_refl _
  | cons c path ih =>
    rw [List.flatMap_cons, List.count_append, List.count_cons]
    split
    · rename_i hquote
      have hescaped : (escaped asciiOnly c).count '"' = 1 := by
        rw [eq_of_beq hquote]
        rfl
      omega
    · omega

/-- The spelling of a path does not touch its quotes. -/
theorem count_normalChars (path : List Char) : (Path.normalChars path).count '"' = path.count '"' := by
  have hturn : (path.map fun c => if c = '\\' then '/' else c).count '"' = path.count '"' := by
    induction path with
    | nil => rfl
    | cons c path ih =>
      rw [List.map_cons, List.count_cons, List.count_cons, ih]
      by_cases hback : c = '\\'
      · subst hback
        rfl
      · rw [if_neg hback]
  unfold Path.normalChars
  split
  · rename_i rest hpath
    rw [← hturn, hpath]
    rfl
  · exact hturn

namespace Entry

/-- Whether the path of an entry needs no quotes. -/
def IsBare (asciiOnly : Bool) (e : Entry) : Prop := e.path.toList.all (isBare asciiOnly) = true

instance (e : Entry) : Decidable (e.IsBare asciiOnly) := inferInstanceAs (Decidable (_ = true))

/-- A path without need for quotes is read as it is. -/
theorem path_change (e : Entry) (h : e.IsBare asciiOnly) : (e.change asciiOnly).path = e.path := by
  unfold IsBare at h
  unfold change spelled
  rw [if_pos h, String.ofList_toList, e.normal]

/-- The path that is read of quotes has more quotes. -/
theorem count_lt_path_change (e : Entry) (h : ¬ e.IsBare asciiOnly) :
    e.path.toList.count '"' < (e.change asciiOnly).path.toList.count '"' := by
  unfold IsBare at h
  unfold change spelled normalizePath
  rw [if_neg h, String.toList_ofList, count_normalChars, String.toList_ofList]
  have hkept := @count_le_flatMap_escaped asciiOnly e.path.toList
  simp only [List.count_cons_self, List.count_append]
  omega

end Entry

/-! ## Reading the lines -/

/-- A count is written in digits, or as a hyphen. -/
theorem isDigit_or_hyphen_of_mem_countText {count : Option Nat} {d : Char} (h : d ∈ countText count) : d.isDigit ∨ d = '-' := by
  cases count with
  | none => exact .inr (List.mem_singleton.mp h)
  | some n => exact .inl (Number.isDigit_of_mem_digits h)

/-- A count has no tab in it. -/
theorem tab_notMem_countText (count : Option Nat) : ∀ d ∈ countText count, d ≠ '\t' := by
  rintro d hd rfl
  exact absurd (isDigit_or_hyphen_of_mem_countText hd) (by decide)

/-- A count is read back, a hyphen as none. -/
theorem lineCount?_countText (count : Option Nat) : lineCount? (countText count) = some (.ofNat (count.getD 0)) := by
  cases count with
  | none => rfl
  | some n =>
    have hdigits : ∀ d ∈ Number.digits n, d.isDigit := fun _ hd => Number.isDigit_of_mem_digits hd
    have hhyphen : Number.digits n ≠ ['-'] := by
      intro heq
      exact absurd (hdigits '-' (heq ▸ List.mem_singleton_self _)) (by decide)
    unfold lineCount? countText
    dsimp only
    rw [if_neg hhyphen, if_pos (by simp [Number.digits_ne_nil, List.all_eq_true.mpr hdigits]), Number.ofDigitText_digits,
      Option.getD_some]

/-- A field ends at the tab behind it. -/
theorem takeWhile_tab {field : List Char} (h : ∀ d ∈ field, d ≠ '\t') (rest : List Char) :
    (field ++ '\t' :: rest).takeWhile (· ≠ '\t') = field := by
  rw [List.takeWhile_append_of_pos (by simpa using h), List.takeWhile_cons_of_neg (by simp), List.append_nil]

namespace Entry

/-- The path of an entry has characters. -/
theorem spelled_ne_nil (e : Entry) : spelled asciiOnly e.path.toList ≠ [] := by
  unfold spelled
  split
  · simpa using e.named
  · exact List.cons_ne_nil _ _

/-- The line of an entry ends in no blank. -/
theorem trimEnd_line (e : Entry) : trimEnd (e.line asciiOnly) = e.line asciiOnly := by
  have hspelled : ∀ c ∈ (spelled asciiOnly e.path.toList).getLast?, isBlank c = false := by
    unfold spelled
    split
    · intro c hc
      obtain ⟨hne, rfl⟩ := List.mem_getLast?_eq_getLast hc
      simpa using List.rdropWhile_eq_self_iff.mp e.trimmed hne
    · intro c hc
      rw [← List.cons_append, List.getLast?_concat] at hc
      rw [← Option.some.inj hc]
      rfl
  refine trimEnd_eq_self fun c hc => hspelled c ?_
  unfold line at hc
  rwa [List.getLast?_append_of_ne_nil _ (List.cons_ne_nil _ _), ← List.singleton_append, List.getLast?_append_of_ne_nil _ (by simp),
    List.getLast?_append_of_ne_nil _ (List.cons_ne_nil _ _), List.getLast?_cons_of_ne_nil e.spelled_ne_nil] at hc

/-- The line of an entry is no header. -/
theorem header?_line (e : Entry) : header? (e.line asciiOnly) = none := by
  have hstart : "commit:".toList.isPrefixOf (e.line asciiOnly) = false := by
    unfold line
    cases hcount : countText e.additions with
    | nil => rfl
    | cons d ds =>
      have hd := isDigit_or_hyphen_of_mem_countText (hcount ▸ List.mem_cons_self : d ∈ countText e.additions)
      have hne : 'c' ≠ d := by
        rintro rfl
        exact absurd hd (by decide)
      simp [List.isPrefixOf, hne]
  unfold header?
  rw [hstart]
  rfl

/-- An entry is read from its line. -/
theorem change?_line (e : Entry) : change? (e.line asciiOnly) = some (e.change asciiOnly) := by
  have hline : (spelled asciiOnly e.path.toList).any isLineEnd = false := spelled_onLine e.onLine
  unfold change? line
  rw [takeWhile_tab (tab_notMem_countText e.additions)]
  dsimp only
  rw [List.drop_left, List.drop_succ_cons, List.drop_zero, takeWhile_tab (tab_notMem_countText e.deletions), List.drop_left,
    lineCount?_countText, lineCount?_countText]
  simp [e.spelled_ne_nil, hline, change]

end Entry

namespace LoggedCommit

/-- A header tells the hash, the author and the date, with bars between them. -/
theorem header_eq (c : LoggedCommit) :
    c.header = "commit:".toList ++ (c.hash.toList ++ '|' :: (c.author.toList ++ '|' :: c.iso.toList)) := by
  simp [header, logFormat, fill]

/-- A date has no bar, no line feed and no blank. -/
theorem mem_iso {c : LoggedCommit} {d : Char} (h : d ∈ c.iso.toList) : d ≠ '|' ∧ d ≠ '\n' ∧ isBlank d = false := by
  have hchar := List.all_eq_true.mp c.iso_plain d h
  rw [isDateChar, Bool.or_eq_true] at hchar
  rcases hchar with hdigit | hsign
  · have hrange : 48 ≤ d.toNat ∧ d.toNat ≤ 57 := by
      simpa [Char.isDigit, UInt32.le_iff_toNat_le] using hdigit
    refine ⟨?_, ?_, ?_⟩
    · rintro rfl
      cases hdigit
    · rintro rfl
      cases hdigit
    · simp only [isBlank, Bool.or_eq_false_iff, Bool.and_eq_false_iff, decide_eq_false_iff_not]
      omega
  · simp only [List.contains_cons, List.contains_nil, Bool.or_false, Bool.or_eq_true, beq_iff_eq] at hsign
    rcases hsign with rfl | rfl | rfl | rfl | rfl | rfl <;> decide

/-- A header ends in no blank. -/
theorem trimEnd_header (c : LoggedCommit) : trimEnd c.header = c.header := by
  refine trimEnd_eq_self fun d hd => ?_
  have hbar : ∀ text : List Char, d ∈ (text ++ '|' :: c.iso.toList).getLast? → isBlank d = false := by
    intro text hlast
    rw [List.getLast?_append_of_ne_nil _ (List.cons_ne_nil _ _)] at hlast
    rcases List.mem_cons.mp (List.mem_of_getLast? hlast) with rfl | hiso
    · rfl
    · exact (mem_iso hiso).2.2
  refine hbar ("commit:".toList ++ (c.hash.toList ++ '|' :: c.author.toList)) ?_
  rw [header_eq] at hd
  simpa using hd

/-- The header of an author without a bar is read back. -/
theorem header?_header (c : LoggedCommit) (h : '|' ∉ c.author.toList) : header? c.header = some c.commit := by
  have hstart : "commit:".toList.isPrefixOf c.header = true := by
    rw [header_eq]
    exact List.isPrefixOf_iff_prefix.mpr (List.prefix_append _ _)
  have hiso : '|' ∉ c.iso.toList := fun hbar => (mem_iso hbar).1 rfl
  have hfields : splitWhere (· = '|') (c.header.drop 7) = [c.hash.toList, c.author.toList, c.iso.toList] := by
    rw [header_eq, show 7 = "commit:".toList.length from rfl, List.drop_left, splitWhere_eq_splitOn,
      List.splitOn_append_cons_self_of_not_mem c.hash_plain.1, List.splitOn_append_cons_self_of_not_mem h,
      List.splitOn_eq_singleton hiso]
  have hauthor : c.author.toList.isEmpty = false := by simpa using c.author_named
  unfold header?
  rw [if_pos hstart, hfields]
  dsimp only
  rw [hauthor]
  simp [c.dated, commit]

end LoggedCommit

/-! ## Reading the log -/

/-- What has been read when a commit follows what has been read. -/
def Log.after (asciiOnly : Bool) (log : Log) (c : LoggedCommit) : Log where
  commit := some c.commit
  commits := log.commits + 1
  contributions := log.contributions.count c.author
  files := (c.entries.map (·.change asciiOnly)).foldl (fun files change => addChange files c.commit change) log.files

theorem readLine_nil (log : Log) : readLine log [] = log := by
  cases hcommit : log.commit <;> simp [readLine, trimEnd, header?, change?, lineCount?, hcommit]

/-- The entries of a commit are read one by one. -/
theorem foldl_readLine_entries (entries : List Entry) {log : Log} {commit : Commit} (h : log.commit = some commit) :
    (entries.map (·.line asciiOnly)).foldl readLine log =
      { log with files := (entries.map (·.change asciiOnly)).foldl (fun files change => addChange files commit change) log.files } := by
  induction entries generalizing log with
  | nil => rfl
  | cons e entries ih =>
    have hread : readLine log (e.line asciiOnly) = { log with files := addChange log.files commit (e.change asciiOnly) } := by
      unfold readLine
      rw [e.trimEnd_line]
      dsimp only
      rw [e.header?_line, e.change?_line, h]
    rw [List.map_cons, List.foldl_cons, hread]
    exact ih h

/-- A commit of an author without a bar is read from its lines. -/
theorem foldl_readLine_lines {c : LoggedCommit} (h : '|' ∉ c.author.toList) (log : Log) :
    (c.lines asciiOnly).foldl readLine log = log.after asciiOnly c := by
  have hheader : readLine log c.header = { log with commit := some c.commit, commits := log.commits + 1,
                                                    contributions := log.contributions.count c.author } := by
    unfold readLine
    rw [c.trimEnd_header]
    dsimp only
    rw [c.header?_header h]
    rfl
  unfold LoggedCommit.lines
  rw [List.foldl_cons, hheader]
  cases hentries : c.entries with
  | nil => simp [Log.after, hentries]
  | cons e entries =>
    rw [List.isEmpty_cons, if_neg Bool.false_ne_true, List.foldl_cons, readLine_nil, foldl_readLine_entries _ rfl]
    unfold Log.after
    rw [hentries]

/-- No line of a commit is broken. -/
theorem lineFeed_notMem_lines (c : LoggedCommit) : ∀ line ∈ c.lines asciiOnly, '\n' ∉ line := by
  have hheader : '\n' ∉ c.header := by
    have hiso : '\n' ∉ c.iso.toList := fun hmem => (LoggedCommit.mem_iso hmem).2.1 rfl
    simp [c.header_eq, c.hash_plain.2, c.author_onLine, hiso]
  have hentry : ∀ e : Entry, '\n' ∉ e.line asciiOnly := by
    intro e
    have hcount : ∀ count : Option Nat, '\n' ∉ countText count :=
      fun count hmem => absurd (isDigit_or_hyphen_of_mem_countText hmem) (by decide)
    have hspelled : '\n' ∉ spelled asciiOnly e.path.toList :=
      fun hmem => absurd (List.any_eq_false.mp (spelled_onLine e.onLine) _ hmem) (by decide)
    simp [Entry.line, hcount, hspelled]
  unfold LoggedCommit.lines
  refine List.forall_mem_cons.mpr ⟨hheader, ?_⟩
  split
  · nofun
  · exact List.forall_mem_cons.mpr ⟨List.not_mem_nil, List.forall_mem_map.mpr fun e _ => hentry e⟩

/-- The lines of a printed log are those of its commits, and an empty one behind the last line feed. -/
theorem splitLines_printed (commits : List LoggedCommit) :
    splitLines (printed asciiOnly commits) = commits.flatMap (·.lines asciiOnly) ++ [[]] := by
  have hlines : ∀ line ∈ commits.flatMap (·.lines asciiOnly) ++ [[]], '\n' ∉ line := by
    rw [List.forall_mem_append, List.forall_mem_flatMap]
    exact ⟨fun c _ => lineFeed_notMem_lines c, by simp⟩
  have hjoin : printed asciiOnly commits = joinLines (commits.flatMap (·.lines asciiOnly) ++ [[]]) := by
    rw [joinLines_append_cons, joinLines_singleton, List.append_nil, printed]
  rw [hjoin, splitLines_joinLines hlines (by simp)]

/-- The log of authors without bars is read commit by commit. -/
theorem readLog_printed {commits : List LoggedCommit} (h : ∀ c ∈ commits, '|' ∉ c.author.toList) :
    readLog (printed asciiOnly commits) = commits.foldl (Log.after asciiOnly) ⟨none, 0, [], []⟩ := by
  have hrun : ∀ log : Log, (commits.flatMap (·.lines asciiOnly)).foldl readLine log = commits.foldl (Log.after asciiOnly) log := by
    induction commits with
    | nil => exact fun _ => rfl
    | cons c commits ih =>
      obtain ⟨hc, hcommits⟩ := List.forall_mem_cons.mp h
      intro log
      rw [List.flatMap_cons, List.foldl_append, foldl_readLine_lines hc, List.foldl_cons, ih hcommits]
  rw [readLog, splitLines_printed, List.foldl_append, hrun]
  exact readLine_nil _

end QualityGate.Churn
