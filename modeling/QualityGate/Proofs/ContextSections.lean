import QualityGate.Analysis.ContextMarkdown
import QualityGate.Proofs.DecimalText
import QualityGate.Proofs.Paths

/-!
# Finding the section of a file

The context of a project is written as chapters with an empty line behind each. The section of a file is found again as it was
written, when no text that stands before it or in it brings a line of its own: its heading is the first that names the file, and the
next heading ends it.
-/

namespace QualityGate.DeepContext

/-! ## Texts on one line -/

/-- Whether a text is on one line. -/
def OneLine (text : String) : Prop := '\n' ∉ text.toList

instance (text : String) : Decidable (OneLine text) := inferInstanceAs (Decidable ('\n' ∉ text.toList))

@[simp] theorem oneLine_append (text more : String) : OneLine (text ++ more) ↔ OneLine text ∧ OneLine more := by
  simp [OneLine]

@[simp] theorem oneLine_toString (text : String) : OneLine (toString text) ↔ OneLine text := Iff.rfl

/-- A number is on one line. -/
@[simp] theorem oneLine_repr (n : Nat) : OneLine n.repr := by
  unfold OneLine
  rw [Nat.toList_repr]
  exact Number.lineFeed_notMem fun c hc => .inl (Number.isDigit_of_mem_digits hc)

@[simp] theorem oneLine_text (x : Number) : OneLine x.text := Number.lineFeed_notMem_text x

@[simp] theorem oneLine_fixed (x : Number) (places : Nat) : OneLine (x.fixed places) := Number.lineFeed_notMem_fixed x places

/-- The lines of some lines joined. -/
theorem splitLines_join {lines : List String} (h : ∀ line ∈ lines, OneLine line) (hne : lines ≠ []) :
    splitLines (Text.join "\n" lines).toList = lines.map String.toList := by
  have htext : (Text.join "\n" lines).toList = joinLines (lines.map String.toList) := String.toList_intercalate
  rw [htext]
  refine splitLines_joinLines (fun line hline => ?_) (by simpa using hne)
  obtain ⟨text, htext, rfl⟩ := List.mem_map.mp hline
  exact h text htext

/-- A chapter with an empty line behind it. -/
def chapterLines (chapter : String) : List (List Char) := splitLines chapter.toList ++ [[]]

/-- The lines of a context are those of its chapters, each with an empty line behind it. -/
theorem splitLines_chapters {texts : List String} (hne : texts ≠ []) :
    splitLines (Text.join "\n\n" texts ++ "\n").toList = texts.flatMap chapterLines := by
  induction texts with
  | nil => exact absurd rfl hne
  | cons text rest ih =>
    have hend : splitLines (text.toList ++ ['\n']) = chapterLines text := splitLines_append text.toList []
    cases rest with
    | nil => simpa [Text.join] using hend
    | cons next rest =>
      have hrest := ih (List.cons_ne_nil _ _)
      have htext : (Text.join "\n\n" (text :: next :: rest) ++ "\n").toList =
          (text.toList ++ ['\n']) ++ '\n' :: (Text.join "\n\n" (next :: rest) ++ "\n").toList := by
        simp [Text.join, String.intercalate_cons_cons]
      rw [htext, splitLines_append, hend, hrest, ← List.flatMap_cons]

/-! ## Lines that name no section -/

/-- Whether a text begins, and not with a hash. -/
def Unmarked (text : String) : Prop := text.toList.head?.any (· ≠ '#')

instance (text : String) : Decidable (Unmarked text) := inferInstanceAs (Decidable (text.toList.head?.any (· ≠ '#') = true))

/-- Two texts begin without a hash when the first of them with a beginning does. -/
@[simp] theorem unmarked_append (text more : String) : Unmarked (text ++ more) ↔ Unmarked text ∨ (text = "" ∧ Unmarked more) := by
  unfold Unmarked
  rw [String.toList_append, List.head?_append, ← String.toList_eq_nil_iff]
  cases text.toList with
  | nil => simp
  | cons c rest => simp

/-- A text that does not begin with a hash is no heading. -/
theorem Unmarked.isHeading {text : String} (h : Unmarked text) : isHeading text.toList = false := by
  unfold Unmarked at h
  unfold DeepContext.isHeading
  cases htext : text.toList with
  | nil => decide
  | cons c rest =>
    rw [htext] at h
    have hc : '#' ≠ c := Ne.symm (of_decide_eq_true h)
    simp [List.isPrefixOf, hc]

/-- A line that is no heading names no section. -/
theorem sectionName?_of_not_heading {line : List Char} (h : isHeading line = false) : sectionName? line = none := by
  unfold isHeading at h
  simp only [List.any_cons, List.any_nil, Bool.or_false, Bool.or_eq_false_iff] at h
  unfold sectionName?
  rw [if_neg (by rw [h.2.2]; decide)]

theorem Unmarked.sectionName? {text : String} (h : Unmarked text) : sectionName? text.toList = none :=
  sectionName?_of_not_heading h.isHeading

/-- Whether no line of a chapter names a section. -/
def NamesNone (chapter : String) : Prop := ∀ line ∈ chapterLines chapter, sectionName? line = none

instance (chapter : String) : Decidable (NamesNone chapter) :=
  inferInstanceAs (Decidable (∀ line ∈ chapterLines chapter, sectionName? line = none))

/-- A chapter of lines that name no section names none. -/
theorem namesNone_join {lines : List String} (hne : lines ≠ []) (hone : ∀ line ∈ lines, OneLine line)
    (h : ∀ line ∈ lines, sectionName? line.toList = none) : NamesNone (Text.join "\n" lines) := by
  intro line hline
  unfold chapterLines at hline
  rw [splitLines_join hone hne] at hline
  rcases List.mem_append.mp hline with hmem | hempty
  · obtain ⟨text, htext, rfl⟩ := List.mem_map.mp hmem
    exact h text htext
  · rw [List.mem_singleton.mp hempty]
    rfl

/-- The executive summary names no section when the path and the time are on one line each. -/
theorem namesNone_executiveSummary {c : DeepContext} (hproject : OneLine c.projectPath) (hgenerated : OneLine c.generatedAt) :
    NamesNone (executiveSummary c) := by
  have htoolchain : OneLine c.toolchain.name := by cases c.toolchain <;> decide
  refine namesNone_join (by simp) ?_ ?_
  · simp +decide [hproject, hgenerated, htoolchain]
  · have hlabel : ∀ {text : String}, Unmarked text → sectionName? text.toList = none := Unmarked.sectionName?
    simp only [List.forall_mem_cons]
    refine ⟨by decide, by decide, hlabel ?_, hlabel ?_, hlabel ?_, hlabel ?_, hlabel ?_, hlabel ?_, List.forall_mem_nil _⟩
    all_goals simp +decide

/-- The scorecard names no section. -/
theorem namesNone_scorecard (s : Scorecard) : NamesNone (scorecardChapter s) := by
  refine namesNone_join (by simp) ?_ ?_
  · simp +decide
  · have hlabel : ∀ {text : String}, Unmarked text → sectionName? text.toList = none := Unmarked.sectionName?
    simp only [List.forall_mem_cons]
    refine ⟨by decide, by decide, hlabel ?_, hlabel ?_, hlabel ?_, hlabel ?_, List.forall_mem_nil _⟩
    all_goals simp +decide

/-! ## The sections of files -/

/-- Whether a file brings no line of its own into the context, and its path is spelled as a heading spells it. -/
structure Legible (f : ContextFile) : Prop where
  path : OneLine f.path
  slashes : '\\' ∉ f.path.toList
  start : ¬ ['.', '/'] <+: f.path.toList
  last : ∀ c ∈ f.path.toList.getLast?, isBlank c = false
  functions : ∀ g ∈ f.functions, OneLine g.name
  debt : OneLine f.satdItems.shown

/-- The lines of a section behind its heading. -/
def sectionRest (f : ContextFile) : List String :=
  "" :: scoreLine f :: if f.functions.isEmpty then [] else "" :: f.functions.map functionLine

theorem fileSection_eq (f : ContextFile) : fileSection f = Text.join "\n" (fileHeading f.path :: sectionRest f) := rfl

/-- The characters of a section are those of its lines. -/
theorem toList_fileSection (f : ContextFile) :
    (fileSection f).toList = joinLines ((fileHeading f.path).toList :: (sectionRest f).map String.toList) := by
  rw [fileSection_eq, Text.join, String.toList_intercalate]
  rfl

/-- The lines behind a heading are empty, tell the score or tell of a function. -/
theorem forall_mem_sectionRest {f : ContextFile} {p : String → Prop} (hempty : p "") (hscore : p (scoreLine f))
    (hfunction : ∀ g ∈ f.functions, p (functionLine g)) : ∀ line ∈ sectionRest f, p line := by
  refine List.forall_mem_cons.mpr ⟨hempty, List.forall_mem_cons.mpr ⟨hscore, ?_⟩⟩
  split
  · nofun
  · exact List.forall_mem_cons.mpr ⟨hempty, List.forall_mem_map.mpr hfunction⟩

/-- No line behind the heading of a section is a heading. -/
theorem isHeading_sectionRest (f : ContextFile) : ∀ line ∈ sectionRest f, isHeading line.toList = false := by
  have hscore : Unmarked (scoreLine f) := by
    unfold scoreLine
    simp +decide
  have hfunction : ∀ g, Unmarked (functionLine g) := fun g => by
    unfold functionLine
    simp +decide
  exact forall_mem_sectionRest (by decide) hscore.isHeading fun g _ => (hfunction g).isHeading

variable {f : ContextFile}

/-- The heading of a legible file is on one line. -/
theorem Legible.oneLine_heading (h : Legible f) : OneLine (fileHeading f.path) := by
  unfold fileHeading
  simp +decide [h.path]

/-- The other lines of its section are lines. -/
theorem Legible.oneLine_rest (h : Legible f) : ∀ line ∈ sectionRest f, OneLine line := by
  have hband : OneLine f.tdgBand.name := by cases f.tdgBand <;> decide
  refine forall_mem_sectionRest (by decide) ?_ fun g hg => ?_
  · unfold scoreLine
    simp +decide [h.debt, hband]
  · unfold functionLine
    simp +decide [h.functions g hg]

/-- The lines of a section are its heading and then lines that are none. -/
theorem Legible.splitLines_section (h : Legible f) :
    splitLines (fileSection f).toList = (fileHeading f.path).toList :: (sectionRest f).map String.toList := by
  rw [fileSection_eq, splitLines_join (List.forall_mem_cons.mpr ⟨h.oneLine_heading, h.oneLine_rest⟩) (List.cons_ne_nil _ _)]
  rfl

/-- The heading of a file's section names the file. -/
theorem Legible.sectionName? (h : Legible f) :
    DeepContext.sectionName? (fileHeading f.path).toList = some ('.' :: '/' :: f.path.toList) := by
  have hheading : (fileHeading f.path).toList = "### ".toList ++ ('.' :: '/' :: f.path.toList) := by
    simp [fileHeading, ToString.toString]
  have hlast : ∀ c ∈ ('.' :: '/' :: f.path.toList).getLast?, isBlank c = false := by
    intro c hc
    cases hpath : f.path.toList.getLast? with
    | none =>
      rw [List.getLast?_eq_none_iff.mp hpath] at hc
      obtain rfl : '/' = c := Option.some.inj hc
      decide
    | some d =>
      have hd := h.last d hpath
      have hsame : ('.' :: '/' :: f.path.toList).getLast? = some d := by simp [List.getLast?_cons, hpath]
      rw [hsame] at hc
      rwa [← Option.some.inj hc]
  have htrim := @trim_append_blanks ('.' :: '/' :: f.path.toList) [] (List.cons_ne_nil _ _)
    (fun c hc => by obtain rfl : '.' = c := Option.some.inj hc; decide) hlast (List.forall_mem_nil _)
  rw [List.append_nil] at htrim
  unfold DeepContext.sectionName?
  rw [hheading, if_pos (List.isPrefixOf_iff_prefix.mpr (List.prefix_append _ _))]
  exact congrArg some htrim

/-- Two texts end as the second does, if that has an end. -/
theorem getLast?_toList_append (text : String) {more : String} {c : Char} (h : more.toList.getLast? = some c) :
    (text ++ more).toList.getLast? = some c := by
  rw [String.toList_append, List.getLast?_append, h]
  rfl

/-- The last line of a section ends with a bracket. -/
theorem exists_last (f : ContextFile) : ∃ before line c, sectionRest f = before ++ [line] ∧ line.toList.getLast? = some c ∧
    isBlank c = false := by
  unfold sectionRest
  split
  · refine ⟨[""], scoreLine f, ')', rfl, ?_, by decide⟩
    unfold scoreLine
    exact getLast?_toList_append _ (by decide)
  · rename_i hfunctions
    have hne : f.functions ≠ [] := by simpa using hfunctions
    refine ⟨"" :: scoreLine f :: "" :: f.functions.dropLast.map functionLine, functionLine (f.functions.getLast hne), ']', ?_, ?_,
      by decide⟩
    · have hsplit : f.functions.map functionLine =
          f.functions.dropLast.map functionLine ++ [functionLine (f.functions.getLast hne)] := by
        rw [← List.map_singleton, ← List.map_append, List.dropLast_append_getLast]
      rw [hsplit]
      rfl
    · unfold functionLine
      exact getLast?_toList_append _ (by decide)

/-- A section begins with a hash and ends with a bracket. -/
theorem trim_section (f : ContextFile) : trim ((fileSection f).toList ++ ['\n']) = (fileSection f).toList := by
  obtain ⟨before, line, c, hrest, hlast, hblank⟩ := exists_last f
  have hlines := toList_fileSection f
  have hne : (sectionRest f).map String.toList ≠ [] := by simp [hrest]
  have hstart : (fileSection f).toList.head? = some '#' := by
    rw [hlines, joinLines_cons _ hne]
    simp [fileHeading, ToString.toString]
  have hend : (fileSection f).toList.getLast? = some c := by
    rw [hlines, hrest, List.map_append, ← List.cons_append, List.map_singleton, joinLines_append (List.cons_ne_nil _ _) (by simp),
      joinLines_singleton, List.getLast?_append, List.getLast?_cons, hlast]
    rfl
  refine trim_append_blanks (fun hnil => ?_) (fun d hd => ?_) (fun d hd => ?_) fun d hd => ?_
  · rw [hnil] at hstart
    cases hstart
  · obtain rfl : '#' = d := Option.some.inj (hstart.symm.trans hd)
    decide
  · obtain rfl : c = d := Option.some.inj (hend.symm.trans hd)
    exact hblank
  · obtain rfl := List.mem_singleton.mp hd
    decide

/-! ## The chapters of a context -/

variable {c : DeepContext}

/-- Whether the texts of a context bring no lines of their own into it before the last of its sections, and these are of different
files. -/
structure AllLegible (c : DeepContext) : Prop where
  files : ∀ f ∈ c.files, Legible f
  distinct : (c.files.map (·.path)).Nodup
  project : OneLine c.projectPath
  generated : OneLine c.generatedAt

/-- What stands before the sections of the files. -/
def preface (c : DeepContext) : List String :=
  ["# Deep Context Analysis", executiveSummary c, scorecardChapter c.scorecard, "## Project Structure"]

/-- No chapter before the sections names one of them. -/
theorem AllLegible.namesNone_preface (h : AllLegible c) : ∀ chapter ∈ preface c, NamesNone chapter := by
  unfold DeepContext.preface
  simp only [List.forall_mem_cons]
  exact ⟨by decide, namesNone_executiveSummary h.project h.generated, namesNone_scorecard _, by decide, List.forall_mem_nil _⟩

/-- Behind the sections of the files a chapter begins with a heading. -/
theorem exists_chapters {before after : List ContextFile} (hfiles : c.files = before ++ f :: after) :
    ∃ more, chapters c = (preface c ++ before.map fileSection) ++
      fileSection f :: (after.map fileSection ++ "## Complexity Hotspots" :: more) := by
  refine ⟨[hotspotTable c.complexityHotspots, churnChapter c.churn, debtChapter c.satd.summary, deadCodeChapter c.deadCode.summary,
    "## Predicted Defects", defectList c.predictedDefects, "## Recommendations", recommendationList c.recommendations], ?_⟩
  have hne : ¬ c.files.isEmpty = true := by simp [hfiles]
  unfold chapters
  rw [if_neg hne, hfiles]
  simp [preface]

theorem isHeading_fileHeading (path : String) : isHeading (fileHeading path).toList = true := by
  simp [isHeading, fileHeading, ToString.toString]

/-- Behind a section the next line is a heading. -/
theorem exists_next_heading {after : List ContextFile} (hlegible : ∀ g ∈ after, Legible g) (more : List String) :
    ∃ line rest, (after.map fileSection ++ "## Complexity Hotspots" :: more).flatMap chapterLines = line :: rest ∧
      isHeading line = true := by
  cases after with
  | nil => exact ⟨"## Complexity Hotspots".toList, _, rfl, by decide⟩
  | cons g after =>
    have hlines := (hlegible g List.mem_cons_self).splitLines_section
    refine ⟨(fileHeading g.path).toList, (sectionRest g).map String.toList ++ [[]] ++
      (after.map fileSection ++ "## Complexity Hotspots" :: more).flatMap chapterLines, ?_, isHeading_fileHeading g.path⟩
    rw [List.map_cons, List.cons_append, List.flatMap_cons, chapterLines, hlines]
    rfl

/-! ## Finding a section -/

/-- The lines from the first one on whose name holds. -/
theorem fromSection_append {holds : List Char → Bool} {before rest : List (List Char)} {line : List Char}
    (hbefore : ∀ other ∈ before, ¬ (sectionName? other).any holds) (hline : (sectionName? line).any holds) :
    fromSection holds (before ++ line :: rest) = some (line :: rest) := by
  induction before with
  | nil => exact if_pos hline
  | cons other before ih =>
    obtain ⟨hother, hbefore⟩ := List.forall_mem_cons.mp hbefore
    rw [List.cons_append, fromSection, if_neg hother]
    exact ih hbefore

/-- Whether a section's name is that of a file: with a dot before its path, or the path alone. -/
def namesFile (path : List Char) (name : List Char) : Bool := name = '.' :: '/' :: path ∨ name = path

/-- The lines of a file's section name no other file. -/
theorem Legible.names_other (h : Legible f) {g : ContextFile} (hg : Legible g) (hne : g.path ≠ f.path) :
    ∀ line ∈ chapterLines (fileSection g), ¬ (DeepContext.sectionName? line).any (namesFile f.path.toList) := by
  unfold chapterLines
  rw [hg.splitLines_section, List.forall_mem_append, List.forall_mem_cons, List.forall_mem_map]
  refine ⟨⟨?_, fun line hline => ?_⟩, ?_⟩
  · rw [hg.sectionName?]
    intro hnames
    rcases of_decide_eq_true hnames with hdot | hbare
    · exact hne (String.toList_inj.mp (List.cons.inj (List.cons.inj hdot).2).2)
    · exact h.start ⟨g.path.toList, hbare⟩
  · rw [sectionName?_of_not_heading (isHeading_sectionRest g line hline)]
    nofun
  · exact List.forall_mem_singleton.mpr nofun

/-- The section of a legible file is found by its path. -/
theorem Legible.named (h : Legible f) : (DeepContext.sectionName? (fileHeading f.path).toList).any (namesFile f.path.toList) := by
  rw [h.sectionName?]
  exact decide_eq_true (.inl rfl)

/-- No line before a file's section names the file. -/
theorem AllLegible.names_other (h : AllLegible c) {before after : List ContextFile} (hfiles : c.files = before ++ f :: after) :
    ∀ line ∈ (preface c ++ before.map fileSection).flatMap chapterLines,
      ¬ (sectionName? line).any (namesFile f.path.toList) := by
  have hmem : ∀ g ∈ before ++ f :: after, Legible g := hfiles ▸ h.files
  have hdistinct := h.distinct
  rw [hfiles, List.map_append, List.map_cons, List.nodup_append] at hdistinct
  intro line hline
  obtain ⟨chapter, hchapter, hline⟩ := List.mem_flatMap.mp hline
  rcases List.mem_append.mp hchapter with hpreface | hsection
  · rw [h.namesNone_preface chapter hpreface line hline]
    nofun
  · obtain ⟨g, hg, rfl⟩ := List.mem_map.mp hsection
    have hne : g.path ≠ f.path := hdistinct.2.2 _ (List.mem_map_of_mem hg) _ List.mem_cons_self
    exact (hmem f (by simp)).names_other (hmem g (List.mem_append_left _ hg)) hne line hline

/-- The lines of a context, cut at a file's heading and at the heading behind its section. -/
theorem AllLegible.splitLines_markdown (h : AllLegible c) {before after : List ContextFile} (hfiles : c.files = before ++ f :: after) :
    ∃ next rest, isHeading next = true ∧ splitLines (markdown c).toList =
      (preface c ++ before.map fileSection).flatMap chapterLines ++
        (fileHeading f.path).toList :: ((sectionRest f).map String.toList ++ [[]] ++ next :: rest) := by
  have hlegible : ∀ g ∈ before ++ f :: after, Legible g := hfiles ▸ h.files
  obtain ⟨more, hchapters⟩ := exists_chapters hfiles
  have hafter : ∀ g ∈ after, Legible g := fun g hg => hlegible g (by simp [hg])
  obtain ⟨next, rest, hnext, hheading⟩ := exists_next_heading hafter more
  refine ⟨next, rest, hheading, ?_⟩
  unfold markdown
  rw [splitLines_chapters (by simp [chapters]), hchapters, List.flatMap_append, List.flatMap_cons, hnext, chapterLines,
    (hlegible f (by simp)).splitLines_section]
  simp

/-- What is found for a file whose heading is the first that names it: the lines from there up to the next heading. -/
theorem Legible.sectionOf?_eq (h : Legible f) {text : String} {before rest : List (List Char)}
    (hlines : splitLines text.toList = before ++ (fileHeading f.path).toList :: rest)
    (hbefore : ∀ line ∈ before, ¬ (DeepContext.sectionName? line).any (namesFile f.path.toList)) : sectionOf? text f.path =
      some (String.ofList (trim (joinLines ((fileHeading f.path).toList :: rest.takeWhile (!isHeading ·))))) := by
  have hfound := @fromSection_append _ _ rest _ hbefore h.named
  have hholds : (fun name => decide (name = '.' :: '/' :: f.path.toList ∨ name = f.path.toList)) = namesFile f.path.toList := rfl
  unfold sectionOf? sectionLines?
  dsimp only
  rw [Path.normalChars_eq_self h.slashes h.start, hlines, hholds, hfound, Option.map_some, Option.map_some]

/-- The section of a file that is found in a context is the one that was written for the file: never a part of another file's, nor of
a later chapter. -/
theorem sectionOf?_markdown (h : AllLegible c) (hf : f ∈ c.files) : sectionOf? (markdown c) f.path = some (fileSection f) := by
  obtain ⟨before, after, hfiles⟩ := List.append_of_mem hf
  have hlegible := h.files f hf
  obtain ⟨next, rest, hnext, hlines⟩ := h.splitLines_markdown hfiles
  have hbody : ∀ line ∈ (sectionRest f).map String.toList ++ [[]], (!isHeading line) = true := by
    refine List.forall_mem_append.mpr ⟨List.forall_mem_map.mpr fun line hline => ?_, by decide⟩
    rw [isHeading_sectionRest f line hline]
    rfl
  have htaken : ((sectionRest f).map String.toList ++ [[]] ++ next :: rest).takeWhile (!isHeading ·) =
      (sectionRest f).map String.toList ++ [[]] := by
    rw [List.takeWhile_append_of_pos hbody, List.takeWhile_cons_of_neg (by simp [hnext]), List.append_nil]
  have hsection : (fileHeading f.path).toList :: ((sectionRest f).map String.toList ++ [[]]) =
      splitLines ((fileSection f).toList ++ '\n' :: []) := by
    rw [splitLines_append, hlegible.splitLines_section]
    rfl
  rw [hlegible.sectionOf?_eq hlines (h.names_other hfiles), htaken, hsection, joinLines_splitLines, trim_section, String.ofList_toList]

/-! ## A time that brings a heading -/

/-- The context with the heading of a file behind its time of generation. -/
def retimed (c : DeepContext) (path : String) : DeepContext := { c with generatedAt := c.generatedAt ++ "\n" ++ fileHeading path }

/-- The lines of an executive summary behind that of the project. -/
def summaryRest (c : DeepContext) : List String :=
  [s!"**Toolchain:** {c.toolchain.name}", s!"**Files Analyzed:** {c.summary.totalFiles}",
    s!"**Functions Analyzed:** {c.summary.totalFunctions}",
    s!"**Functions Over Threshold ({c.threshold.text}):** {c.summary.functionsOverThreshold}"]

/-- The summary with a heading in its time has that heading for a line. -/
theorem executiveSummary_retimed (c : DeepContext) (path : String) : executiveSummary (retimed c path) =
    Text.join "\n" (["## Executive Summary", "", "**Generated:** " ++ c.generatedAt, fileHeading path,
      "**Project:** " ++ c.projectPath] ++ summaryRest c) := by
  simp [executiveSummary, retimed, summaryRest, Text.join, String.intercalate_cons_cons, String.append_assoc, ToString.toString]

/-- The heading that a time brings stands before the line of the project. -/
theorem splitLines_retimed (h : AllLegible c) (hf : Legible f) : ∃ rest, splitLines (markdown (retimed c f.path)).toList =
    ["# Deep Context Analysis".toList, [], "## Executive Summary".toList, [], ("**Generated:** " ++ c.generatedAt).toList] ++
      (fileHeading f.path).toList :: ("**Project:** " ++ c.projectPath).toList :: rest := by
  have htoolchain : OneLine c.toolchain.name := by cases c.toolchain <;> decide
  have hone : ∀ line ∈ ["## Executive Summary", "", "**Generated:** " ++ c.generatedAt, fileHeading f.path,
      "**Project:** " ++ c.projectPath] ++ summaryRest c, OneLine line := by
    have hheading := hf.oneLine_heading
    simp +decide [summaryRest, h.generated, h.project, hheading, htoolchain]
  obtain ⟨more, hchapters⟩ : ∃ more, chapters (retimed c f.path) =
      "# Deep Context Analysis" :: executiveSummary (retimed c f.path) :: more := ⟨_, rfl⟩
  have hfirst : chapterLines "# Deep Context Analysis" = ["# Deep Context Analysis".toList, []] := by decide
  have hsummary : chapterLines (executiveSummary (retimed c f.path)) =
      (["## Executive Summary", "", "**Generated:** " ++ c.generatedAt, fileHeading f.path, "**Project:** " ++ c.projectPath] ++
        summaryRest c).map String.toList ++ [[]] := by
    rw [chapterLines, executiveSummary_retimed, splitLines_join hone (by simp)]
  refine ⟨(summaryRest c).map String.toList ++ [[]] ++ more.flatMap chapterLines, ?_⟩
  unfold markdown
  rw [splitLines_chapters (by simp [hchapters]), hchapters, List.flatMap_cons, List.flatMap_cons, hfirst, hsummary]
  simp

/-- A section has an empty line behind its heading, so lines with another one there are not a section. -/
theorem trim_ne_fileSection (f : ContextFile) {line : String} (hline : ∃ d ∈ line.toList.head?, d ≠ '\n') (more : List (List Char)) :
    trim (joinLines ((fileHeading f.path).toList :: line.toList :: more)) ≠ (fileSection f).toList := by
  intro hsame
  have hheading : '#' ∈ (joinLines ((fileHeading f.path).toList :: line.toList :: more)).head? := by
    rw [joinLines_cons _ (List.cons_ne_nil _ _)]
    simp [fileHeading, ToString.toString]
  have hpart : (fileSection f).toList <+: joinLines ((fileHeading f.path).toList :: line.toList :: more) := by
    rw [← hsame]
    exact trim_isPrefix fun d hd => by obtain rfl : '#' = d := Option.some.inj (hheading.symm.trans hd); decide
  -- the line feeds behind the headings agree, so what comes behind them begins alike
  rw [toList_fileSection, joinLines_cons _ (by simp [sectionRest]), joinLines_cons _ (List.cons_ne_nil _ _),
    List.prefix_append_right_inj, List.cons_prefix_cons] at hpart
  have hempty : '\n' ∈ (joinLines ((sectionRest f).map String.toList)).head? := by
    unfold sectionRest
    rw [List.map_cons, List.map_cons, joinLines_cons _ (List.cons_ne_nil _ _)]
    rfl
  obtain ⟨d, hd, hne⟩ := hline
  have hfirst : d ∈ (joinLines (line.toList :: more)).head? := by
    obtain ⟨tail, htail⟩ := isPrefix_joinLines line.toList more
    rw [← htail, List.head?_append, hd]
    rfl
  obtain ⟨tail, htail⟩ := hpart.2
  rw [← htail, List.head?_append, hempty] at hfirst
  exact hne (Option.some.inj hfirst).symm

/-- With the heading of a file behind the time of generation, what is found for the file is not its section: the line of the project
stands in it. -/
theorem sectionOf?_retimed_ne (h : AllLegible c) (hf : Legible f) :
    sectionOf? (markdown (retimed c f.path)) f.path ≠ some (fileSection f) := by
  obtain ⟨rest, hlines⟩ := splitLines_retimed h hf
  have hbefore : ∀ line ∈ ["# Deep Context Analysis".toList, [], "## Executive Summary".toList, [],
      ("**Generated:** " ++ c.generatedAt).toList], ¬ (DeepContext.sectionName? line).any (namesFile f.path.toList) := by
    have htime : Unmarked ("**Generated:** " ++ c.generatedAt) := by simp +decide
    have hnone : ∀ {line : List Char}, DeepContext.sectionName? line = none →
        ¬ (DeepContext.sectionName? line).any (namesFile f.path.toList) := fun hline => by simp [hline]
    simp only [List.forall_mem_cons]
    exact ⟨hnone (by decide), hnone (by decide), hnone (by decide), hnone (by decide), hnone htime.sectionName?,
      List.forall_mem_nil _⟩
  have hproject : (!isHeading ("**Project:** " ++ c.projectPath).toList) = true := by
    have hunmarked : Unmarked ("**Project:** " ++ c.projectPath) := by simp +decide
    rw [hunmarked.isHeading]
    rfl
  have htaken : (("**Project:** " ++ c.projectPath).toList :: rest).takeWhile (!isHeading ·) =
      ("**Project:** " ++ c.projectPath).toList :: rest.takeWhile (!isHeading ·) := List.takeWhile_cons_of_pos hproject
  rw [hf.sectionOf?_eq hlines hbefore, htaken]
  intro heq
  have hsame := congrArg String.toList (Option.some.inj heq)
  rw [String.toList_ofList] at hsame
  exact trim_ne_fileSection f ⟨'*', by simp, by decide⟩ _ hsame

namespace Nested

/-- A file without functions whose path ends the path of another file. -/
def nested : ContextFile := { (default : ContextFile) with path := "src/a.rs", satdItems := .number 0 }

/-- A file whose path ends with that of the other one. -/
def nesting : ContextFile :=
  { nested with path := "lib/src/a.rs", functions := [{ (default : FunctionInfo) with name := "f", cyclomatic := 1 }] }

def context : DeepContext := { (default : DeepContext) with projectPath := "/p", generatedAt := "today", files := [nesting, nested] }

theorem nested_mem : nested ∈ context.files := by simp [context]

/-- The context of the example is legible. -/
theorem allLegible : AllLegible context := by
  have hdebt : OneLine nested.satdItems.shown := by simp [nested, Figure.shown]
  have hlast : ∀ path : String, path.toList.getLast? = some 's' → ∀ c ∈ path.toList.getLast?, isBlank c = false := by
    intro path hpath c hc
    obtain rfl : 's' = c := Option.some.inj (hpath.symm.trans hc)
    decide
  have hnested : Legible nested := ⟨by decide, by decide, by decide, hlast _ (by decide), nofun, hdebt⟩
  have hnesting : Legible nesting := ⟨by decide, by decide, by decide, hlast _ (by decide), by simp +decide, hdebt⟩
  have hfiles : context.files = [nesting, nested] := rfl
  refine ⟨?_, ?_, by decide, by decide⟩
  · rw [hfiles]
    simp only [List.forall_mem_cons]
    exact ⟨hnesting, hnested, List.forall_mem_nil _⟩
  · rw [hfiles]
    decide

end Nested

open Nested in
/-- A file is found although an earlier path ends with its own. -/
theorem nested_found : sectionOf? (markdown context) nested.path = some (fileSection nested) :=
  sectionOf?_markdown allLegible nested_mem

open Nested in
/-- Where the time of generation brings a heading, the section of a file is not found. -/
theorem retimed_not_found : AllLegible context ∧ nested ∈ (retimed context nested.path).files ∧
    (retimed context nested.path).generatedAt = "today\n### ./src/a.rs" ∧
    sectionOf? (markdown (retimed context nested.path)) nested.path ≠ some (fileSection nested) := by
  have hlegible : Legible nested := allLegible.files nested nested_mem
  have hne := sectionOf?_retimed_ne allLegible hlegible
  have hfiles : (retimed context nested.path).files = context.files := rfl
  refine ⟨allLegible, ?_, ?_, hne⟩
  · rw [hfiles]
    exact nested_mem
  · unfold retimed
    dsimp only
    decide +kernel

end QualityGate.DeepContext
