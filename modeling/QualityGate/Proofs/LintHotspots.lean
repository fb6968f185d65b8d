import QualityGate.Diagnostics
import QualityGate.Proofs.Groups
import QualityGate.Proofs.Records
import QualityGate.Proofs.RoundingOrder

/-!
# Lint findings by file

Findings are put together by file, each file counts its own, and the densest file is brought out. What that has to come to is said by
`LintHotspot.Aggregates`, of the findings and without the groups. It is so exactly when no file is called `__proto__`, which a record
does not list, and when the search for the densest file starts from a file whose density is a number, if there is one
(`LintHotspot.aggregates_iff`): nothing is denser than what is no number, so that a search that starts there ends there.
-/

namespace QualityGate.LintHotspot

section Parts

variable (violations : List Violation) (sloc : Record Number) (unknown : Number)

/-- The findings with the paths of their files in normal form. -/
def normalized : List Violation := violations.map fun v => { v with file := normalizePath v.file }

/-- The files that findings are in, in order of first appearance. -/
def files : List String := distinct ((normalized violations).map (·.file))

/-- The findings in a file, in their own order. -/
def within (file : String) : List Violation := (normalized violations).filter (·.file == file)

/-- The files in reading order. -/
def ranked : List String := sortBy Collation.order (files violations)

/-- A file with its findings and their density. -/
def measured (file : String) : Hotspot := measure sloc unknown file (within violations file)

end Parts

variable {violations : List Violation} {sloc : Record Number} {unknown : Number}

/-- What is said of the densest file: it has the findings of that file, it is listed, no listed density is greater, and it comes first
among the files as dense. A density that is no number compares with none. -/
structure IsDensest (h : LintHotspot) (violations : List Violation) (top : Hotspot) : Prop where
  own : top.file ∈ files violations ∧ top.violations = within violations top.file
  listed : h.summaryByFile.get? top.file = some ⟨top.defectDensity, top.totalViolations⟩
  greatest : ∀ file d, h.summaryByFile.get? file = some d → d.defectDensity.isNan = false → d.defectDensity.le top.defectDensity = true
  first : ∀ file d, h.summaryByFile.get? file = some d → d.defectDensity.same top.defectDensity = true →
    Collation.order top.file file ≠ .gt

/-- What findings by file are: all findings, file after file, with the files listed, their findings counted and the densest found. -/
structure Aggregates (violations : List Violation) (h : LintHotspot) : Prop where
  all : h.allViolations = (files violations).flatMap (within violations)
  complete : h.allViolations.Perm (normalized violations)
  listed : h.summaryByFile.keys.Perm (files violations)
  counted : ∀ file d, h.summaryByFile.get? file = some d → d.totalViolations = (within violations file).length
  total : (h.summaryByFile.values.map (·.totalViolations)).sum = h.totalProjectViolations
  project : h.totalProjectViolations = violations.length
  none_iff : h.hotspot = none ↔ violations = []
  densest : ∀ top, h.hotspot = some top → IsDensest h violations top

/-- Whether the search for the densest file starts from one whose density is a number, if there is any. -/
def StartsFromNumber (violations : List Violation) (sloc : Record Number) (unknown : Number) : Prop :=
  ∀ first, (ranked violations).head? = some first → (measured violations sloc unknown first).defectDensity.isNan = true →
    ∀ file ∈ files violations, (measured violations sloc unknown file).defectDensity.isNan = true

/-! ## Files -/

theorem mem_ranked {file : String} : file ∈ ranked violations ↔ file ∈ files violations := mem_sortBy

theorem nodup_ranked : (ranked violations).Nodup := (List.mergeSort_perm _ _).nodup_iff.mpr nodup_distinct

/-- There are files with findings when there are findings. -/
theorem files_eq_nil_iff : files violations = [] ↔ violations = [] := by
  constructor
  · intro h
    cases violations with
    | nil => rfl
    | cons v rest =>
      have hmem : normalizePath v.file ∈ files (v :: rest) := mem_distinct.mpr (List.mem_map_of_mem List.mem_cons_self)
      rw [h] at hmem
      cases hmem
  · rintro rfl
    rfl

theorem ranked_eq_nil_iff : ranked violations = [] ↔ violations = [] := by
  rw [← files_eq_nil_iff, ranked, ← List.length_eq_zero_iff, sortBy, List.length_mergeSort, List.length_eq_zero_iff]

/-- What is sorted by the key of what is made from a key, is made from the sorted keys. -/
theorem sortBy_map_key {α : Type} (order : String → String → Ordering) (make : String → α) (keys : List String) :
    sortBy (fun a b : String × α => order a.1 b.1) (keys.map fun k => (k, make k)) = (sortBy order keys).map fun k => (k, make k) :=
  (@List.map_mergeSort _ _ _ (fun a b : String × α => (order a.1 b.1).isLE) (fun k => (k, make k)) keys fun _ _ _ _ => rfl).symm

/-- The findings by file, said of the findings. -/
theorem of_eq : of violations sloc unknown =
    { totalProjectViolations := violations.length,
      summaryByFile := Record.assignAll ((ranked violations).map fun file =>
        (file, ⟨(measured violations sloc unknown file).defectDensity, (measured violations sloc unknown file).totalViolations⟩)),
      hotspot := ((ranked violations).map (measured violations sloc unknown)).foldl denser none,
      allViolations := (files violations).flatMap (within violations) } := by
  have hgroups : groupBy (·.file) (violations.map fun v => { v with file := normalizePath v.file }) =
      (files violations).map fun file => (file, within violations file) := groupBy_eq_map
  unfold of
  dsimp only
  rw [hgroups, sortBy_map_key, List.map_map, List.map_map, List.map_map, List.flatMap_map]
  rfl

/-! ## The densest file -/

/-- A search that has found a file goes on with one. -/
theorem foldl_denser_some (best : Hotspot) (rest : List Hotspot) : ∃ top, rest.foldl denser (some best) = some top := by
  induction rest generalizing best with
  | nil => exact ⟨best, rfl⟩
  | cons next rest ih =>
    rw [List.foldl_cons, denser]
    split
    · exact ih next
    · exact ih best

/-- Nothing is denser than what is no number. -/
theorem foldl_denser_of_nan {best : Hotspot} (h : best.defectDensity.isNan = true) (rest : List Hotspot) :
    rest.foldl denser (some best) = some best := by
  have hnan : best.defectDensity = .nan := by
    cases hdensity : best.defectDensity with
    | nan => rfl
    | finite | infinite =>
      rw [hdensity] at h
      cases h
  induction rest with
  | nil => rfl
  | cons next rest ih =>
    rw [List.foldl_cons, denser, hnan, if_neg (by cases next.defectDensity <;> exact Bool.false_ne_true)]
    exact ih

/-- Whether one hotspot is denser than all before it and as dense as all behind it, as far as their densities are numbers. -/
def Leads (hotspots : List Hotspot) (top : Hotspot) : Prop :=
  ∃ before behind, hotspots = before ++ top :: behind ∧
    (∀ h ∈ before, h.defectDensity.isNan = false → h.defectDensity.lt top.defectDensity = true) ∧
    ∀ h ∈ behind, h.defectDensity.isNan = false → h.defectDensity.le top.defectDensity = true

/-- A search that starts from a density that is a number ends with the first of the densest. -/
theorem leads_of_foldl {hotspots : List Hotspot} (hstart : ∀ first, hotspots.head? = some first → first.defectDensity.isNan = false)
    {top : Hotspot} (h : hotspots.foldl denser none = some top) : top.defectDensity.isNan = false ∧ Leads hotspots top := by
  -- the search goes on behind what it has found so far, so the induction adds at the end
  induction hotspots using List.reverseRecOn generalizing top with
  | nil => cases h
  | append_singleton hotspots next ih =>
    rw [List.foldl_append, List.foldl_cons, List.foldl_nil] at h
    cases hbest : hotspots.foldl denser none with
    | none =>
      have hempty : hotspots = [] := by
        cases hotspots with
        | nil => rfl
        | cons first rest =>
          obtain ⟨best, hsome⟩ := foldl_denser_some first rest
          exact absurd (hbest.symm.trans hsome) nofun
      subst hempty
      obtain rfl : next = top := Option.some.inj h
      exact ⟨hstart next rfl, [], [], rfl, nofun, nofun⟩
    | some best =>
      have hstart' : ∀ first, hotspots.head? = some first → first.defectDensity.isNan = false := fun first hfirst =>
        hstart first (by rw [List.head?_append, hfirst]; rfl)
      obtain ⟨hnumber, before, behind, rfl, hbefore, hbehind⟩ := ih hstart' hbest
      rw [hbest, denser] at h
      split at h
      · -- the next one is denser: all that came up to the best so far stay below it
        rename_i hlt
        obtain rfl := Option.some.inj h
        have hnext := Number.isNan_of_lt_right hlt
        have hbelow : ∀ h : Hotspot, h.defectDensity.isNan = false → h.defectDensity.le best.defectDensity = true →
            h.defectDensity.lt next.defectDensity = true := fun h hh hle =>
          (Number.lt_iff_place hh hnext).mpr
            (((Number.le_iff_place hh hnumber).mp hle).trans_lt ((Number.lt_iff_place hnumber hnext).mp hlt))
        refine ⟨hnext, before ++ best :: behind, [], rfl, fun h hmem hh => hbelow h hh ?_, nofun⟩
        rcases List.mem_append.mp hmem with hmem | hmem
        · exact (Number.le_iff_place hh hnumber).mpr ((Number.lt_iff_place hh hnumber).mp (hbefore h hmem hh)).le
        · rcases List.mem_cons.mp hmem with rfl | hmem
          · exact (Number.le_iff_place hh hnumber).mpr le_rfl
          · exact hbehind h hmem hh
      · rename_i hnot
        obtain rfl := Option.some.inj h
        refine ⟨hnumber, before, behind ++ [next], by rw [List.append_assoc, List.cons_append], hbefore, fun h hmem hh => ?_⟩
        rcases List.mem_append.mp hmem with hmem | hmem
        · exact hbehind h hmem hh
        · obtain rfl := List.mem_singleton.mp hmem
          rw [Number.le_eq_not_lt hh hnumber, Bool.not_eq_true']
          exact Bool.not_eq_true _ ▸ hnot

/-! ## The listed files -/

/-- The summary has no entry under the inherited name. -/
theorem baseName_notMem_keys : Inherited.baseName ∉ (of violations sloc unknown).summaryByFile.keys := by
  rw [of_eq, ← Record.get?_eq_none_iff]
  exact Record.get?_assignAll_baseName _

/-- The summary has no doubled names. -/
theorem nodup_keys_summary : (of violations sloc unknown).summaryByFile.keys.Nodup := by
  rw [of_eq]
  exact Record.nodup_keys_assignAll _

/-- A file with findings has its own entry in the summary, and no other name has one. -/
theorem get?_summary (hbase : Inherited.baseName ∉ files violations) (file : String) :
    (of violations sloc unknown).summaryByFile.get? file = if file ∈ files violations then
      some ⟨(measured violations sloc unknown file).defectDensity, (measured violations sloc unknown file).totalViolations⟩ else none := by
  by_cases hname : file = Inherited.baseName
  · subst hname
    rw [if_neg hbase, Record.get?_eq_none_iff]
    exact baseName_notMem_keys
  rw [of_eq]
  dsimp only
  generalize hpairs : (ranked violations).map _ = pairs
  have hkeys : Record.keys pairs = ranked violations := by
    rw [← hpairs, Record.keys, List.map_map]
    exact List.map_id _
  have hdistinct : (Record.keys pairs).Nodup := hkeys ▸ nodup_ranked
  rw [Record.get?_assignAll _ hname, Record.last?_eq_get? hdistinct]
  split
  · rename_i hmem
    have hpair : (file, (⟨(measured violations sloc unknown file).defectDensity,
        (measured violations sloc unknown file).totalViolations⟩ : LintDensity)) ∈ pairs :=
      hpairs ▸ List.mem_map_of_mem (mem_ranked.mpr hmem)
    exact Record.get?_of_mem hdistinct hpair
  · rename_i hnot
    rw [Record.get?_eq_none_iff, hkeys, mem_ranked]
    exact hnot

/-- A listed file is one that findings are in, with its density and the count of its findings. -/
theorem eq_of_get?_summary (hbase : Inherited.baseName ∉ files violations) {file : String} {d : LintDensity}
    (h : (of violations sloc unknown).summaryByFile.get? file = some d) : file ∈ files violations ∧
      d = ⟨(measured violations sloc unknown file).defectDensity, (measured violations sloc unknown file).totalViolations⟩ := by
  rw [get?_summary hbase] at h
  split at h
  · rename_i hmem
    exact ⟨hmem, (Option.some.inj h).symm⟩
  · cases h

/-- The names of the summary are the files with findings. -/
theorem keys_summary_perm (hbase : Inherited.baseName ∉ files violations) :
    (of violations sloc unknown).summaryByFile.keys.Perm (files violations) := by
  refine (List.perm_ext_iff_of_nodup nodup_keys_summary nodup_distinct).mpr fun file => ?_
  rw [← not_iff_not, ← Record.get?_eq_none_iff, get?_summary hbase]
  split
  · rename_i hmem
    exact iff_of_false nofun (not_not_intro hmem)
  · rename_i hnot
    exact iff_of_true rfl hnot

/-- All findings are listed, each once. -/
theorem allViolations_perm : (of violations sloc unknown).allViolations.Perm (normalized violations) := by
  rw [of_eq]
  exact flatMap_filter_perm

/-- The findings of the listed files add up to all findings. -/
theorem sum_summary (hbase : Inherited.baseName ∉ files violations) :
    ((of violations sloc unknown).summaryByFile.values.map (·.totalViolations)).sum = violations.length := by
  have hvalues : (of violations sloc unknown).summaryByFile.values.map (·.totalViolations) =
      (of violations sloc unknown).summaryByFile.keys.map fun file => (within violations file).length := by
    rw [Record.values, Record.keys, List.map_map, List.map_map]
    refine List.map_congr_left fun entry hentry => ?_
    have hget := Record.get?_of_mem nodup_keys_summary hentry
    exact congrArg LintDensity.totalViolations (eq_of_get?_summary hbase hget).2
  have hlength := (@allViolations_perm violations sloc unknown).length_eq
  rw [of_eq] at hlength
  rw [hvalues, ((keys_summary_perm hbase).map _).sum_eq, ← List.length_flatMap, hlength, normalized, List.length_map]

/-! ## What is put together -/

/-- The file that leads the others is the densest one of the report. -/
theorem isDensest (hbase : Inherited.baseName ∉ files violations) {top : Hotspot}
    (hleads : Leads ((ranked violations).map (measured violations sloc unknown)) top) :
    IsDensest (of violations sloc unknown) violations top := by
  have hsorted : (ranked violations).Pairwise fun a b => (Collation.order a b).isLE := pairwise_sortBy
  obtain ⟨before, behind, hsplit, hbefore, hbehind⟩ := hleads
  obtain ⟨before, rest, hranked, rfl, hrest⟩ := List.map_eq_append_iff.mp hsplit
  obtain ⟨file, behind, rfl, rfl, rfl⟩ := List.map_eq_cons_iff.mp hrest
  have hcases : ∀ other, other ∈ files violations ↔ other ∈ before ∨ other = file ∨ other ∈ behind := fun other => by
    rw [← mem_ranked, hranked, List.mem_append, List.mem_cons]
  have hmem : file ∈ files violations := (hcases file).mpr (.inr (.inl rfl))
  rw [hranked] at hsorted
  have hbehindSorted := (List.pairwise_cons.mp (List.pairwise_append.mp hsorted).2.1).1
  refine ⟨⟨hmem, rfl⟩, (get?_summary hbase file).trans (if_pos hmem), fun other d hother hnumber => ?_, fun other d hother hsame => ?_⟩
  · obtain ⟨hfile, rfl⟩ := eq_of_get?_summary hbase hother
    rcases (hcases other).mp hfile with hin | rfl | hin
    · rw [Number.le, hbefore _ (List.mem_map_of_mem hin) hnumber, Bool.true_or]
    · exact (Number.le_iff_place hnumber hnumber).mpr le_rfl
    · exact hbehind _ (List.mem_map_of_mem hin) hnumber
  · obtain ⟨hfile, rfl⟩ := eq_of_get?_summary hbase hother
    rcases (hcases other).mp hfile with hin | rfl | hin
    · have hlt := hbefore _ (List.mem_map_of_mem hin) (Number.isNan_of_same_left hsame)
      exact absurd hsame (by rw [Number.same_eq_false_of_lt hlt]; exact Bool.false_ne_true)
    · show Collation.order other other ≠ .gt
      rw [@Std.ReflCmp.compare_self _ Collation.order _ other]
      decide
    · exact Ordering.isLE_iff_ne_gt.mp (hbehindSorted other hin)

/-- Where the search starts from a number, or no density is one, it ends with the first of the densest files. -/
theorem leads_of_startsFromNumber (hstart : StartsFromNumber violations sloc unknown) {top : Hotspot}
    (h : (of violations sloc unknown).hotspot = some top) : Leads ((ranked violations).map (measured violations sloc unknown)) top := by
  rw [of_eq] at h
  cases hranked : ranked violations with
  | nil =>
    rw [hranked] at h
    cases h
  | cons first rest =>
    rw [hranked] at h
    cases hnan : (measured violations sloc unknown first).defectDensity.isNan with
    | false =>
      refine (leads_of_foldl (fun leading hfirst => ?_) h).2
      obtain rfl : measured violations sloc unknown first = leading := Option.some.inj hfirst
      exact hnan
    | true =>
      have hall := hstart first (by rw [hranked]; rfl) hnan
      obtain rfl := Option.some.inj ((foldl_denser_of_nan hnan _).symm.trans h)
      refine ⟨[], rest.map (measured violations sloc unknown), rfl, nofun, fun other hother hnumber => ?_⟩
      obtain ⟨file, hfile, rfl⟩ := List.mem_map.mp hother
      have hmem := mem_ranked.mp (hranked ▸ List.mem_cons_of_mem first hfile)
      rw [hall file hmem] at hnumber
      cases hnumber

/-- There is no densest file when there are no findings. -/
theorem hotspot_eq_none_iff : (of violations sloc unknown).hotspot = none ↔ violations = [] := by
  rw [of_eq, ← ranked_eq_nil_iff]
  cases ranked violations with
  | nil => exact iff_of_true rfl rfl
  | cons first rest =>
    obtain ⟨top, htop⟩ := foldl_denser_some (measured violations sloc unknown first) (rest.map (measured violations sloc unknown))
    refine iff_of_false (fun h => ?_) (List.cons_ne_nil _ _)
    exact absurd (htop.symm.trans h) nofun

/-- Findings are put together by file as they have to be, exactly when no file has the name that a record does not list and the search for
the densest file starts from a density that is a number, if there is any. -/
theorem aggregates_iff (violations : List Violation) (sloc : Record Number) (unknown : Number) :
    Aggregates violations (of violations sloc unknown) ↔
      Inherited.baseName ∉ files violations ∧ StartsFromNumber violations sloc unknown := by
  constructor
  · intro h
    have hbase : Inherited.baseName ∉ files violations := fun hmem => baseName_notMem_keys (h.listed.mem_iff.mpr hmem)
    refine ⟨hbase, fun first hfirst hnan file hfile => ?_⟩
    by_contra hnumber
    rw [Bool.not_eq_true] at hnumber
    obtain ⟨rest, hranked⟩ : ∃ rest, ranked violations = first :: rest := List.head?_eq_some_iff.mp hfirst
    have hhotspot : (of violations sloc unknown).hotspot = some (measured violations sloc unknown first) := by
      rw [of_eq]
      dsimp only
      rw [hranked]
      exact foldl_denser_of_nan hnan _
    have hle := (h.densest _ hhotspot).greatest file _ ((get?_summary hbase file).trans (if_pos hfile)) hnumber
    rw [Number.isNan_of_le_right hle] at hnan
    cases hnan
  · rintro ⟨hbase, hstart⟩
    exact
      { all := by rw [of_eq]
        complete := allViolations_perm
        listed := keys_summary_perm hbase
        counted := fun file d hd => by rw [(eq_of_get?_summary hbase hd).2]; rfl
        total := (sum_summary hbase).trans (by rw [of_eq])
        project := by rw [of_eq]
        none_iff := hotspot_eq_none_iff
        densest := fun top htop => isDensest hbase (leads_of_startsFromNumber hstart htop) }

/-- A file called `__proto__` has findings and is not listed. -/
theorem baseNamedFile_not_listed :
    let finding : Violation := ⟨"__proto__", 1, 1, 1, 1, "unused", "unused", .warning, none, false⟩
    ¬Aggregates [finding] (of [finding] [] defaultLines) := by
  intro finding h
  have hfile : "__proto__" ∈ files [finding] := by decide +kernel
  exact baseName_notMem_keys (h.listed.mem_iff.mpr hfile)

end QualityGate.LintHotspot
