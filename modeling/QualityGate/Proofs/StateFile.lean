import QualityGate.Proofs.Actions
import QualityGate.Proofs.Checks
import QualityGate.Proofs.FieldNames
import QualityGate.Proofs.Magnitudes
import QualityGate.Proofs.Paths
import QualityGate.State.Store

/-!
# Reading back the state file

A state is read from a text as it was written when its counts are counts, its coverage is a percentage, its completed files are distinct
and all numbers of its progress are finite (`StateStore.read_textOf`). A number that is not finite is written as null, so a state with
one in its progress is not read as it was (`StateStore.isFinite_of_read_textOf`). What is read of any text is sound, except that numbers
of its progress may be too large to be finite (`StateStore.sound_of_read`).
-/

namespace QualityGate

open Checked (ok)

/-! ## Checks of numbers -/

namespace Check

variable {j : Option Json} {x : Number}

/-- A count is read as a number that is one. -/
theorem count_eq_ok_iff (h : ∀ v ∈ j, v.Rounded) : count j = ok x ↔ j = some (.num x) ∧ x.IsCount := by
  unfold count atLeast whole
  rw [must_eq_ok_iff, must_eq_ok_iff, number_eq_ok_iff, and_assoc, and_assoc]
  refine and_congr_right fun hj => ?_
  have hx : x.IsRounded := h _ hj
  rw [Number.zero_eq]
  constructor
  · rintro ⟨-, hwhole, hle⟩
    cases x with
    | finite q =>
      rw [Number.le_finite, decide_eq_true_eq] at hle
      have hden : q.den = 1 := by
        by_contra hden
        rw [Number.toInt?, if_neg hden] at hwhole
        cases hwhole
      have hq : q = (q.num.toNat : Rat) := by
        rw [← Int.cast_natCast, Int.toNat_of_nonneg (Rat.num_nonneg.mpr hle)]
        exact (Rat.coe_int_num_of_den_eq_one hden).symm
      exact ⟨q.num.toNat, by rw [← hq], hq ▸ hx q rfl⟩
    | nan => cases hwhole
    | infinite negative => cases hwhole
  · rintro ⟨n, rfl, -⟩
    refine ⟨nofun, ?_, ?_⟩
    · simp [Number.toInt?]
    · rw [Number.le_finite]
      simp

/-- A percentage is read as a number that is one. -/
theorem percent_eq_ok_iff (h : ∀ v ∈ j, v.Rounded) : atMost 100 (atLeast 0 number) j = ok x ↔ j = some (.num x) ∧ x.IsPercent := by
  have hhundred : (100 : Number) = .finite 100 := (Number.ofNat_eq (by decide)).trans (by norm_num)
  unfold atMost atLeast
  rw [must_eq_ok_iff, must_eq_ok_iff, number_eq_ok_iff, and_assoc, and_assoc]
  refine and_congr_right fun hj => ?_
  have hx : x.IsRounded := h _ hj
  rw [Number.zero_eq, hhundred]
  cases x with
  | finite q =>
    rw [Number.le_finite, Number.le_finite, decide_eq_true_eq, decide_eq_true_eq]
    constructor
    · rintro ⟨-, hlow, hhigh⟩
      exact ⟨q, rfl, hx q rfl, hlow, hhigh⟩
    · rintro ⟨_, heq, -, hlow, hhigh⟩
      rw [← Number.finite.inj heq] at hlow hhigh
      exact ⟨nofun, hlow, hhigh⟩
  | nan => exact iff_of_false (fun h => h.1 rfl) fun ⟨_, heq, _⟩ => nomatch heq
  | infinite negative =>
    refine iff_of_false (fun ⟨_, hlow, hhigh⟩ => ?_) fun ⟨_, heq, _⟩ => nomatch heq
    cases negative with
    | true => cases hlow
    | false => cases hhigh

/-- An optional value is read as it was written when null is not what a value is written as. -/
theorem nullable_encode {α : Type} [Encode α] {check : Check α} {o : Option α}
    (h : ∀ a, o = some a → check (some (encode a)) = ok a ∧ encode a ≠ .null) : nullable check (some (encode o)) = ok o := by
  cases o with
  | none => rfl
  | some a =>
    obtain ⟨hok, hnull⟩ := h a rfl
    exact nullable_eq_ok_iff.mpr (.inr ⟨fun heq => hnull (Option.some.inj heq), a, hok, rfl⟩)

end Check

theorem Number.IsCount.check {x : Number} (h : x.IsCount) : Check.count (some (.num x)) = ok x :=
  (Check.count_eq_ok_iff (by rintro _ ⟨⟩; exact h.isAmount.isRounded)).mpr ⟨rfl, h⟩

/-- Whether a record has all fields of another one. -/
def Has (fields pairs : Record Json) : Prop := ∀ pair ∈ pairs, fields.get? pair.1 = some pair.2

theorem has_self {fields : Record Json} (hdistinct : fields.keys.Nodup) : Has fields fields := fun _ => Record.get?_of_mem hdistinct

/-! ## Metrics -/

namespace Metrics

/-- The fields that metrics are written with. -/
def fields (m : Metrics) : Record Json :=
  [("totalViolations", .num m.totalViolations), ("filesWithIssues", .num m.filesWithIssues), ("totalFiles", .num m.totalFiles),
    ("coveragePercent", .num m.coveragePercent), ("maxComplexity", .num m.maxComplexity),
    ("functionsWithHighComplexity", .num m.functionsWithHighComplexity), ("totalFunctions", .num m.totalFunctions),
    ("satdCount", .num m.satdCount)]

theorem encode_eq (m : Metrics) : encode m = .obj m.fields := rfl

def names : List String :=
  ["totalViolations", "filesWithIssues", "totalFiles", "coveragePercent", "maxComplexity", "functionsWithHighComplexity",
    "totalFunctions", "satdCount"]

theorem keys_fields (m : Metrics) : m.fields.keys = names := rfl

theorem isFieldName : ∀ name ∈ names, KeyCase.IsFieldName name := by decide +kernel

theorem nodup_names : names.Nodup := by decide

def counts (m : Metrics) : List Number :=
  [m.totalViolations, m.filesWithIssues, m.totalFiles, m.maxComplexity, m.functionsWithHighComplexity, m.totalFunctions, m.satdCount]

/-- Counts, and a coverage in percent. -/
structure Sound (m : Metrics) : Prop where
  counts : ∀ x ∈ m.counts, x.IsCount
  coverage : m.coveragePercent.IsPercent

/-- Metrics are read from their fields, and they are sound. -/
theorem check_eq_ok_iff {m : Metrics} {fields : Record Json} (h : Json.RoundedFields fields) :
    check (some (.obj fields)) = ok m ↔ Has fields m.fields ∧ m.Sound := by
  have hget := Json.rounded_of_get? h
  unfold check Check.object
  simp only [Checked.seq_eq_ok_iff, Checked.map_eq_ok_iff, Check.field_eq_ok_iff, Check.count_eq_ok_iff (hget _),
    Check.percent_eq_ok_iff (hget _)]
  constructor
  · rintro ⟨_, x8, ⟨_, x7, ⟨_, x6, ⟨_, x5, ⟨_, x4, ⟨_, x3, ⟨_, x2, ⟨x1, h1, rfl⟩, h2, rfl⟩, h3, rfl⟩, h4, rfl⟩, h5, rfl⟩, h6, rfl⟩,
      h7, rfl⟩, h8, rfl⟩
    refine ⟨?_, ⟨?_, h4.2⟩⟩
    · simp [Has, Metrics.fields, h1, h2, h3, h4, h5, h6, h7, h8]
    · simp [Metrics.counts, h1, h2, h3, h5, h6, h7, h8]
  · rintro ⟨hhas, hcounts, hcoverage⟩
    simp only [Has, Metrics.fields, List.forall_mem_cons] at hhas
    simp only [Metrics.counts, List.forall_mem_cons] at hcounts
    obtain ⟨h1, h2, h3, h4, h5, h6, h7, h8, -⟩ := hhas
    obtain ⟨c1, c2, c3, c5, c6, c7, c8, -⟩ := hcounts
    exact ⟨_, _, ⟨_, _, ⟨_, _, ⟨_, _, ⟨_, _, ⟨_, _, ⟨_, _, ⟨_, ⟨h1, c1⟩, rfl⟩, ⟨h2, c2⟩, rfl⟩, ⟨h3, c3⟩, rfl⟩, ⟨h4, hcoverage⟩, rfl⟩,
      ⟨h5, c5⟩, rfl⟩, ⟨h6, c6⟩, rfl⟩, ⟨h7, c7⟩, rfl⟩, ⟨h8, c8⟩, rfl⟩

/-- All names inside written metrics are field names. -/
theorem wellNamed (m : Metrics) : (encode m).WellNamed := by
  refine Json.wellNamed_obj m.keys_fields isFieldName nodup_names ?_
  simp only [List.forall_mem_cons]
  exact ⟨trivial, trivial, trivial, trivial, trivial, trivial, trivial, trivial, nofun⟩

variable {m : Metrics}

/-- The values of metrics that are written are finite numbers. -/
theorem Sound.fields (h : m.Sound) : ∀ field ∈ m.fields, ∃ x : Number, field.2 = .num x ∧ x.IsAmount := by
  have hcoverage := h.coverage.isAmount
  have hcounts := fun x hx => (h.counts x hx).isAmount
  simp only [Metrics.counts, List.forall_mem_cons] at hcounts
  obtain ⟨h1, h2, h3, h5, h6, h7, h8, -⟩ := hcounts
  simp only [Metrics.fields, List.forall_mem_cons]
  exact ⟨⟨_, rfl, h1⟩, ⟨_, rfl, h2⟩, ⟨_, rfl, h3⟩, ⟨_, rfl, hcoverage⟩, ⟨_, rfl, h5⟩, ⟨_, rfl, h6⟩, ⟨_, rfl, h7⟩, ⟨_, rfl, h8⟩, nofun⟩

/-- The numbers of sound metrics are rounded ones. -/
theorem Sound.rounded (h : m.Sound) : (encode m).Rounded := by
  refine Json.roundedFields_iff.mpr fun field hfield => ?_
  obtain ⟨x, heq, hx⟩ := h.fields field hfield
  rw [heq]
  exact hx.isRounded

/-- No number of sound metrics is lost when they are written. -/
theorem Sound.written (h : m.Sound) : (encode m).written = encode m := by
  refine Json.written_obj isFieldName nodup_names fun field hfield => ?_
  obtain ⟨x, heq, hx⟩ := h.fields field hfield
  rw [heq, Json.written_num hx.isFinite]

/-- Metrics that are read are sound. -/
theorem sound_of_check {j : Option Json} (h : ∀ v ∈ j, v.Rounded) (hok : check j = ok m) : m.Sound := by
  obtain ⟨fields, rfl, -⟩ := Check.object_eq_ok_iff.mp hok
  exact ((check_eq_ok_iff (h _ rfl)).mp hok).2

/-- Metrics are read as they were written. -/
theorem Sound.check (h : m.Sound) : Metrics.check (some (encode m)) = ok m :=
  (check_eq_ok_iff h.rounded).mpr ⟨has_self nodup_names, h⟩

end Metrics

/-! ## Progress -/

/-- A phase is read from its name only. -/
theorem Phase.ofName?_eq_some_iff {name : String} {phase : Phase} : ofName? name = some phase ↔ name = phase.name := by
  constructor
  · intro h
    have hname := List.find?_some h
    exact (of_decide_eq_true hname).symm
  · rintro rfl
    cases phase <;> rfl

namespace Progress

/-- The fields that progress is written with. -/
def fields (p : Progress) : Record Json :=
  [("overallCompletionPercent", .num p.overallCompletionPercent), ("lintCompletionPercent", .num p.lintCompletionPercent),
    ("complexityCompletionPercent", .num p.complexityCompletionPercent), ("satdCompletionPercent", .num p.satdCompletionPercent),
    ("coverageCompletionPercent", .num p.coverageCompletionPercent), ("filesCompleted", .num p.filesCompleted),
    ("filesRemaining", .num p.filesRemaining), ("estimatedTimeRemainingMinutes", .num p.estimatedTimeRemainingMinutes),
    ("qualityGatesPassed", .strings p.qualityGatesPassed), ("qualityGatesRemaining", .strings p.qualityGatesRemaining),
    ("currentPhase", .str p.currentPhase.name)]

theorem encode_eq (p : Progress) : encode p = .obj p.fields := rfl

def names : List String :=
  ["overallCompletionPercent", "lintCompletionPercent", "complexityCompletionPercent", "satdCompletionPercent",
    "coverageCompletionPercent", "filesCompleted", "filesRemaining", "estimatedTimeRemainingMinutes", "qualityGatesPassed",
    "qualityGatesRemaining", "currentPhase"]

theorem keys_fields (p : Progress) : p.fields.keys = names := rfl

theorem isFieldName : ∀ name ∈ names, KeyCase.IsFieldName name := by decide +kernel

theorem nodup_names : names.Nodup := by decide

def amounts (p : Progress) : List Number :=
  [p.overallCompletionPercent, p.lintCompletionPercent, p.complexityCompletionPercent, p.satdCompletionPercent,
    p.coverageCompletionPercent, p.estimatedTimeRemainingMinutes]

def counts (p : Progress) : List Number := [p.filesCompleted, p.filesRemaining]

/-- The progress is read from its fields, with amounts that are numbers and counts that are counts. -/
theorem check_eq_ok_iff {p : Progress} {fields : Record Json} (h : Json.RoundedFields fields) : check (some (.obj fields)) = ok p ↔
    Has fields p.fields ∧ (∀ x ∈ p.amounts, x ≠ .nan) ∧ ∀ x ∈ p.counts, x.IsCount := by
  have hget := Json.rounded_of_get? h
  unfold check Check.object
  simp only [Checked.seq_eq_ok_iff, Checked.map_eq_ok_iff, Check.field_eq_ok_iff, Check.count_eq_ok_iff (hget _),
    Check.number_eq_ok_iff, Check.texts_eq_ok_iff, Check.oneOf_eq_ok_iff, Phase.ofName?_eq_some_iff]
  constructor
  · rintro ⟨_, x11, ⟨_, x10, ⟨_, x9, ⟨_, x8, ⟨_, x7, ⟨_, x6, ⟨_, x5, ⟨_, x4, ⟨_, x3, ⟨_, x2, ⟨x1, h1, rfl⟩, h2, rfl⟩, h3, rfl⟩, h4, rfl⟩,
      h5, rfl⟩, h6, rfl⟩, h7, rfl⟩, h8, rfl⟩, h9, rfl⟩, h10, rfl⟩, ⟨_, h11, rfl⟩, rfl⟩
    refine ⟨?_, ?_, ?_⟩
    · simp [Has, Progress.fields, h1, h2, h3, h4, h5, h6, h7, h8, h9, h10, h11]
    · simp [Progress.amounts, h1, h2, h3, h4, h5, h8]
    · simp [Progress.counts, h6, h7]
  · rintro ⟨hhas, hamounts, hcounts⟩
    simp only [Has, Progress.fields, List.forall_mem_cons] at hhas
    simp only [Progress.amounts, List.forall_mem_cons] at hamounts
    simp only [Progress.counts, List.forall_mem_cons] at hcounts
    obtain ⟨h1, h2, h3, h4, h5, h6, h7, h8, h9, h10, h11, -⟩ := hhas
    obtain ⟨a1, a2, a3, a4, a5, a8, -⟩ := hamounts
    obtain ⟨c6, c7, -⟩ := hcounts
    exact ⟨_, _, ⟨_, _, ⟨_, _, ⟨_, _, ⟨_, _, ⟨_, _, ⟨_, _, ⟨_, _, ⟨_, _, ⟨_, _, ⟨_, ⟨h1, a1⟩, rfl⟩, ⟨h2, a2⟩, rfl⟩, ⟨h3, a3⟩, rfl⟩,
      ⟨h4, a4⟩, rfl⟩, ⟨h5, a5⟩, rfl⟩, ⟨h6, c6⟩, rfl⟩, ⟨h7, c7⟩, rfl⟩, ⟨h8, a8⟩, rfl⟩, h9, rfl⟩, h10, rfl⟩, ⟨_, h11, rfl⟩, rfl⟩

/-- All names inside a written progress are field names. -/
theorem wellNamed (p : Progress) : (encode p).WellNamed := by
  refine Json.wellNamed_obj p.keys_fields isFieldName nodup_names ?_
  simp only [List.forall_mem_cons]
  exact ⟨trivial, trivial, trivial, trivial, trivial, trivial, trivial, trivial, Json.wellNamed_strings _, Json.wellNamed_strings _,
    trivial, nofun⟩

variable {p : Progress}

/-- Numbers that are finite, and counts. -/
structure Sound (p : Progress) : Prop where
  amounts : ∀ x ∈ p.amounts, x.IsAmount
  counts : ∀ x ∈ p.counts, x.IsCount

/-- Each number of progress stands in a field. -/
theorem exists_field_of_amount {x : Number} (h : x ∈ p.amounts) : ∃ name, (name, Json.num x) ∈ p.fields := by
  simp only [amounts, List.mem_cons, List.not_mem_nil, or_false] at h
  rcases h with rfl | rfl | rfl | rfl | rfl | rfl
  · exact ⟨"overallCompletionPercent", by simp [fields]⟩
  · exact ⟨"lintCompletionPercent", by simp [fields]⟩
  · exact ⟨"complexityCompletionPercent", by simp [fields]⟩
  · exact ⟨"satdCompletionPercent", by simp [fields]⟩
  · exact ⟨"coverageCompletionPercent", by simp [fields]⟩
  · exact ⟨"estimatedTimeRemainingMinutes", by simp [fields]⟩

/-- The numbers of a progress are rounded ones when its amounts are and its counts are counts. -/
theorem rounded (hamounts : ∀ x ∈ p.amounts, x.IsRounded) (hcounts : ∀ x ∈ p.counts, x.IsCount) : (encode p).Rounded := by
  simp only [amounts, List.forall_mem_cons] at hamounts
  simp only [counts, List.forall_mem_cons] at hcounts
  obtain ⟨h1, h2, h3, h4, h5, h8, -⟩ := hamounts
  obtain ⟨h6, h7, -⟩ := hcounts
  exact ⟨h1, h2, h3, h4, h5, h6.isAmount.isRounded, h7.isAmount.isRounded, h8, Json.rounded_strings _, Json.rounded_strings _,
    trivial, trivial⟩

theorem Sound.rounded (h : p.Sound) : (encode p).Rounded := Progress.rounded (fun x hx => (h.amounts x hx).isRounded) h.counts

/-- No number of a sound progress is lost when it is written. -/
theorem Sound.written (h : p.Sound) : (encode p).written = encode p := by
  have hamounts := fun x hx => Json.written_num (h.amounts x hx).isFinite
  have hcounts := fun x hx => Json.written_num (h.counts x hx).isFinite
  simp only [Progress.amounts, List.forall_mem_cons] at hamounts
  simp only [Progress.counts, List.forall_mem_cons] at hcounts
  obtain ⟨h1, h2, h3, h4, h5, h8, -⟩ := hamounts
  obtain ⟨h6, h7, -⟩ := hcounts
  rw [encode_eq]
  refine Json.written_obj isFieldName nodup_names ?_
  simp only [fields, List.forall_mem_cons]
  exact ⟨h1, h2, h3, h4, h5, h6, h7, h8, Json.written_strings _, Json.written_strings _, rfl, nofun⟩

/-- Progress is read as it was written. -/
theorem Sound.check (h : p.Sound) : Progress.check (some (encode p)) = ok p :=
  (check_eq_ok_iff h.rounded).mpr ⟨has_self nodup_names, fun x hx => (h.amounts x hx).ne_nan, h.counts⟩

/-- The numbers of a progress that is read are rounded, its amounts are numbers, its counts are counts. -/
theorem numbers_of_check {j : Option Json} (h : ∀ v ∈ j, v.Rounded) (hok : Progress.check j = ok p) :
    (∀ x ∈ p.amounts, x.IsRounded ∧ x ≠ .nan) ∧ ∀ x ∈ p.counts, x.IsCount := by
  obtain ⟨record, rfl, -⟩ := Check.object_eq_ok_iff.mp hok
  obtain ⟨hhas, hamounts, hcounts⟩ := (check_eq_ok_iff (h _ rfl)).mp hok
  have hrounded : ∀ (name : String) (x : Number), (name, .num x) ∈ p.fields → x.IsRounded := fun name x hmem =>
    Json.rounded_of_get? (h _ rfl) name _ (hhas _ hmem)
  refine ⟨fun x hx => ⟨?_, hamounts x hx⟩, hcounts⟩
  obtain ⟨name, hmem⟩ := exists_field_of_amount hx
  exact hrounded name x hmem

/-- A number that is read as it was before it was written is finite. -/
theorem isFinite_of_mem {fields : Record Json} (hdistinct : fields.keys.Nodup) (h : Json.RoundedFields fields)
    (hok : Progress.check (some (Json.obj fields).written) = ok p) {name : String} {x : Number} (hwritten : (name, .num x) ∈ fields)
    (hread : (name, .num x) ∈ p.fields) : x.isFinite := by
  rw [Json.written] at hok
  obtain ⟨hhas, -⟩ := (check_eq_ok_iff (Json.roundedFields_ofPairs (Json.rounded_writtenFields fields h))).mp hok
  have hget := hhas _ hread
  rw [Json.get?_written hdistinct, Record.get?_of_mem hdistinct hwritten] at hget
  exact Json.isFinite_of_written_num (Option.some.inj hget)

/-- Progress that is read as it was has only finite numbers. -/
theorem isFinite_of_check_written (h : (encode p).Rounded) (hok : Progress.check (some (encode p).written) = ok p) :
    ∀ x ∈ p.amounts, x.isFinite := by
  intro x hx
  obtain ⟨name, hmem⟩ := exists_field_of_amount hx
  exact isFinite_of_mem (p.keys_fields ▸ nodup_names) h hok hmem hmem

end Progress

/-! ## States -/

namespace RefactorState

/-- What the check of a state finds in the fields of an object when it reads the state from them. -/
structure ReadFrom (fields : Record Json) (s : RefactorState) : Prop where
  iteration : Check.count (fields.get? "iteration") = ok s.iteration
  startTime : fields.get? "startTime" = some (.str s.startTime)
  contextGenerated : fields.get? "contextGenerated" = some (.bool s.contextGenerated)
  contextPath : fields.get? "contextPath" = some (.str s.contextPath)
  currentFile : Check.nullable Check.text (fields.get? "currentFile") = ok s.currentFile
  filesCompleted : fields.get? "filesCompleted" = some (.strings s.filesCompleted)
  distinct : s.filesCompleted.Nodup
  qualityMetrics : Metrics.check (fields.get? "qualityMetrics") = ok s.qualityMetrics
  progress : Progress.check (fields.get? "progress") = ok s.progress
  satdBaseline : Check.orElse Check.count 0 (fields.get? "satdBaseline") = ok s.satdBaseline
  lastTarget : Check.orElse (Check.nullable Check.text) none (fields.get? "lastTarget") = ok s.lastTarget
  lastMetrics : Check.orElse (Check.nullable Metrics.check) none (fields.get? "lastMetrics") = ok s.lastMetrics

/-- A state is read from a record of its fields. -/
theorem check_eq_ok_iff {s : RefactorState} {j : Json} : check (some j) = ok s ↔ ∃ fields, j = .obj fields ∧ s.ReadFrom fields := by
  unfold check
  rw [Check.object_eq_ok_iff]
  simp only [Checked.seq_eq_ok_iff, Checked.map_eq_ok_iff, Check.field_eq_ok_iff, Check.must_eq_ok_iff, Check.text_eq_ok_iff,
    Check.bool_eq_ok_iff, Check.texts_eq_ok_iff, decide_eq_true_eq, Option.some_inj]
  refine exists_congr fun fields => and_congr_right fun _ => ?_
  constructor
  · rintro ⟨_, x11, ⟨_, x10, ⟨_, x9, ⟨_, x8, ⟨_, x7, ⟨_, x6, ⟨_, x5, ⟨_, x4, ⟨_, x3, ⟨_, x2, ⟨x1, h1, rfl⟩, h2, rfl⟩, h3, rfl⟩, h4, rfl⟩,
      h5, rfl⟩, h6, rfl⟩, h7, rfl⟩, h8, rfl⟩, h9, rfl⟩, h10, rfl⟩, h11, rfl⟩
    exact ⟨h1, h2, h3, h4, h5, h6.1, h6.2, h7, h8, h9, h10, h11⟩
  · rintro ⟨h1, h2, h3, h4, h5, h6, h6', h7, h8, h9, h10, h11⟩
    exact ⟨_, _, ⟨_, _, ⟨_, _, ⟨_, _, ⟨_, _, ⟨_, _, ⟨_, _, ⟨_, _, ⟨_, _, ⟨_, _, ⟨_, h1, rfl⟩, h2, rfl⟩, h3, rfl⟩, h4, rfl⟩, h5, rfl⟩,
      ⟨h6, h6'⟩, rfl⟩, h7, rfl⟩, h8, rfl⟩, h9, rfl⟩, h10, rfl⟩, h11, rfl⟩

/-- The fields that a state is written with. -/
def fields (s : RefactorState) : Record Json :=
  [("iteration", encode s.iteration), ("startTime", encode s.startTime), ("contextGenerated", encode s.contextGenerated),
    ("contextPath", encode s.contextPath), ("currentFile", encode s.currentFile), ("filesCompleted", encode s.filesCompleted),
    ("qualityMetrics", encode s.qualityMetrics), ("progress", encode s.progress), ("satdBaseline", encode s.satdBaseline),
    ("lastTarget", encode s.lastTarget), ("lastMetrics", encode s.lastMetrics)]

theorem encode_eq (s : RefactorState) : encode s = .obj s.fields := rfl

def names : List String :=
  ["iteration", "startTime", "contextGenerated", "contextPath", "currentFile", "filesCompleted", "qualityMetrics", "progress",
    "satdBaseline", "lastTarget", "lastMetrics"]

theorem keys_fields (s : RefactorState) : s.fields.keys = names := rfl

theorem isFieldName : ∀ name ∈ names, KeyCase.IsFieldName name := by decide +kernel

theorem nodup_names : names.Nodup := by decide

/-- All names inside a written state are field names. -/
theorem wellNamed (s : RefactorState) : (encode s).WellNamed := by
  have htext : ∀ o : Option String, (encode o).WellNamed := Json.wellNamed_optional fun _ => trivial
  refine Json.wellNamed_obj s.keys_fields isFieldName nodup_names ?_
  simp only [List.forall_mem_cons]
  exact ⟨trivial, trivial, trivial, trivial, htext _, Json.wellNamed_strings _, Metrics.wellNamed _, Progress.wellNamed _, trivial,
    htext _, Json.wellNamed_optional Metrics.wellNamed _, nofun⟩

variable {s : RefactorState}

/-- What the next run needs of a state, the progress aside. -/
structure Sound (s : RefactorState) : Prop where
  iteration : s.iteration.IsCount
  distinct : s.filesCompleted.Nodup
  qualityMetrics : s.qualityMetrics.Sound
  satdBaseline : s.satdBaseline.IsCount
  lastMetrics : ∀ m, s.lastMetrics = some m → m.Sound

/-- The numbers of a sound state are rounded ones when those of its progress are. -/
theorem rounded (h : s.Sound) (hprogress : (encode s.progress).Rounded) : (encode s).Rounded := by
  have htext : ∀ o : Option String, (encode o).Rounded := fun o => Json.rounded_optional fun text _ => (trivial : (Json.str text).Rounded)
  exact ⟨h.iteration.isAmount.isRounded, trivial, trivial, trivial, htext _, Json.rounded_strings _, h.qualityMetrics.rounded,
    hprogress, h.satdBaseline.isAmount.isRounded, htext _, Json.rounded_optional fun m hm => (h.lastMetrics m hm).rounded, trivial⟩

/-- No number of a sound state is lost when it is written, if its progress is sound. -/
theorem written (h : s.Sound) (hprogress : s.progress.Sound) : (encode s).written = encode s := by
  have htext : ∀ o : Option String, (encode o).written = encode o := fun o => Json.written_optional fun _ _ => rfl
  rw [encode_eq]
  refine Json.written_obj isFieldName nodup_names ?_
  simp only [fields, List.forall_mem_cons]
  exact ⟨Json.written_num h.iteration.isFinite, rfl, rfl, rfl, htext _, Json.written_strings _, h.qualityMetrics.written,
    hprogress.written, Json.written_num h.satdBaseline.isFinite, htext _, Json.written_optional fun m hm => (h.lastMetrics m hm).written,
    nofun⟩

/-- A state is read as it was written. -/
theorem Sound.check (h : s.Sound) (hprogress : s.progress.Sound) : RefactorState.check (some (encode s)) = ok s := by
  have htext : ∀ o : Option String, Check.nullable Check.text (some (encode o)) = ok o := fun o =>
    Check.nullable_encode fun text _ => ⟨rfl, nofun⟩
  refine check_eq_ok_iff.mpr ⟨s.fields, rfl, ?_⟩
  exact {
    iteration := h.iteration.check
    startTime := rfl
    contextGenerated := rfl
    contextPath := rfl
    currentFile := htext _
    filesCompleted := rfl
    distinct := h.distinct
    qualityMetrics := h.qualityMetrics.check
    progress := hprogress.check
    satdBaseline := h.satdBaseline.check
    lastTarget := htext _
    lastMetrics := Check.nullable_encode fun m hm => ⟨(h.lastMetrics m hm).check, nofun⟩ }

/-- A state that is read is sound. -/
theorem sound_of_check {j : Json} (hj : j.Rounded) (hok : RefactorState.check (some j) = ok s) : s.Sound := by
  obtain ⟨fields, rfl, hread⟩ := check_eq_ok_iff.mp hok
  have hget := Json.rounded_of_get? hj
  refine ⟨((Check.count_eq_ok_iff (hget _)).mp hread.iteration).2, hread.distinct, Metrics.sound_of_check (hget _) hread.qualityMetrics,
    ?_, fun m hm => ?_⟩
  · rcases Check.orElse_eq_ok_iff.mp hread.satdBaseline with ⟨-, heq⟩ | ⟨-, hcount⟩
    · exact heq ▸ Number.isCount_zero
    · exact ((Check.count_eq_ok_iff (hget _)).mp hcount).2
  · rcases Check.orElse_eq_ok_iff.mp hread.lastMetrics with ⟨-, heq⟩ | ⟨-, hlast⟩
    · rw [heq] at hm
      cases hm
    · rcases Check.nullable_eq_ok_iff.mp hlast with ⟨-, heq⟩ | ⟨-, found, hfound, heq⟩
      · rw [heq] at hm
        cases hm
      · obtain rfl := Option.some.inj (heq.symm.trans hm)
        exact Metrics.sound_of_check (hget _) hfound

/-- The numbers of the progress of a state that is read are rounded, amounts are numbers, counts are counts. -/
theorem progress_of_check {j : Json} (hj : j.Rounded) (hok : RefactorState.check (some j) = ok s) :
    (∀ x ∈ s.progress.amounts, x.IsRounded ∧ x ≠ .nan) ∧ ∀ x ∈ s.progress.counts, x.IsCount := by
  obtain ⟨fields, rfl, hread⟩ := check_eq_ok_iff.mp hok
  exact Progress.numbers_of_check (Json.rounded_of_get? hj _) hread.progress

/-- The progress of a state is read from what is written of the field of that name. -/
theorem progress_of_written {record : Record Json} (hdistinct : record.keys.Nodup) {j : Json} (hfield : ("progress", j) ∈ record)
    (hok : RefactorState.check (some (Json.obj record).written) = ok s) : Progress.check (some j.written) = ok s.progress := by
  rw [Json.written] at hok
  obtain ⟨fields, heq, hread⟩ := check_eq_ok_iff.mp hok
  obtain rfl := Json.obj.inj heq
  have hprogress := hread.progress
  rwa [Json.get?_written hdistinct, Record.get?_of_mem hdistinct hfield] at hprogress

/-- The progress of a state that is read as it was before it was written has only finite numbers. -/
theorem isFinite_of_check_written (h : (encode s.progress).Rounded) (hok : RefactorState.check (some (encode s).written) = ok s) :
    ∀ x ∈ s.progress.amounts, x.isFinite := by
  have hfield : ("progress", encode s.progress) ∈ s.fields := by simp [fields]
  exact Progress.isFinite_of_check_written h (progress_of_written (s.keys_fields ▸ nodup_names) hfield hok)

end RefactorState

/-! ## The text of a state -/

namespace StateStore

/-- A text is read as a state when it is an object that passes the check under the spelling of the program. -/
theorem read_eq_state_iff {text : String} {s : RefactorState} : read text = .state s ↔
    ∃ j, Json.ofText? text = some j ∧ RefactorState.check (some (KeyCase.camelFields j)) = ok s := by
  unfold read
  cases hj : Json.ofText? text with
  | none => simp
  | some j =>
    dsimp only
    cases hc : (RefactorState.check (some (KeyCase.camelFields j))).accepted? with
    | none =>
      refine iff_of_false nofun ?_
      rintro ⟨_, heq, hok⟩
      obtain rfl := Option.some.inj heq
      rw [Checked.accepted?_eq_some_iff.mpr hok] at hc
      cases hc
    | some found =>
      have hfound := Checked.accepted?_eq_some_iff.mp hc
      simp [hfound]

/-- The text of a value is read as the check reads what is written of the value. -/
theorem read_textOf_iff {j : Json} {s : RefactorState} (h : j.Rounded) (hnames : j.WellNamed) :
    read (textOf j) = .state s ↔ RefactorState.check (some j.written) = ok s := by
  have hpretty : Json.ofText? (textOf j) = some (KeyCase.snakeKeys [] j).written := Json.ofText?_pretty (KeyCase.rounded_snakeKeys h)
  rw [read_eq_state_iff, hpretty]
  simp only [Option.some_inj, exists_eq_left', KeyCase.camelFields_written j hnames]

/-- A sound state with sound progress is read as it was written. -/
theorem read_textOf {s : RefactorState} (h : s.Sound) (hprogress : s.progress.Sound) : read (textOf (encode s)) = .state s := by
  refine (read_textOf_iff (RefactorState.rounded h hprogress.rounded) s.wellNamed).mpr ?_
  rw [RefactorState.written h hprogress]
  exact h.check hprogress

/-- What is read of a text is sound, and its progress has no number that is none. -/
theorem sound_of_read {text : String} {s : RefactorState} (h : read text = .state s) :
    s.Sound ∧ (∀ x ∈ s.progress.amounts, x.IsRounded ∧ x ≠ .nan) ∧ ∀ x ∈ s.progress.counts, x.IsCount := by
  obtain ⟨j, hj, hok⟩ := read_eq_state_iff.mp h
  have hrounded := KeyCase.rounded_camelFields (Json.rounded_of_ofText? hj)
  exact ⟨RefactorState.sound_of_check hrounded hok, RefactorState.progress_of_check hrounded hok⟩

/-- A state that is read as it was written has only finite numbers in its progress. -/
theorem isFinite_of_read_textOf {s : RefactorState} (h : s.Sound) (hprogress : (encode s.progress).Rounded)
    (hread : read (textOf (encode s)) = .state s) : ∀ x ∈ s.progress.amounts, x.isFinite :=
  RefactorState.isFinite_of_check_written hprogress
    ((read_textOf_iff (RefactorState.rounded h hprogress) s.wellNamed).mp hread)

variable {η : Type} {w w' : World η}

/-- The state file is not the root of the disk. -/
theorem key_path_ne (cacheDir : String) : Disk.key (path cacheDir) ≠ "/" := by
  have hname : Path.IsName fileName := ⟨by decide, by decide, by decide⟩
  exact (Path.EndsIn.join ⟨by decide, .inl rfl⟩ hname cacheDir).key_ne_root hname

/-- A state that was saved is loaded as its text is read. -/
theorem load_save {cacheDir : String} {s s' : RefactorState} (h : (save cacheDir s).run w = (.ok (), w'))
    (hread : read (textOf (encode s)) = .state s') : (load cacheDir).run w' = (.ok (some s'), w') := by
  have hfile := Action.at?_writeText (key_path_ne cacheDir) h
  unfold load
  dsimp only
  rw [Action.run_bind, Action.readText?_of_file hfile]
  dsimp only
  rw [hread]
  rfl

end StateStore

end QualityGate
