import QualityGate.Json.Plain
import QualityGate.Number.Logarithm
import QualityGate.Source.Outline
import QualityGate.Source.Satd
import QualityGate.Text.Collation

/-!
# Technical debt scores

The debt of a file is weighed from its complexity, its churn and its admitted debt, relative to its size; bands say how pressing
it is.
-/

namespace QualityGate

/-- How pressing a debt is. -/
inductive DebtBand where
  | healthy
  | monitor
  | refactor
  | critical
  deriving DecidableEq, Repr, Inhabited

namespace DebtBand

def name : DebtBand → String
  | healthy => "healthy"
  | monitor => "monitor"
  | refactor => "refactor"
  | critical => "critical"

instance : Encode DebtBand := ⟨fun b => .str b.name⟩
instance : Decode DebtBand :=
  ⟨fun j => j.str?.bind fun s => [healthy, monitor, refactor, critical].find? fun b => b.name = s⟩

/-- The band of a score. -/
def of (value : Number) : DebtBand :=
  if Number.le 2 value then critical
  else if Number.le 1 value then refactor
  else if Number.le 0.5 value then monitor
  else healthy

end DebtBand

/-- What the debt of a file is weighed from. -/
structure DebtInput where
  path : String
  /-- The complexity of each function. -/
  cyclomatic : List Number
  sloc : Number
  churnScore : Number
  /-- The weight of each line that admits debt. -/
  satd : List Number
  deriving Inhabited

/-- The weight of the severity of a name; a name of none has no weight. -/
def DebtSeverity.weightOf (name : String) : Number :=
  match [high, medium, low].find? fun s => s.name = name with
  | some s => .ofNat s.weight
  | none => .nan

instance : Decode DebtInput where
  decode? j := do
    return { path := j.fieldD "path" "",
             cyclomatic := (j.fieldD "functions" ([] : List Json)).map (·.numberAt "cyclomatic"),
             sloc := j.numberAt "sloc", churnScore := j.numberAt "churnScore",
             satd := (j.fieldD "satdItems" ([] : List Json)).map fun i => DebtSeverity.weightOf (i.fieldD "severity" "") }

/-- The parts of a debt score. -/
structure DebtComponents where
  complexity : Number
  churn : Number
  satd : Number
  sizeNormalizer : Number
  deriving DecidableEq, Inhabited

instance : Encode DebtComponents where
  encode c :=
    .obj [("complexity", encode c.complexity), ("churn", encode c.churn), ("satd", encode c.satd),
      ("sizeNormalizer", encode c.sizeNormalizer)]

instance : Decode DebtComponents where
  decode? j := do
    return { complexity := j.fieldD "complexity" 0, churn := j.fieldD "churn" 0, satd := j.fieldD "satd" 0,
             sizeNormalizer := j.fieldD "sizeNormalizer" 0 }

/-- The debt of a file. -/
structure DebtScore where
  path : String
  value : Number
  band : DebtBand
  components : DebtComponents
  deriving DecidableEq, Inhabited

instance : Encode DebtScore where
  encode s :=
    .obj [("path", encode s.path), ("value", encode s.value), ("band", encode s.band), ("components", encode s.components)]

instance : Decode DebtScore where
  decode? j := do
    return { path := j.fieldD "path" "", value := j.fieldD "value" 0, band := j.fieldD "band" .healthy,
             components := j.fieldD "components" default }

/-- The debt of a project. -/
structure DebtSummary where
  totalFiles : Nat
  criticalFiles : Nat
  warningFiles : Nat
  averageTdg : Number
  p95Tdg : Number
  estimatedDebtHours : Number
  hotspots : List DebtScore
  deriving DecidableEq, Inhabited

instance : Encode DebtSummary where
  encode s :=
    .obj [("totalFiles", encode s.totalFiles), ("criticalFiles", encode s.criticalFiles),
      ("warningFiles", encode s.warningFiles), ("averageTdg", encode s.averageTdg), ("p95Tdg", encode s.p95Tdg),
      ("estimatedDebtHours", encode s.estimatedDebtHours), ("hotspots", encode s.hotspots)]

instance : Decode DebtSummary where
  decode? j := do
    return { totalFiles := j.fieldD "totalFiles" 0, criticalFiles := j.fieldD "criticalFiles" 0,
             warningFiles := j.fieldD "warningFiles" 0, averageTdg := j.fieldD "averageTdg" 0, p95Tdg := j.fieldD "p95Tdg" 0,
             estimatedDebtHours := j.fieldD "estimatedDebtHours" 0, hotspots := j.fieldD "hotspots" [] }

namespace DebtScore

/-- How much complexity, churn and admitted debt weigh. -/
def weights : DebtComponents := ⟨0.4, 0.35, 0.25, 1⟩

/-- The parts of a file's debt, none above five, and the divisor for its size. -/
def componentsOf (input : DebtInput) : DebtComponents where
  complexity := Number.min 5 (Number.sum input.cyclomatic / 20)
  churn := Number.min 5 (Number.max 0 input.churnScore * 5)
  satd := Number.min 5 (Number.sum input.satd / 2)
  sizeNormalizer := Number.max 1 (Number.log10 (Number.max 1 input.sloc) - 1)

/-- The weighted parts relative to the size, before rounding. -/
def exactValue (c : DebtComponents) : Number :=
  (weights.complexity * c.complexity + weights.churn * c.churn + weights.satd * c.satd) / c.sizeNormalizer

/-- The debt of a file, rounded to three places; the band is that of the value before rounding. -/
def of (input : DebtInput) : DebtScore :=
  let c := componentsOf input
  let value := exactValue c
  { path := input.path, value := value.roundScaled 3, band := .of value,
    components := { complexity := c.complexity.roundScaled 3, churn := c.churn.roundScaled 3, satd := c.satd.roundScaled 3,
                    sizeNormalizer := c.sizeNormalizer.roundScaled 3 } }

/-- The hours that the debt takes: half an hour for each point of complexity over the threshold and for each error, a quarter for
each warning. -/
def hours (cyclomatic : List Number) (severities : List Severity) (threshold : Number) : Number :=
  let complexityMinutes := cyclomatic.foldl (fun sum c => sum + 30 * Number.max 0 (c - threshold)) 0
  let violationMinutes := total (severities.map fun
    | .error => 30
    | .warning => 15
    | _ => 0)
  ((complexityMinutes + Number.ofNat violationMinutes) / 60).roundScaled 2

/-- Great debts first, then by name. -/
def order (a b : DebtScore) : Ordering := (Number.order b.value a.value).then (Collation.order a.path b.path)

/-- The first items of a list up to a limit; a negative limit counts from the end. -/
def upTo {α : Type} (limit : Int) (items : List α) : List α :=
  items.take (if limit < 0 then items.length + limit else limit).toNat

/-- The items with the greatest debts. -/
def greatest {α : Type} (score : α → DebtScore) (limit : Int) (items : List α) : List α :=
  upTo limit (sortBy (fun a b => order (score a) (score b)) items)

/-- The debt of a project, with its greatest debts listed. -/
def summarize (scores : List DebtScore) (hours : Number) (hotspotLimit : Int) : DebtSummary :=
  let values := sortBy Number.order (scores.map (·.value))
  { totalFiles := scores.length, criticalFiles := scores.countP fun s => s.band = .critical,
    warningFiles := scores.countP fun s => s.band = .refactor,
    averageTdg :=
      if values.isEmpty then 0 else (Number.sum values / Number.ofNat values.length).roundScaled 3,
    p95Tdg := (values[percentileIndex 0.95 values.length]?).getD 0, estimatedDebtHours := hours,
    hotspots := greatest id hotspotLimit scores }

/-- How many of the greatest debts are listed when nothing else is asked for. -/
def defaultHotspots : Int := 10

end DebtScore

end QualityGate
