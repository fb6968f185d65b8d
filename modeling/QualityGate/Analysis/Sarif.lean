import QualityGate.Json

/-!
# SARIF logs

Findings as a static analysis log: the rules that are broken, and a result for each place where one is.
-/

namespace QualityGate

/-- How grave a result is. -/
inductive SarifLevel where
  | error
  | warning
  | note
  | none
  deriving DecidableEq, Repr, Inhabited

namespace SarifLevel

def name : SarifLevel → String
  | error => "error"
  | warning => "warning"
  | note => "note"
  | none => "none"

instance : Encode SarifLevel := ⟨fun l => .str l.name⟩
instance : Decode SarifLevel := ⟨fun j => j.str?.bind fun s => [error, warning, note, none].find? fun l => l.name = s⟩

end SarifLevel

structure SarifRule where
  id : String
  text : String
  level : SarifLevel
  tags : List String
  description : String := ""
  deriving DecidableEq, Inhabited

def messageJson (text : String) : Json := .obj [("text", .str text)]

instance : Encode SarifRule where
  encode r :=
    .present [("id", some (.str r.id)), ("shortDescription", some (messageJson r.text)),
      ("fullDescription", if r.description = "" then Option.none else some (messageJson r.description)),
      ("defaultConfiguration", some (.obj [("level", encode r.level)])),
      ("properties", some (.obj [("tags", .strings r.tags)]))]

/-- A place in a file; lines and columns count from 1. -/
structure SarifLocation where
  uri : String
  startLine : Number
  endLine : Option Number := none
  startColumn : Option Number := none
  deriving DecidableEq, Inhabited

instance : Encode SarifLocation where
  encode l :=
    let atLeastOne (x : Number) : Json := .num (Number.max 1 x)
    .obj [("physicalLocation", .obj [("artifactLocation", .obj [("uri", .str l.uri)]),
      ("region", .present [("startLine", some (atLeastOne l.startLine)), ("endLine", l.endLine.map atLeastOne),
        ("startColumn", l.startColumn.map atLeastOne)])])]

structure SarifResult where
  ruleId : String
  level : SarifLevel
  message : String
  locations : List SarifLocation
  properties : Option Json := none
  deriving Inhabited

instance : Encode SarifResult where
  encode r :=
    .present [("ruleId", some (.str r.ruleId)), ("level", some (encode r.level)), ("message", some (messageJson r.message)),
      ("locations", some (encode r.locations)), ("properties", r.properties)]

namespace Sarif

def toolName : String := "refactor-gate"

def toolVersion : String := "0.1.0"

def schema : String := "https://json.schemastore.org/sarif-2.1.0.json"

/-- The log of one run; rules that no result breaks are left out. -/
def log (rules : List SarifRule) (results : List SarifResult) (properties : Option Json := none) : Json :=
  let used := rules.filter fun r => results.any fun result => result.ruleId = r.id
  .obj [("$schema", .str schema), ("version", .str "2.1.0"),
    ("runs", .arr [.present [
      ("tool", some (.obj [("driver", .obj [("name", .str toolName), ("version", .str toolVersion), ("rules", encode used)])])),
      ("results", some (encode results)), ("properties", properties)]])]

end Sarif

end QualityGate
