import QualityGate.Failure
import QualityGate.Schema

/-!
# Settings

What the environment says about how to run. A setting that is given but cannot be used is a failure; the first one in the order of
the fields is reported.
-/

namespace QualityGate

def environmentNames : List String := ["development", "test", "production"]

def logLevelNames : List String := ["fatal", "error", "warn", "info", "debug", "trace", "silent"]

/-- How to run. -/
structure Settings where
  environment : String
  logLevel : String
  webPort : Number
  webHost : String
  cacheDir : Option String
  coverageTimeoutMs : Number
  lockStaleMs : Number
  concurrency : Number
  githubToken : Option String
  templatesPath : Option String
  agentCommand : Option String
  ci : Bool
  deriving Inhabited

namespace Settings

def known (names : List String) (text : String) : Option String := names.find? (· = text)

/-- A whole number above zero, written as text. -/
def positiveWhole : Check Number := Check.positive (Check.whole Check.numeral)

/-- A switch, on when it says so. -/
def switch : Check Bool := fun j => .ok (j == some (.str "1") || j == some (.str "true") || j == some (.bool true))

/-- The settings that an environment gives, on a machine with a number of processors. -/
def check (processors : Nat) : Check Settings := Check.object fun env =>
  Settings.mk
    <$> Check.field env "NODE_ENV" (Check.orElse (Check.oneOf environmentNames (known environmentNames)) "development")
    <*> Check.field env "LOG_LEVEL" (Check.orElse (Check.oneOf logLevelNames (known logLevelNames)) "info")
    <*> Check.field env "WEB_PORT" (Check.orElse positiveWhole 3000)
    <*> Check.field env "WEB_HOST" (Check.orElse (Check.nonempty Check.text) "127.0.0.1")
    <*> Check.field env "REFACTOR_CACHE_DIR" (Check.optional (Check.nonempty Check.text))
    <*> Check.field env "COVERAGE_TIMEOUT_MS" (Check.orElse positiveWhole 30000)
    <*> Check.field env "LOCK_STALE_MS" (Check.orElse positiveWhole 21600000)
    <*> Check.field env "ANALYSIS_CONCURRENCY" (Check.orElse positiveWhole (Number.ofNat (max 1 processors)))
    <*> Check.field env "GITHUB_TOKEN" (Check.optional (Check.nonempty Check.text))
    <*> Check.field env "REWRITE_TEMPLATES_PATH" (Check.optional (Check.nonempty Check.text))
    <*> Check.field env "REFACTOR_AGENT_COMMAND" (Check.optional (Check.nonempty Check.text))
    <*> Check.field env "REFACTOR_CI" switch

/-- The settings that an environment gives. -/
def ofEnvironment (processors : Nat) (env : Record Json) : Except Failure Settings :=
  let checked := check processors (some (.obj env))
  match checked.accepted?, checked.faults with
  | some s, _ => .ok s
  | none, f :: _ => .error (.configuration s!"Invalid {Text.ofPath f.path}: {f.message}")
  | none, [] => .error (.configuration "Invalid environment: unparsable value")

end Settings

instance : Encode Settings where
  encode s :=
    .present [("NODE_ENV", some (encode s.environment)), ("LOG_LEVEL", some (encode s.logLevel)),
      ("WEB_PORT", some (encode s.webPort)), ("WEB_HOST", some (encode s.webHost)),
      ("REFACTOR_CACHE_DIR", s.cacheDir.map encode), ("COVERAGE_TIMEOUT_MS", some (encode s.coverageTimeoutMs)),
      ("LOCK_STALE_MS", some (encode s.lockStaleMs)), ("ANALYSIS_CONCURRENCY", some (encode s.concurrency)),
      ("GITHUB_TOKEN", s.githubToken.map encode), ("REWRITE_TEMPLATES_PATH", s.templatesPath.map encode),
      ("REFACTOR_AGENT_COMMAND", s.agentCommand.map encode), ("REFACTOR_CI", some (encode s.ci))]

end QualityGate
