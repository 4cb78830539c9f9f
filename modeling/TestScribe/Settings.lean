import TestScribe.Failure.Problem
import TestScribe.Text.Blank
import TestScribe.Wire.Scalar

/-!
# Settings

The settings of a service: what it is called, where its peers are, how long it waits, when it gives
up, and how it writes its log. They are read from the variables of an environment; blank variables
count as not set.
-/

namespace TestScribe

open Wire

/-- The settings of a service. -/
structure Settings where
  serviceName : String
  analysisUrl : String
  generationUrl : String
  validationUrl : String
  requestTimeout : Float
  retryAttempts : Int
  retryBaseDelay : Float
  failureThreshold : Int
  cooldown : Float
  rateLimitWindow : Float
  rateLimitMax : Int
  modelUrl : String
  modelName : String
  temperature : Float
  maxTokens : Int
  modelTimeout : Float
  heartbeatInterval : Float
  logLevel : String
  logFile : Option String

namespace Settings

/-- A setting that may be left out. -/
def setting {α : Type} (name : String) (default : α) (reader : Reader α) (ms : Members) :
    Checked α :=
  fieldOr (.single name) default reader ms

/-- Read settings. -/
def read : Reader Settings :=
  record "Settings" fun ms => mk
    <$> setting "service_name" "rtlgen" text ms
    <*> setting "code_analysis_url" "http://localhost:3001" text ms
    <*> setting "llm_service_url" "http://localhost:3002" text ms
    <*> setting "test_validation_url" "http://localhost:3003" text ms
    <*> setting "request_timeout" 120.0 positive ms
    <*> setting "retry_attempts" 2 (integerFrom 0) ms
    <*> setting "retry_base_delay" 0.1 nonNegative ms
    <*> setting "failure_threshold" 3 (integerFrom 1) ms
    <*> setting "cooldown" 30.0 nonNegative ms
    <*> setting "rate_limit_window" 60.0 positive ms
    <*> setting "rate_limit_max" 100 (integerFrom 1) ms
    <*> setting "ollama_base_url" "http://localhost:11434" text ms
    <*> setting "model_name" "deep-seek-rtl-gen:latest" text ms
    <*> setting "temperature" 0.7 number ms
    <*> setting "max_tokens" 2048 (integerAbove 0) ms
    <*> setting "ollama_timeout" 60.0 positive ms
    <*> setting "heartbeat_interval" 15.0 positive ms
    <*> setting "log_level" "INFO" text ms
    <*> field? (.single "log_file") text ms

/-- The settings as JSON. -/
def toJson (s : Settings) : Json :=
  .obj [("service_name", .str s.serviceName), ("code_analysis_url", .str s.analysisUrl),
    ("llm_service_url", .str s.generationUrl), ("test_validation_url", .str s.validationUrl),
    ("request_timeout", .float s.requestTimeout), ("retry_attempts", .int s.retryAttempts),
    ("retry_base_delay", .float s.retryBaseDelay), ("failure_threshold", .int s.failureThreshold),
    ("cooldown", .float s.cooldown), ("rate_limit_window", .float s.rateLimitWindow),
    ("rate_limit_max", .int s.rateLimitMax), ("ollama_base_url", .str s.modelUrl),
    ("model_name", .str s.modelName), ("temperature", .float s.temperature),
    ("max_tokens", .int s.maxTokens), ("ollama_timeout", .float s.modelTimeout),
    ("heartbeat_interval", .float s.heartbeatInterval), ("log_level", .str s.logLevel),
    ("log_file", .ofString? s.logFile)]

/-! ## Environments -/

/-- The variable that holds the name of a service. -/
def nameVariable : String := "RTLGEN_SERVICE_NAME"

/-- The variables of an environment and the settings they hold. -/
def variableTable : List (String × String) := [
  (nameVariable, "service_name"),
  ("CODE_ANALYSIS_URL", "code_analysis_url"),
  ("LLM_SERVICE_URL", "llm_service_url"),
  ("TEST_VALIDATION_URL", "test_validation_url"),
  ("REQUEST_TIMEOUT", "request_timeout"),
  ("RETRY_ATTEMPTS", "retry_attempts"),
  ("RETRY_BASE_DELAY", "retry_base_delay"),
  ("CIRCUIT_BREAKER_FAILURE_THRESHOLD", "failure_threshold"),
  ("CIRCUIT_BREAKER_COOLDOWN", "cooldown"),
  ("RATE_LIMIT_WINDOW", "rate_limit_window"),
  ("RATE_LIMIT_MAX", "rate_limit_max"),
  ("OLLAMA_BASE_URL", "ollama_base_url"),
  ("MODEL_NAME", "model_name"),
  ("TEMPERATURE", "temperature"),
  ("MAX_TOKENS", "max_tokens"),
  ("OLLAMA_TIMEOUT", "ollama_timeout"),
  ("HEARTBEAT_INTERVAL", "heartbeat_interval"),
  ("LOG_LEVEL", "log_level"),
  ("LOG_FILE", "log_file")]

/-- The values of an environment by name. -/
abbrev Environment := List (String × String)

/-- The value of a variable. -/
def Environment.get? (env : Environment) (name : String) : Option String :=
  (env.find? fun v => v.1 == name).map (·.2)

/-- The settings that the variables of an environment hold, unless they are blank. -/
def given (env : Environment) : Members :=
  variableTable.filterMap fun (name, setting) =>
    match (env.get? name).map Text.trimmed with
    | some value => if value == "" then none else some (setting, .str value)
    | none => none

/-- What is said about an environment that holds wrong values. -/
def misconfiguredMessage : String := "Invalid rtlgen configuration."

/-- The failure for an environment that holds wrong values. -/
def misconfigured (issues : List Issue) : Failure :=
  .detailed .misconfigured misconfiguredMessage (issuesJson issues)

/-- The settings that the variables of an environment hold. -/
def ofVariables (env : Environment) : Checked Settings :=
  read (.obj (given env))

/-- The settings of an environment. -/
def ofEnvironment (env : Environment) : Except Failure Settings :=
  (ofVariables env).toExcept.mapError misconfigured

end Settings

end TestScribe
