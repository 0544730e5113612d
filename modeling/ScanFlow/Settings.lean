import ScanFlow.Workflow

/-!
Settings of the orchestrator, their defaults and their rules.

Settings come from named variables. A variable that is not set leaves the default. For
some variables a text that is no number is refused, for the others it also leaves the
default. Settings must then pass the rules of `Settings.validate`, which are checked in
a fixed order.
-/

namespace ScanFlow

/-- Where blobs are kept. -/
inductive StorageBackend where
  | s3
  | «local»
  deriving DecidableEq, Repr

namespace StorageBackend

def wire : StorageBackend → String
  | s3 => "s3"
  | «local» => "local"

def ofWire? : String → Option StorageBackend
  | "s3" => some s3
  | "local" => some «local»
  | _ => none

/-- Reads the name of a backend in any letter case. -/
def parse? (text : String) : Option StorageBackend := ofWire? (Text.lower text)

/-- What is said about a word that is no backend. -/
def refusal (word : String) : String := s!"Invalid storage backend: {word}"

def toJson (backend : StorageBackend) : Json := .string backend.wire

def ofJson? : Json → Option StorageBackend := Json.word? ofWire?

instance : Wire StorageBackend := ⟨toJson, ofJson?⟩

end StorageBackend

/-- Why settings are refused. -/
inductive SettingsError where
  | noValidNumber (name : String)
  | noNumber (name : String)
  | unknownBackend (word : String)
  | databaseUrl
  | timeoutRange
  | memoryRange
  | thresholds
  | noWorkers
  | noBucket
  | noRegion
  | noStoragePath
  | noBaseUrl
  deriving DecidableEq, Repr

namespace SettingsError

def message : SettingsError → String
  | noValidNumber name => s!"{name} must be a valid number"
  | noNumber name => s!"{name} must be a number"
  | unknownBackend word => StorageBackend.refusal word
  | databaseUrl => "DATABASE_URL must be a valid PostgreSQL connection string"
  | timeoutRange =>
    "ENGINE_TIMEOUT_MINUTES must be between " ++
      s!"{EngineLimits.leastTimeout} and {EngineLimits.greatestTimeout}"
  | memoryRange =>
    "ENGINE_MAX_MEMORY_GB must be between " ++
      s!"{EngineLimits.leastMemory} and {EngineLimits.greatestMemory}"
  | thresholds =>
    "MERGE_THRESHOLD_LOW and MERGE_THRESHOLD_HIGH must satisfy 0 <= low <= high <= 1"
  | noWorkers => "CONSUMER_MAX_WORKERS must be at least 1"
  | noBucket => "S3_BUCKET must be set when using S3 storage backend"
  | noRegion => "S3_REGION must be set when using S3 storage backend"
  | noStoragePath => "LOCAL_STORAGE_PATH must be set when using local storage backend"
  | noBaseUrl => "LOCAL_STORAGE_BASE_URL must be set when using local storage backend"

end SettingsError

/-- The settings of the orchestrator. -/
structure Settings where
  serverPort : Nat := 4000
  dbMaxConnections : Nat := 20
  dbTimeoutSeconds : Nat := 30
  environment : String := "development"
  databaseUrl : Option String := none
  storageBackend : StorageBackend := .local
  localStoragePath : String := "./data/blobs"
  localStorageBaseUrl : String := "http://localhost:4000/blobs"
  s3Bucket : Option String := none
  s3Region : Option String := none
  s3Endpoint : Option String := none
  blobUrlExpirySecs : Nat := 3600
  engineTimeoutMinutes : Nat := EngineLimits.standard.timeoutMinutes
  engineMaxMemoryGb : Nat := EngineLimits.standard.maxMemoryGb
  mergeThresholdLow : Binary64 := Thresholds.defaultLow
  mergeThresholdHigh : Binary64 := Thresholds.defaultHigh
  consumerMaxWorkers : Nat := 4
  consumerPollIntervalMs : Nat := 500
  queueVisibilityTimeoutSecs : Nat := 300
  deriving DecidableEq, Repr

/-- The variables of a process, by name. -/
abbrev Variables := String → Option String

/-- Whether a word names the production environment, in any letter case. -/
def isProductionName (word : String) : Bool :=
  Text.lower word = "production" || Text.lower word = "prod"

namespace Settings

def isProduction (settings : Settings) : Bool := isProductionName settings.environment

/-- Whether the thresholds break their rule. -/
def thresholdsBroken (low high : Binary64) : Bool :=
  !low.isFinite || !high.isFinite || low.lt .zero || Binary64.one.lt high || high.lt low

/-- The rules of the blob storage. -/
def validateStorage (settings : Settings) : Except SettingsError Unit :=
  match settings.storageBackend with
  | .s3 =>
    if settings.s3Bucket.isNone then .error .noBucket
    else if settings.s3Region.isNone then .error .noRegion
    else .ok ()
  | .local =>
    if Text.isAllBlank settings.localStoragePath then .error .noStoragePath
    else if Text.isAllBlank settings.localStorageBaseUrl then .error .noBaseUrl
    else .ok ()

/-- Whether a text names a PostgreSQL database. -/
def isPostgresUrl (url : String) : Bool :=
  url.startsWith "postgres://" || url.startsWith "postgresql://"

/-- Whether a number does not lie between two ends. -/
def outside (least greatest n : Nat) : Bool := n < least || greatest < n

/-- All rules, in the order in which they are checked. -/
def validate (settings : Settings) : Except SettingsError Unit :=
  if settings.databaseUrl.any fun url => !isPostgresUrl url then .error .databaseUrl
  else if outside EngineLimits.leastTimeout EngineLimits.greatestTimeout
      settings.engineTimeoutMinutes then .error .timeoutRange
  else if outside EngineLimits.leastMemory EngineLimits.greatestMemory
      settings.engineMaxMemoryGb then .error .memoryRange
  else if thresholdsBroken settings.mergeThresholdLow settings.mergeThresholdHigh then
    .error .thresholds
  else if settings.consumerMaxWorkers = 0 then .error .noWorkers
  else settings.validateStorage

/-! ### From variables -/

/-- A number that is refused where it cannot be read. -/
def strictNumber (vars : Variables) (name : String) (limit fallback : Nat) :
    Except SettingsError Nat :=
  match vars name with
  | none => .ok fallback
  | some text =>
    match Digits.parse? limit text with
    | some n => .ok n
    | none => .error (.noValidNumber name)

/-- A number that falls back where it cannot be read. -/
def looseNumber (vars : Variables) (name : String) (limit fallback : Nat) : Nat :=
  ((vars name).bind (Digits.parse? limit)).getD fallback

/-- A threshold; a text that is no number is refused. -/
def thresholdOf (vars : Variables) (name : String) (fallback : Binary64) :
    Except SettingsError Binary64 :=
  match vars name with
  | none => .ok fallback
  | some text =>
    match Binary64.parse? text with
    | some x => .ok x
    | none => .error (.noNumber name)

/-- A text, where an empty one counts as not set. -/
def nonEmpty (vars : Variables) (name : String) : Option String :=
  (vars name).filter fun text => !text.isEmpty

/-- The backend; a blank name counts as not set. -/
def backendOf (vars : Variables) : Except SettingsError StorageBackend :=
  match (vars "STORAGE_BACKEND").filter fun text => !Text.isAllBlank text with
  | none => .ok .local
  | some text =>
    match StorageBackend.parse? text with
    | some backend => .ok backend
    | none => .error (.unknownBackend text)

/-- The name of the environment: `ENVIRONMENT`, or else `APP_ENV`. -/
def environmentOf (vars : Variables) : String :=
  ((vars "ENVIRONMENT").or (vars "APP_ENV")).getD ({} : Settings).environment

/-- The settings that variables give, before their rules are checked. -/
def read (vars : Variables) : Except SettingsError Settings := do
  let d : Settings := {}
  let serverPort ← strictNumber vars "PORT" Digits.maxWord16 d.serverPort
  let storageBackend ← backendOf vars
  let engineTimeoutMinutes ←
    strictNumber vars "ENGINE_TIMEOUT_MINUTES" Digits.maxWord32 d.engineTimeoutMinutes
  let engineMaxMemoryGb ←
    strictNumber vars "ENGINE_MAX_MEMORY_GB" Digits.maxWord32 d.engineMaxMemoryGb
  let mergeThresholdLow ← thresholdOf vars "MERGE_THRESHOLD_LOW" d.mergeThresholdLow
  let mergeThresholdHigh ← thresholdOf vars "MERGE_THRESHOLD_HIGH" d.mergeThresholdHigh
  return {
    serverPort
    dbMaxConnections :=
      looseNumber vars "DB_MAX_CONNECTIONS" Digits.maxWord32 d.dbMaxConnections
    dbTimeoutSeconds :=
      looseNumber vars "DB_TIMEOUT_SECONDS" Digits.maxWord64 d.dbTimeoutSeconds
    environment := environmentOf vars
    databaseUrl := nonEmpty vars "DATABASE_URL"
    storageBackend
    localStoragePath := (vars "LOCAL_STORAGE_PATH").getD d.localStoragePath
    localStorageBaseUrl := (vars "LOCAL_STORAGE_BASE_URL").getD d.localStorageBaseUrl
    s3Bucket := nonEmpty vars "S3_BUCKET"
    s3Region := nonEmpty vars "S3_REGION"
    s3Endpoint := nonEmpty vars "S3_ENDPOINT"
    blobUrlExpirySecs :=
      looseNumber vars "BLOB_URL_EXPIRY_SECS" Digits.maxWord64 d.blobUrlExpirySecs
    engineTimeoutMinutes
    engineMaxMemoryGb
    mergeThresholdLow
    mergeThresholdHigh
    consumerMaxWorkers :=
      looseNumber vars "CONSUMER_MAX_WORKERS" Digits.maxWord64 d.consumerMaxWorkers
    consumerPollIntervalMs :=
      looseNumber vars "CONSUMER_POLL_INTERVAL_MS" Digits.maxWord64 d.consumerPollIntervalMs
    queueVisibilityTimeoutSecs :=
      looseNumber vars "QUEUE_VISIBILITY_TIMEOUT_SECS" Digits.maxWord64
        d.queueVisibilityTimeoutSecs }

/-- The settings that variables give, if they pass all rules. -/
def ofVariables (vars : Variables) : Except SettingsError Settings := do
  let settings ← read vars
  settings.validate
  return settings

end Settings

end ScanFlow
