import ScanFlow.Json.Record
import ScanFlow.Settings

/-!
Settings as a table in JSON.

Written out, the table shows every setting, and whether the environment is production.
Read, it replaces those settings that it names. A threshold may be a number that JSON
cannot write; it is then given by its name, and left to the rules of the settings.
-/

namespace ScanFlow

/-- A number, or the name of one that JSON cannot write. -/
def Json.anyReal? : Json → Option Binary64
  | .string "NaN" => some .nan
  | .string "inf" => some (.infinity false)
  | .string "-inf" => some (.infinity true)
  | j => j.real?

namespace Settings

def toJson (s : Settings) : Json :=
  .object
    [("server_port", .ofNat s.serverPort), ("environment", .string s.environment),
      ("is_production", .bool s.isProduction),
      ("db_max_connections", .ofNat s.dbMaxConnections),
      ("db_timeout_seconds", .ofNat s.dbTimeoutSeconds),
      ("database_url", .ofOption .string s.databaseUrl),
      ("storage_backend", s.storageBackend.toJson),
      ("local_storage_path", .string s.localStoragePath),
      ("local_storage_base_url", .string s.localStorageBaseUrl),
      ("s3_bucket", .ofOption .string s.s3Bucket),
      ("s3_region", .ofOption .string s.s3Region),
      ("s3_endpoint", .ofOption .string s.s3Endpoint),
      ("blob_url_expiry_secs", .ofNat s.blobUrlExpirySecs),
      ("engine_timeout_minutes", .ofNat s.engineTimeoutMinutes),
      ("engine_max_memory_gb", .ofNat s.engineMaxMemoryGb),
      ("merge_threshold_low", .ofReal s.mergeThresholdLow),
      ("merge_threshold_high", .ofReal s.mergeThresholdHigh),
      ("consumer_max_workers", .ofNat s.consumerMaxWorkers),
      ("consumer_poll_interval_ms", .ofNat s.consumerPollIntervalMs),
      ("queue_visibility_timeout_secs", .ofNat s.queueVisibilityTimeoutSecs)]

/-- The table with settings to take where it names none. -/
def tableReader (d : Settings) : Json.FieldReader Settings := do
  let word32 := Json.nat? Digits.maxWord32
  let word64 := Json.nat? Digits.maxWord64
  let words := Json.option? Json.string?
  let serverPort ← Json.defaulted "server_port" (Json.nat? Digits.maxWord16) d.serverPort
  let environment ← Json.defaulted "environment" Json.string? d.environment
  let dbMaxConnections ← Json.defaulted "db_max_connections" word32 d.dbMaxConnections
  let dbTimeoutSeconds ← Json.defaulted "db_timeout_seconds" word64 d.dbTimeoutSeconds
  let databaseUrl ← Json.defaulted "database_url" words d.databaseUrl
  let storageBackend ←
    Json.defaulted "storage_backend" StorageBackend.ofJson? d.storageBackend
  let localStoragePath ←
    Json.defaulted "local_storage_path" Json.string? d.localStoragePath
  let localStorageBaseUrl ←
    Json.defaulted "local_storage_base_url" Json.string? d.localStorageBaseUrl
  let s3Bucket ← Json.defaulted "s3_bucket" words d.s3Bucket
  let s3Region ← Json.defaulted "s3_region" words d.s3Region
  let s3Endpoint ← Json.defaulted "s3_endpoint" words d.s3Endpoint
  let blobUrlExpirySecs ← Json.defaulted "blob_url_expiry_secs" word64 d.blobUrlExpirySecs
  let engineTimeoutMinutes ←
    Json.defaulted "engine_timeout_minutes" word32 d.engineTimeoutMinutes
  let engineMaxMemoryGb ← Json.defaulted "engine_max_memory_gb" word32 d.engineMaxMemoryGb
  let mergeThresholdLow ←
    Json.defaulted "merge_threshold_low" Json.anyReal? d.mergeThresholdLow
  let mergeThresholdHigh ←
    Json.defaulted "merge_threshold_high" Json.anyReal? d.mergeThresholdHigh
  let consumerMaxWorkers ← Json.defaulted "consumer_max_workers" word64 d.consumerMaxWorkers
  let consumerPollIntervalMs ←
    Json.defaulted "consumer_poll_interval_ms" word64 d.consumerPollIntervalMs
  let queueVisibilityTimeoutSecs ←
    Json.defaulted "queue_visibility_timeout_secs" word64 d.queueVisibilityTimeoutSecs
  return { serverPort, environment, dbMaxConnections, dbTimeoutSeconds, databaseUrl,
           storageBackend, localStoragePath, localStorageBaseUrl, s3Bucket, s3Region,
           s3Endpoint, blobUrlExpirySecs, engineTimeoutMinutes, engineMaxMemoryGb,
           mergeThresholdLow, mergeThresholdHigh, consumerMaxWorkers, consumerPollIntervalMs,
           queueVisibilityTimeoutSecs }

/-- The settings that a table gives, the others at their defaults. -/
def ofJson? : Json → Option Settings := Json.openRecord? (tableReader {})

instance : Wire Settings := ⟨toJson, ofJson?⟩

end Settings

end ScanFlow
