import ScanFlow.Blob.Error
import ScanFlow.Settings

/-!
What the orchestrator asks of a blob storage: whether a key holds a blob, and a temporary
URL from which an engine can fetch it. Blobs below a directory answer in this way; a storage
behind a network does so too, but it is no part of the library.
-/

namespace ScanFlow

/-- A blob storage. The lifetime of a URL is in seconds. -/
structure BlobService where
  backend : StorageBackend
  holds : String → Except BlobError Bool
  url : (now : Timestamp) → (key : String) → (lifetime : Nat) → Except BlobError String

end ScanFlow
