import ScanFlow.Json.Record

/-!
Stored files and the code they belong to.

A code is one uploaded source archive. Once a compiler has answered, the code also names
the file of its compiled artifact.
-/

namespace ScanFlow

/-- A blob that is registered as a file. -/
structure StoredFile where
  id : Uuid
  name : String
  size : Nat
  md5 : String
  objectKey : String
  folder : String
  createdAt : Timestamp
  deriving DecidableEq, Repr

/-- An uploaded source archive and, once there is one, its compiled artifact. -/
structure Code where
  id : Uuid
  sourceName : String
  sourceFileId : Uuid
  compiledFileId : Option Uuid
  createdAt : Timestamp
  deriving DecidableEq, Repr

namespace StoredFile

/-- The folder of uploaded sources. -/
def sourceFolder : String := "source"

/-- The folder of compiled artifacts. -/
def compiledFolder : String := "compiled"

def toJson (file : StoredFile) : Json :=
  .object
    [("id", .ofUuid file.id), ("name", .string file.name), ("size", .ofNat file.size),
      ("md5", .string file.md5), ("object_key", .string file.objectKey),
      ("folder", .string file.folder), ("created_at", .ofTimestamp file.createdAt)]

def ofJson? : Json → Option StoredFile := Json.record? do
  let id ← Json.required "id" Json.uuid?
  let name ← Json.required "name" Json.string?
  let size ← Json.required "size" (Json.nat? Digits.maxWord64)
  let md5 ← Json.required "md5" Json.string?
  let objectKey ← Json.required "object_key" Json.string?
  let folder ← Json.required "folder" Json.string?
  let createdAt ← Json.required "created_at" Json.timestamp?
  return { id, name, size, md5, objectKey, folder, createdAt }

instance : Wire StoredFile := ⟨toJson, ofJson?⟩

end StoredFile

namespace Code

def isCompiled (code : Code) : Bool := code.compiledFileId.isSome

def toJson (code : Code) : Json :=
  .object
    [("id", .ofUuid code.id), ("source_name", .string code.sourceName),
      ("source_file_id", .ofUuid code.sourceFileId),
      ("compiled_file_id", .ofOption .ofUuid code.compiledFileId),
      ("created_at", .ofTimestamp code.createdAt)]

def ofJson? : Json → Option Code := Json.record? do
  let id ← Json.required "id" Json.uuid?
  let sourceName ← Json.required "source_name" Json.string?
  let sourceFileId ← Json.required "source_file_id" Json.uuid?
  let compiledFileId ← Json.optional "compiled_file_id" Json.uuid?
  let createdAt ← Json.required "created_at" Json.timestamp?
  return { id, sourceName, sourceFileId, compiledFileId, createdAt }

instance : Wire Code := ⟨toJson, ofJson?⟩

end Code

end ScanFlow
