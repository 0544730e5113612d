import ScanFlow.Blob.Service
import ScanFlow.Blob.FileTree
import ScanFlow.Text.Quoted

/-!
Blobs kept as files below a directory.

A key is a path below the base directory. A key that could name anything else is refused:
by its text, and once more by the place it leads to, since links may lead anywhere. The base
directory is itself reached by a path, through links or not, and may have been taken away.
The URL of a blob ends with the second in which it expires; whatever serves the URL is
expected to honour it.
-/

namespace ScanFlow

/-- A tree of files, the location of the working directory in it, the parts of the path to the
directory with the blobs, and the URL under which that directory is served. -/
structure BlobDirectory where
  root : FileTree
  working : List String := []
  base : List String
  baseUrl : String

namespace BlobDirectory

/-- Whether the text of a key is refused, wherever it would lead. -/
def isRefused (key : String) : Bool :=
  key.isEmpty || Text.occurs ['.', '.'] key.toList || FileTree.isAbsolute key

/-- The location of a path. -/
def resolve (blobs : BlobDirectory) (path : List String) : Except PathFault (List String) :=
  blobs.root.resolve blobs.working path

def pathOf (blobs : BlobDirectory) (key : String) : List String :=
  blobs.base ++ Text.parts '/' key

/-- The path of a key that may be used. Only what is there can lead outside. -/
def locate (blobs : BlobDirectory) (key : String) : Except BlobError (List String) :=
  if isRefused key then
    .error (.invalidKey s!"Object key {Text.quoted key} contains invalid characters")
  else
    match blobs.resolve blobs.base with
    | .error fault => .error (.config s!"Failed to canonicalize base path: {fault.message}")
    | .ok base =>
      match blobs.resolve (blobs.pathOf key) with
      | .error _ => .ok (blobs.pathOf key)
      | .ok location =>
        if base.isPrefixOf location then .ok (blobs.pathOf key)
        else .error (.invalidKey "Object key resolves outside storage directory")

/-- Whether there is something at a path. A path that is too long is looked up in vain. -/
def isThere (blobs : BlobDirectory) (path : List String) : Bool :=
  (String.intercalate "/" path).utf8ByteSize ≤ FileTree.maxPathBytes &&
    (blobs.resolve path).isOk

def exists? (blobs : BlobDirectory) (key : String) : Except BlobError Bool :=
  (blobs.locate key).map blobs.isThere

/-- The moment that lies some seconds after another, in signed 64-bit arithmetic. -/
def expiry (now : Timestamp) (lifetime : Nat) : Int :=
  (now.seconds + (lifetime : Int).bmod (2 ^ 64)).bmod (2 ^ 64)

/-- The URL of a key, whether or not there is a blob. -/
def urlOf (blobs : BlobDirectory) (now : Timestamp) (key : String) (lifetime : Nat) : String :=
  let base := (blobs.baseUrl.toList.reverse.dropWhile (· = '/')).reverse
  s!"{String.ofList base}/{key}?expires={expiry now lifetime}"

/-- A temporary URL of a blob that is there. -/
def url (blobs : BlobDirectory) (now : Timestamp) (key : String) (lifetime : Nat) :
    Except BlobError String := do
  let path ← blobs.locate key
  if blobs.isThere path then return blobs.urlOf now key lifetime
  else throw (.notFound key)

/-- The directory as a blob service. -/
def service (blobs : BlobDirectory) : BlobService :=
  { backend := .local, holds := blobs.exists?, url := blobs.url }

end BlobDirectory

end ScanFlow
