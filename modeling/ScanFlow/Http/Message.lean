import ScanFlow.Json.Basic
import ScanFlow.Text.Cut

/-!
Requests and responses, and the texts in their heads.

A content type is JSON if it is well formed and its type is `application` with the
subtype `json`, or with another subtype and the suffix `json`. Letter case does not
matter, and parameters are only checked for their form.
-/

namespace ScanFlow.Http

/-- A request. A path may end with a query. -/
structure Request where
  method : String
  path : String
  contentType : Option String
  body : String
  deriving Repr

/-- The body of a response. -/
inductive Content where
  | empty
  | text (text : String)
  | json (value : Json)
  deriving Repr

/-- A response. -/
structure Response where
  status : Nat
  content : Content
  deriving Repr

/-! ### Content types -/

/-- The characters of names in a content type. -/
def isTokenChar (c : Char) : Bool :=
  c.isAlphanum || "!#$%&'+-.^_\x60|~".toList.contains c

/-- The characters between quotes in a content type, but for the quote. -/
def isQuotableChar (c : Char) : Bool := 32 ≤ c.toNat && c.toNat < 127

mutual

/-- Whether the parameters after a semicolon are well formed. There may be none. -/
def areParameters : Nat → List Char → Bool
  | 0, _ => false
  | fuel + 1, cs =>
    match cs.dropWhile (· = ' ') with
    | [] => true
    | cs =>
      match cs.dropWhile isTokenChar with
      | '=' :: '"' :: rest => !(cs.takeWhile isTokenChar).isEmpty && isQuotedEnd fuel rest
      | '=' :: rest =>
        !(cs.takeWhile isTokenChar).isEmpty &&
          match rest.dropWhile isTokenChar with
          | [] => true
          | ';' :: more => !(rest.takeWhile isTokenChar).isEmpty && areParameters fuel more
          | _ => false
      | _ => false

/-- Whether what stands after an opening quote ends it, and is well formed then. Between
the quotes there is at least one character. -/
def isQuotedEnd : Nat → List Char → Bool
  | 0, _ => false
  | fuel + 1, cs =>
    match cs with
    | [] => false
    | first :: rest =>
      isQuotableChar first &&
        match rest.dropWhile fun c => isQuotableChar c && c != '"' with
        | '"' :: more =>
          match more.dropWhile (· = ' ') with
          | [] => true
          | ';' :: more => areParameters fuel more
          | _ => false
        | _ => false

end

/-- Whether a content type stands for JSON. -/
def isJsonType (contentType : String) : Bool :=
  let cs := contentType.toList.map fun c => c.toLower
  let rest := cs.dropWhile isTokenChar
  let subtype := (rest.drop 1).takeWhile isTokenChar
  let json := "json".toList
  let isJson :=
    match Text.cutLast? '+' subtype with
    | some ([], _) | none => subtype = json
    | some (name, ending) => name = json || ending = json
  cs.takeWhile isTokenChar = "application".toList && rest.head? = some '/' && isJson &&
    match (rest.drop 1).dropWhile isTokenChar with
    | [] => true
    | ';' :: parameters => areParameters (parameters.length + 1) parameters
    | _ => false

/-! ### Paths -/

/-- A path without its query. -/
def withoutQuery (path : String) : String :=
  String.ofList (path.toList.takeWhile fun c => c != '?' && c != '#')

/-- Decodes the characters of a path segment that are written as bytes; a byte that is not
ASCII has no character here. -/
def decodeSegment? : List Char → Option (List Char)
  | '%' :: a :: b :: rest =>
    match Uuid.hexValue? a, Uuid.hexValue? b with
    | some high, some low =>
      if high < 8 then
        (decodeSegment? rest).map (Char.ofNat (high * 16 + low) :: ·)
      else none
    | _, _ => (decodeSegment? (a :: b :: rest)).map ('%' :: ·)
  | c :: rest => (decodeSegment? rest).map (c :: ·)
  | [] => some []
termination_by cs => cs.length

/-- The identifier that a path segment stands for. -/
def segmentId? (segment : String) : Option Uuid :=
  (decodeSegment? segment.toList).bind Uuid.ofChars?

end ScanFlow.Http
