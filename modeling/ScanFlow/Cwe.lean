import ScanFlow.Number.Digits
import ScanFlow.Text.Blank

/-!
Identifiers of weaknesses and their spellings.

`CWE-78`, `cwe_078` and `78` name one weakness. `Cwe.normalize` maps every spelling to
the number without leading zeros, and any other text to itself, trimmed and in lower
case, so that two spellings agree exactly when their normal forms are equal.
-/

namespace ScanFlow.Cwe

/-- The characters that may stand between the letters and the number. -/
def isSeparator (c : Char) : Bool := c = '-' || c = '_' || c = ' '

/-- Drops the letters `cwe` at the front, if they are there. -/
def dropLetters : List Char → List Char
  | 'c' :: 'w' :: 'e' :: rest => rest
  | cs => cs

/-- A run of digits without leading zeros; zero keeps one digit. -/
def stripZeros (cs : List Char) : List Char :=
  match cs.dropWhile (· = '0') with
  | [] => ['0']
  | rest => rest

/-- The number part of a trimmed, lower-case identifier, if the identifier has one and
nothing follows it. -/
def digits? (cs : List Char) : Option (List Char) :=
  let rest := (dropLetters cs).dropWhile isSeparator
  if rest.isEmpty || !rest.all Digits.isDigit then none else some rest

/-- Trims a text and turns its ASCII letters into lower case. -/
def fold (raw : String) : List Char := (Text.trimChars raw.toList).map Text.lowerChar

/-- The normal form of an identifier. -/
def normalize (raw : String) : String :=
  match digits? (fold raw) with
  | some digits => String.ofList (stripZeros digits)
  | none => String.ofList (fold raw)

end ScanFlow.Cwe
