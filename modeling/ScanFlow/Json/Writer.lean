import ScanFlow.Json.Basic
import ScanFlow.Number.Decimal

/-!
JSON text of a value, without blanks.

Quotes, backslashes and control characters are escaped in texts; all other characters
are written as they are.
-/

namespace ScanFlow.Json

/-- One character inside a quoted text. -/
def escapeChar (c : Char) : List Char :=
  match c with
  | '"' => ['\\', '"']
  | '\\' => ['\\', '\\']
  | '\n' => ['\\', 'n']
  | '\r' => ['\\', 'r']
  | '\t' => ['\\', 't']
  | c =>
    if c.toNat < 32 then '\\' :: 'u' :: '0' :: '0' :: Uuid.hexDigits c.toNat 2 else [c]

def quote (text : String) : String :=
  String.ofList ('"' :: text.toList.flatMap escapeChar ++ ['"'])

def Number.toText : Number → String
  | .whole i => toString i
  | .real x => x.jsonText

mutual

/-- The text of a value. -/
def toText : Json → String
  | .null => "null"
  | .bool b => if b then "true" else "false"
  | .number n => n.toText
  | .string s => quote s
  | .array items => "[" ++ itemsText items ++ "]"
  | .object members => "\x7b" ++ membersText members ++ "\x7d"

def itemsText : List Json → String
  | [] => ""
  | [item] => item.toText
  | item :: rest => item.toText ++ "," ++ itemsText rest

def membersText : List (String × Json) → String
  | [] => ""
  | [(name, value)] => quote name ++ ":" ++ value.toText
  | (name, value) :: rest => quote name ++ ":" ++ value.toText ++ "," ++ membersText rest

end

end ScanFlow.Json
