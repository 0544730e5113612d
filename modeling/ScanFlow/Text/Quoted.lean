import ScanFlow.Text.Unshown
import ScanFlow.Uuid

/-!
Texts in quotes, as messages show them.

A quote and a backslash stand after a backslash, four control characters have a letter,
and every other character without a shape of its own is written as its code point.
-/

namespace ScanFlow.Text

/-- Hexadecimal digits without leading zeros. -/
def hexText (n : Nat) : List Char :=
  match (Uuid.hexDigits n 6).dropWhile (· = '0') with
  | [] => ['0']
  | digits => digits

/-- One character inside quotes. -/
def quotedChar (c : Char) : List Char :=
  match c with
  | '"' => ['\\', '"']
  | '\\' => ['\\', '\\']
  | '\x00' => ['\\', '0']
  | '\t' => ['\\', 't']
  | '\n' => ['\\', 'n']
  | '\r' => ['\\', 'r']
  | c =>
    if isUnshown c then ['\\', 'u', '\x7b'] ++ hexText c.toNat ++ ['\x7d'] else [c]

/-- A text in quotes. -/
def quoted (text : String) : String :=
  String.ofList ('"' :: text.toList.flatMap quotedChar ++ ['"'])

end ScanFlow.Text
