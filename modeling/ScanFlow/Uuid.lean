import ScanFlow.Number.Digits
import ScanFlow.SortedMap

/-!
Identifiers of records: universally unique identifiers and their text.

An identifier read from a text is a number below `2 ^ 128`. Identifiers that the
system makes itself are numbered: `Uuid.generated` spreads the number over the free
bits of a version 4 identifier, so that two numbers never share an identifier.
-/

namespace ScanFlow

/-- An identifier. -/
structure Uuid where
  value : Nat
  deriving DecidableEq, Repr, Hashable

namespace Uuid

/-- Identifiers are compared as numbers. -/
instance : LT Uuid := ⟨fun a b => a.value < b.value⟩

instance : DecidableLT Uuid := fun a b => Nat.decLt a.value b.value

instance : LinearKey Uuid where
  lt_irrefl a := Nat.lt_irrefl a.value
  lt_trans h₁ h₂ := Nat.lt_trans h₁ h₂
  eq_of_not_lt {a b} h₁ h₂ := by
    have h : a.value = b.value := Nat.le_antisymm (Nat.le_of_not_lt h₂) (Nat.le_of_not_lt h₁)
    cases a
    cases b
    exact congrArg mk h

/-- The identifier with all bits zero. -/
def nil : Uuid := ⟨0⟩

/-- The identifier of the `n`-th record made by the system. The low 62 bits of `n`
follow the variant field, the next 12 the version field, and all others the front. -/
def generated (n : Nat) : Uuid :=
  ⟨n / 2 ^ 74 * 2 ^ 80 + 4 * 2 ^ 76 + n / 2 ^ 62 % 2 ^ 12 * 2 ^ 64 + 2 * 2 ^ 62 + n % 2 ^ 62⟩

/-- The lower-case character of a hexadecimal digit. -/
def hexChar (n : Nat) : Char :=
  if n % 16 < 10 then Char.ofNat (48 + n % 16) else Char.ofNat (87 + n % 16)

/-- The value of a hexadecimal digit in either case. -/
def hexValue? (c : Char) : Option Nat :=
  if '0' ≤ c && c ≤ '9' then some (c.toNat - 48)
  else if 'a' ≤ c && c ≤ 'f' then some (c.toNat - 87)
  else if 'A' ≤ c && c ≤ 'F' then some (c.toNat - 55)
  else none

/-- The last `count` hexadecimal digits of a number. -/
def hexDigits (n : Nat) : Nat → List Char
  | 0 => []
  | count + 1 => hexDigits (n / 16) count ++ [hexChar n]

/-- The five groups of digits, in lower case, joined by hyphens. -/
def toString (id : Uuid) : String :=
  let n := id.value
  String.ofList
    (hexDigits (n / 2 ^ 96) 8 ++ '-' :: hexDigits (n / 2 ^ 80) 4 ++ '-' ::
      hexDigits (n / 2 ^ 64) 4 ++ '-' :: hexDigits (n / 2 ^ 48) 4 ++ '-' :: hexDigits n 12)

instance : ToString Uuid := ⟨toString⟩

/-- Reads hexadecimal digits and nothing else. -/
def ofHex? (cs : List Char) : Option Nat :=
  cs.foldlM (fun n c => (hexValue? c).map (n * 16 + ·)) 0

/-- Reads the hyphenated form, 36 characters. -/
def ofHyphenated? (cs : List Char) : Option Uuid :=
  if cs.length = 36 && cs[8]? = some '-' && cs[13]? = some '-' && cs[18]? = some '-' &&
      cs[23]? = some '-' then
    (ofHex? (cs.take 8 ++ (cs.drop 9).take 4 ++ (cs.drop 14).take 4 ++ (cs.drop 19).take 4 ++
      cs.drop 24)).map Uuid.mk
  else none

/-- The characters before the hyphenated form of an identifier written as a name. -/
def urnMark : List Char := ['u', 'r', 'n', ':', 'u', 'u', 'i', 'd', ':']

/-- Reads an identifier: 32 digits, the hyphenated form, that form in braces, or that
form after `urn:uuid:`. -/
def ofChars? (cs : List Char) : Option Uuid :=
  if cs.length = 32 then (ofHex? cs).map Uuid.mk
  else if cs.length = 36 then ofHyphenated? cs
  else if cs.length = 38 then
    if cs.head? = some '\x7b' && cs.getLast? = some '\x7d' then
      ofHyphenated? ((cs.drop 1).take 36)
    else none
  else if cs.take 9 = urnMark then ofHyphenated? (cs.drop 9)
  else none

def parse? (text : String) : Option Uuid := ofChars? text.toList

end Uuid

/-- Records by their identifiers. -/
abbrev Table (α : Type) := SortedMap Uuid α

end ScanFlow
