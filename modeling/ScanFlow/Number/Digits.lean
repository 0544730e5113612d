/-!
Whole numbers written in decimal digits.

`Digits.render` writes a number without leading zeros, `Digits.value` reads a
run of digits back, and `Digits.parse?` reads a bounded number with an optional
plus sign. Nothing else may stand around the digits.

Powers of natural numbers are those of the core library throughout, also where powers in
a monoid are in scope.
-/

attribute [instance (2000), default_instance 20000] instPowNat

namespace ScanFlow.Digits

/-- The character of a decimal digit; larger arguments count modulo ten. -/
def char (n : Nat) : Char := Char.ofNat (48 + n % 10)

/-- The decimal digits of `n`, most significant first, before `tail`. -/
def charsBefore (n : Nat) (tail : List Char) : List Char :=
  if n < 10 then char n :: tail else charsBefore (n / 10) (char n :: tail)
termination_by n
decreasing_by omega

/-- The decimal digits of `n` without leading zeros; zero is one digit. -/
def chars (n : Nat) : List Char := charsBefore n []

/-- The decimal text of `n`. -/
def render (n : Nat) : String := String.ofList (chars n)

/-- Whether `c` is one of the ten ASCII digits. -/
def isDigit (c : Char) : Bool := '0' ≤ c && c ≤ '9'

/-- The number denoted by a run of digits, continuing from `start`. -/
def valueFrom (start : Nat) (cs : List Char) : Nat :=
  cs.foldl (fun n c => n * 10 + (c.toNat - 48)) start

/-- The number denoted by a run of digits. -/
def value (cs : List Char) : Nat := valueFrom 0 cs

/-- Reads at least one digit and nothing else, up to `limit` inclusive. -/
def ofChars? (limit : Nat) (cs : List Char) : Option Nat :=
  if cs.isEmpty || !cs.all isDigit then none
  else if value cs ≤ limit then some (value cs) else none

/-- Reads a number up to `limit`, with an optional plus sign before its digits. -/
def parse? (limit : Nat) (text : String) : Option Nat :=
  match text.toList with
  | '+' :: cs => ofChars? limit cs
  | cs => ofChars? limit cs

/-- The largest numbers of the fixed widths that settings and messages use. -/
def maxWord8 : Nat := 2 ^ 8 - 1

/-- The largest 16-bit number. -/
def maxWord16 : Nat := 2 ^ 16 - 1

/-- The largest 32-bit number. -/
def maxWord32 : Nat := 2 ^ 32 - 1

/-- The largest 64-bit number. -/
def maxWord64 : Nat := 2 ^ 64 - 1

end ScanFlow.Digits
