import ScanFlow.Number.Binary64
import ScanFlow.Number.Digits

/-!
Decimal text of binary floating-point numbers.

`Binary64.shortest` finds the fewest digits that read back as the number, and
among those the nearest; `positional` and `scientific` lay these digits out.
Reading comes in two precisions: `Binary64.parse?` rounds the written value once,
and `Binary64.ofParts` scales the leading digits by a power of ten that has been
rounded itself, which is how numbers inside JSON text are read.
-/

namespace ScanFlow.Binary64

/-- A decimal number `digits * 10 ^ exponent`. -/
structure Decimal where
  digits : Nat
  exponent : Int
  deriving DecidableEq, Repr

/-- Moves trailing zeros of the digits into the exponent. -/
def Decimal.trim (d : Decimal) : Decimal :=
  if h : d.digits ≠ 0 ∧ d.digits % 10 = 0 then
    Decimal.trim ⟨d.digits / 10, d.exponent + 1⟩
  else d
termination_by d.digits
decreasing_by omega

/-- The quotient `m / (2 ^ scale * 10 ^ k)` as a numerator and a denominator. -/
def gridQuotient (m : Nat) (k : Int) : Nat × Nat :=
  if 0 ≤ k then (m, 2 ^ scale * 10 ^ k.toNat) else (m * 10 ^ (-k).toNat, 2 ^ scale)

/-- The exponent of the leading decimal digit of `m / 2 ^ scale`, for `m > 0`. -/
def leadingExponent (m : Nat) : Int :=
  if 2 ^ scale ≤ m then ((Digits.chars (m / 2 ^ scale)).length : Int) - 1
  else
    let places := (Digits.chars (2 ^ scale / m)).length
    if 2 ^ scale ≤ m * 10 ^ (places - 1) then 1 - (places : Int) else -(places : Int)

/-- The reals that round to a number, as numerators over `4 * 2 ^ scale`: a lower
and an upper end, and whether the ends belong to it. -/
structure Interval where
  lower : Nat
  upper : Nat
  closed : Bool

/-- The interval of a positive finite number. The gap below a power of two is half
the gap above it; the ends round to the number when its fraction is even. -/
def interval (x : Binary64) : Interval :=
  let gap := 2 * 2 ^ (x.exponent.val - 1)
  let below := if x.fraction.val = 0 && 1 < x.exponent.val then gap / 2 else gap
  ⟨4 * x.magnitude - below, 4 * x.magnitude + gap, x.fraction.val % 2 == 0⟩

/-- Whether the decimal `digits * 10 ^ k` lies in the interval. -/
def Interval.contains (i : Interval) (digits : Nat) (k : Int) : Bool :=
  let unit := 4 * 2 ^ scale
  let (point, factor) :=
    if 0 ≤ k then (digits * 10 ^ k.toNat * unit, 1) else (digits * unit, 10 ^ (-k).toNat)
  if i.closed then i.lower * factor ≤ point && point ≤ i.upper * factor
  else i.lower * factor < point && point < i.upper * factor

/-- Which of two decimals is taken that are equally near to a number. -/
inductive Tie where
  | upper
  | even
  deriving DecidableEq, Repr

/-- Whether the upper one of two neighbours on a grid is to be taken, for a number that
lies `part / whole` of the gap above the lower one. -/
def Tie.prefersUpper (tie : Tie) (under part whole : Nat) : Bool :=
  if 2 * part = whole then
    match tie with
    | upper => true
    | even => under % 2 = 1
  else whole < 2 * part

/-- Tries the two neighbours of the number on the grid of `10 ^ k`, then on finer
grids, at most `fuel` of them. The last grid always answers. -/
def shortestFrom (tie : Tie) (m : Nat) (i : Interval) (k : Int) : Nat → Decimal
  | 0 => ⟨(gridQuotient m k).1 / (gridQuotient m k).2, k⟩
  | fuel + 1 =>
    let (num, den) := gridQuotient m k
    let under := num / den
    let nearUpper := tie.prefersUpper under (num % den) den
    match i.contains under k, i.contains (under + 1) k with
    | true, true => ⟨if nearUpper then under + 1 else under, k⟩
    | true, false => ⟨under, k⟩
    | false, true => ⟨under + 1, k⟩
    | false, false => shortestFrom tie m i (k - 1) fuel

/-- The fewest decimal digits that read back as `x`, and of those the nearest, for a
finite number other than zero; the sign is left out. Seventeen digits suffice. -/
def shortest (tie : Tie) (x : Binary64) : Decimal :=
  (shortestFrom tie x.magnitude x.interval (leadingExponent x.magnitude) 17).trim

/-- A decimal written out without an exponent and without a trailing point. -/
def Decimal.positional (d : Decimal) : String :=
  let digits := Digits.chars d.digits
  if 0 ≤ d.exponent then String.ofList (digits ++ List.replicate d.exponent.toNat '0')
  else
    let places := (-d.exponent).toNat
    if digits.length ≤ places then
      String.ofList ('0' :: '.' :: List.replicate (places - digits.length) '0' ++ digits)
    else
      String.ofList (digits.take (digits.length - places) ++ '.' ::
        digits.drop (digits.length - places))

/-- A decimal with one digit before the point and an exponent. -/
def Decimal.scientific (d : Decimal) : String :=
  let digits := Digits.chars d.digits
  let power := d.exponent + (digits.length : Int) - 1
  let tail := match digits.drop 1 with
    | [] => []
    | rest => '.' :: rest
  String.ofList (digits.take 1 ++ tail ++ ['e']) ++ toString power

/-- The text of a number in messages: shortest digits, a tie rounded up, never an exponent,
and no point after a whole number. -/
def positional (x : Binary64) : String :=
  let sign := if x.negative then "-" else ""
  if x.isNaN then "NaN"
  else if !x.isFinite then sign ++ "inf"
  else if x.isZero then sign ++ "0"
  else sign ++ (x.shortest .upper).positional

/-- The text of a finite number in JSON: shortest digits, a tie rounded to even, with a
point or an exponent so that it reads back as a real number. -/
def jsonText (x : Binary64) : String :=
  let sign := if x.negative then "-" else ""
  if x.isZero then sign ++ "0.0"
  else
    let d := x.shortest .even
    let power := d.exponent + ((Digits.chars d.digits).length : Int) - 1
    if power < -5 || 16 ≤ power then sign ++ d.scientific
    else if 0 ≤ d.exponent then sign ++ d.positional ++ ".0"
    else sign ++ d.positional

/-- The number nearest to `digits * 10 ^ exponent`. Beyond the range of the format
the answer is an infinity or a zero, found without the power itself. -/
def ofDecimal (negative : Bool) (digits : Nat) (exponent : Int) : Binary64 :=
  if digits = 0 then { zero with negative }
  else
    let power := exponent + ((Digits.chars digits).length : Int)
    if 400 < power then infinity negative
    else if power < -400 then { zero with negative }
    else if 0 ≤ exponent then ofRatio negative (digits * 10 ^ exponent.toNat) 1
    else ofRatio negative digits (10 ^ (-exponent).toNat)

/-- Reads an exponent: an optional sign and at least one digit, to the end. -/
def exponentOf? : List Char → Option Int
  | '+' :: cs => if cs.isEmpty || !cs.all Digits.isDigit then none else some (Digits.value cs)
  | '-' :: cs =>
    if cs.isEmpty || !cs.all Digits.isDigit then none else some (-(Digits.value cs : Int))
  | cs => if cs.isEmpty || !cs.all Digits.isDigit then none else some (Digits.value cs)

/-- Reads the part of a number after its sign. Digits may be missing on one side of
the point, not on both. -/
def unsignedOf? (negative : Bool) (cs : List Char) : Option Binary64 :=
  let whole := cs.takeWhile Digits.isDigit
  let rest := cs.dropWhile Digits.isDigit
  let (places, rest) := match rest with
    | '.' :: more => (more.takeWhile Digits.isDigit, more.dropWhile Digits.isDigit)
    | more => ([], more)
  if whole.isEmpty && places.isEmpty then none
  else
    let digits := Digits.value (whole ++ places)
    let shift : Int := -(places.length : Int)
    match rest with
    | [] => some (ofDecimal negative digits shift)
    | c :: more =>
      if c = 'e' || c = 'E' then
        (exponentOf? more).map fun e => ofDecimal negative digits (shift + e)
      else none

/-- Reads a signed number, an infinity or a not-a-number, in any letter case. -/
def parse? (text : String) : Option Binary64 :=
  let (negative, cs) := match text.toList with
    | '-' :: cs => (true, cs)
    | '+' :: cs => (false, cs)
    | cs => (false, cs)
  let word := String.ofList (cs.map Char.toLower)
  if word = "inf" || word = "infinity" then some (infinity negative)
  else if word = "nan" then some { nan with negative }
  else unsignedOf? negative cs

/-- The power of ten nearest to `10 ^ n`. -/
def powerOfTen (n : Nat) : Binary64 := ofNat (10 ^ n)

/-- Divides by `10 ^ 308` until the exponent is in reach of one division. -/
def scaleDown (x : Binary64) (n : Nat) : Binary64 :=
  if x.isZero then x
  else if n ≤ 308 then x.quotient (powerOfTen n)
  else scaleDown (x.quotient (powerOfTen 308)) (n - 308)
termination_by n
decreasing_by omega

/-- The leading digits of a number, rounded, then multiplied or divided once by a
rounded power of ten. Answers none above the finite range. -/
def ofParts (negative : Bool) (significand : Nat) (exponent : Int) : Option Binary64 :=
  let x := { ofNat significand with negative }
  if 0 ≤ exponent then
    if exponent ≤ 308 then
      let y := x.times (powerOfTen exponent.toNat)
      if y.isFinite then some y else none
    else if x.isZero then some x else none
  else some (x.scaleDown (-exponent).toNat)

end ScanFlow.Binary64
