import ScanFlow.Number.Digits

/-!
Binary floating-point numbers of 64 bits, kept as their three fields.

Every finite number is a whole multiple of `2 ^ -1074`. `Binary64.order` is that
multiple, with a sign, and comparisons are comparisons of these integers: exact,
total on numbers, and false as soon as one side is not a number. `Binary64.round`
is the one rounding rule, to the nearest number with ties to the even fraction.
-/

namespace ScanFlow

/-- A 64-bit binary floating-point number: sign, biased exponent and fraction. -/
structure Binary64 where
  negative : Bool
  exponent : Fin 2048
  fraction : Fin (2 ^ 52)
  deriving DecidableEq, Repr

namespace Binary64

/-- The number of bits below the leading bit of a normal significand. -/
def fractionBits : Nat := 52

/-- Finite numbers are multiples of two to the minus this power. -/
def scale : Nat := 1074

def zero : Binary64 := ⟨false, 0, 0⟩

def infinity (negative : Bool) : Binary64 := ⟨negative, 2047, 0⟩

def nan : Binary64 := ⟨false, 2047, ⟨2 ^ 51, by decide⟩⟩

def isFinite (x : Binary64) : Bool := x.exponent.val != 2047

def isNaN (x : Binary64) : Bool := x.exponent.val == 2047 && x.fraction.val != 0

def isZero (x : Binary64) : Bool := x.exponent.val == 0 && x.fraction.val == 0

/-- The distance from zero, in units of `2 ^ -1074`. The field pattern of an
infinity gives a number above every finite one. -/
def magnitude (x : Binary64) : Nat :=
  if x.exponent.val = 0 then x.fraction.val
  else (2 ^ fractionBits + x.fraction.val) * 2 ^ (x.exponent.val - 1)

/-- The signed multiple of `2 ^ -1074`; both zeros give `0`. -/
def order (x : Binary64) : Int :=
  if x.negative then -(x.magnitude : Int) else x.magnitude

/-- Numeric `≤`; false if either side is not a number. -/
def le (x y : Binary64) : Bool :=
  !x.isNaN && !y.isNaN && decide (x.order ≤ y.order)

/-- Numeric `<`; false if either side is not a number. -/
def lt (x y : Binary64) : Bool :=
  !x.isNaN && !y.isNaN && decide (x.order < y.order)

/-- The quotient rounded to the nearest whole number, ties to even. -/
def roundQuotient (num den : Nat) : Nat :=
  let quotient := num / den
  let twice := 2 * (num % den)
  if twice < den then quotient
  else if den < twice then quotient + 1
  else quotient + quotient % 2

/-- The number with significand `q`, a multiple of `2 ^ shift` units, where `q` is
at most `2 ^ 53`, and at least `2 ^ 52` unless `shift` is zero. -/
def pack (negative : Bool) (shift q : Nat) : Binary64 :=
  let exponent := if q < 2 ^ 52 then 0 else if q < 2 ^ 53 then shift + 1 else shift + 2
  if h : exponent < 2047 then
    ⟨negative, ⟨exponent, by omega⟩, ⟨q % 2 ^ 52, Nat.mod_lt _ (by decide)⟩⟩
  else infinity negative

/-- The number nearest to `num / den` units of `2 ^ -1074`. -/
def round (negative : Bool) (num den : Nat) : Binary64 :=
  let shift := Nat.log2 (num / den) - fractionBits
  pack negative shift (roundQuotient num (den * 2 ^ shift))

/-- The number nearest to `num / den`. -/
def ofRatio (negative : Bool) (num den : Nat) : Binary64 :=
  round negative (num * 2 ^ scale) den

/-- The number nearest to a natural number. -/
def ofNat (n : Nat) : Binary64 := ofRatio false n 1

/-- The number nearest to an integer. -/
def ofInt (i : Int) : Binary64 := ofRatio (decide (i < 0)) i.natAbs 1

/-- The rounded product of two finite numbers. -/
def times (x y : Binary64) : Binary64 :=
  round (x.negative != y.negative) (x.magnitude * y.magnitude) (2 ^ scale)

/-- The rounded quotient of two finite numbers, the second not zero. -/
def quotient (x y : Binary64) : Binary64 :=
  round (x.negative != y.negative) (x.magnitude * 2 ^ scale) y.magnitude

/-- The number one. -/
def one : Binary64 := ⟨false, 1023, 0⟩

end Binary64

end ScanFlow
