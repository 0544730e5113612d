import ScanFlow.Json.Basic
import ScanFlow.Number.Decimal

/-!
JSON text, read as far as it is well formed.

A draft is what stands in a text up to its first fault: values that are complete, arrays
and objects that may have been left open, and `broken` where a value should have been.
A text is JSON if its draft is sound and only blanks follow it. Drafts keep what a value
forgets: the order of members, repeated names, texts and numbers that no value can hold.
-/

namespace ScanFlow.Json

/-- A JSON text up to its first fault. A number is missing if it is out of range, a
text if it has half of a surrogate pair. -/
inductive Draft where
  | null
  | bool (value : Bool)
  | number (value : Option Number)
  | string (text : Option String)
  | array (items : List Draft) (closed : Bool)
  | object (members : List (Option String × Draft)) (closed : Bool)
  | broken
  deriving Repr

namespace Draft

/-- The four characters that may stand between the parts of a JSON text. -/
def isGap (c : Char) : Bool := c = ' ' || c = '\n' || c = '\t' || c = '\r'

def skipGaps (cs : List Char) : List Char := cs.dropWhile isGap

/-! ### Numbers -/

/-- The digits of a number as they are taken up: those that fit 64 bits, and the power
of ten still to come. -/
structure Significand where
  value : Nat
  exponent : Int

/-- Takes up digits before the point. After one that does not fit, the others only
count. -/
def wholeDigits (s : Significand) (full : Bool) : List Char → Significand × Bool
  | [] => (s, full)
  | c :: cs =>
    let next := s.value * 10 + (c.toNat - 48)
    if full || Digits.maxWord64 < next then
      wholeDigits ⟨s.value, s.exponent + 1⟩ true cs
    else wholeDigits ⟨next, s.exponent⟩ false cs

/-- Takes up digits after the point, up to the first that does not fit. -/
def placeDigits (s : Significand) : List Char → Significand
  | [] => s
  | c :: cs =>
    let next := s.value * 10 + (c.toNat - 48)
    if Digits.maxWord64 < next then s else placeDigits ⟨next, s.exponent - 1⟩ cs

/-- A number without point and exponent. Minus zero, and what 64 bits cannot hold, is
a real number. -/
def wholeNumber (negative : Bool) (s : Significand) (full : Bool) : Option Number :=
  if full then (Binary64.ofParts negative s.value s.exponent).map .real
  else if !negative then some (.whole s.value)
  else if s.value = 0 then some (.real { Binary64.zero with negative := true })
  else if s.value ≤ 2 ^ 63 then some (.whole (-(s.value : Int)))
  else some (.real { Binary64.ofNat s.value with negative := true })

/-- A number with a point or an exponent. An exponent beyond 32 bits leaves a zero or
has no value. -/
def realNumber (negative : Bool) (s : Significand) (e : Int) : Option Number :=
  if e.natAbs < 2 ^ 31 then (Binary64.ofParts negative s.value (s.exponent + e)).map .real
  else if e < 0 || s.value = 0 then some (.real { Binary64.zero with negative })
  else none

/-- Reads an exponent after its mark: an optional sign and at least one digit. -/
def readExponent (cs : List Char) : Option (Int × List Char) :=
  let (negative, rest) := match cs with
    | '-' :: rest => (true, rest)
    | '+' :: rest => (false, rest)
    | rest => (false, rest)
  let digits := rest.takeWhile Digits.isDigit
  if digits.isEmpty then none
  else
    let size : Int := Digits.value digits
    some (if negative then -size else size, rest.dropWhile Digits.isDigit)

/-- Reads a number after its sign. A zero in front must stand alone, and digits must
stand on both sides of a point. -/
def readUnsigned (negative : Bool) (cs : List Char) : Draft × List Char :=
  let digits := cs.takeWhile Digits.isDigit
  let rest := cs.dropWhile Digits.isDigit
  if digits.isEmpty || (digits.head? = some '0' && 1 < digits.length) then (.broken, [])
  else
    let (s, full) := wholeDigits ⟨0, 0⟩ false digits
    let (s, pointed, rest) := match rest with
      | '.' :: more =>
        let places := more.takeWhile Digits.isDigit
        (placeDigits s places, some !places.isEmpty, more.dropWhile Digits.isDigit)
      | more => (s, none, more)
    if pointed = some false then (.broken, [])
    else
      match rest with
      | c :: more =>
        if c = 'e' || c = 'E' then
          match readExponent more with
          | some (e, more) => (.number (realNumber negative s e), more)
          | none => (.broken, [])
        else if pointed.isSome then (.number (realNumber negative s 0), rest)
        else (.number (wholeNumber negative s full), rest)
      | [] =>
        if pointed.isSome then (.number (realNumber negative s 0), rest)
        else (.number (wholeNumber negative s full), rest)

/-! ### Texts -/

/-- Reads four hexadecimal digits. -/
def readUnit (cs : List Char) : Option (Nat × List Char) :=
  if (cs.take 4).length = 4 then (Uuid.ofHex? (cs.take 4)).map fun n => (n, cs.drop 4) else none

/-- The character of a one-letter escape. -/
def shortEscape? (c : Char) : Option Char :=
  match c with
  | '"' => some '"'
  | '\\' => some '\\'
  | '/' => some '/'
  | 'b' => some '\x08'
  | 'f' => some '\x0c'
  | 'n' => some '\n'
  | 'r' => some '\r'
  | 't' => some '\t'
  | _ => none

/-- Reads the rest of a text after its opening quote. The characters so far stand in
reverse; they are none once half of a surrogate pair has been read. Each round takes at
least one character, so a bound on the rounds need not be more than their number. -/
def readString : Nat → Option (List Char) → List Char → Draft × List Char
  | 0, _, _ => (.broken, [])
  | _ + 1, _, [] => (.broken, [])
  | fuel + 1, read, c :: cs =>
    if c = '"' then (.string (read.map fun r => String.ofList r.reverse), cs)
    else if c.toNat < 32 then (.broken, [])
    else if c != '\\' then readString fuel (read.map (c :: ·)) cs
    else
      match cs with
      | 'u' :: cs =>
        match readUnit cs with
        | none => (.broken, [])
        | some (unit, cs) =>
          if 0xd800 ≤ unit && unit < 0xdc00 then
            match cs with
            | '\\' :: 'u' :: more =>
              match readUnit more with
              | none => (.broken, [])
              | some (low, more) =>
                if 0xdc00 ≤ low && low < 0xe000 then
                  let code := 0x10000 + (unit - 0xd800) * 0x400 + (low - 0xdc00)
                  readString fuel (read.map (Char.ofNat code :: ·)) more
                else readString fuel none more
            | _ => readString fuel none cs
          else if 0xdc00 ≤ unit && unit < 0xe000 then readString fuel none cs
          else readString fuel (read.map (Char.ofNat unit :: ·)) cs
      | e :: cs =>
        match shortEscape? e with
        | some d => readString fuel (read.map (d :: ·)) cs
        | none => (.broken, [])
      | [] => (.broken, [])

/-- Reads a fixed word whose first letter has been seen. -/
def readWord (word : List Char) (value : Draft) (cs : List Char) : Draft × List Char :=
  if cs.take word.length = word then (value, cs.drop word.length) else (.broken, [])

/-! ### Values -/

/-- Whether a value can be read on from here: nothing inside it is broken. -/
def isClosed : Draft → Bool
  | .array _ closed => closed
  | .object _ closed => closed
  | .broken => false
  | _ => true

mutual

/-- Reads a value. -/
def readValue : Nat → List Char → Draft × List Char
  | 0, _ => (.broken, [])
  | fuel + 1, cs =>
    match skipGaps cs with
    | 'n' :: rest => readWord ['u', 'l', 'l'] .null rest
    | 't' :: rest => readWord ['r', 'u', 'e'] (.bool true) rest
    | 'f' :: rest => readWord ['a', 'l', 's', 'e'] (.bool false) rest
    | '"' :: rest => readString (rest.length + 1) (some []) rest
    | '-' :: rest => readUnsigned true rest
    | '[' :: rest =>
      match skipGaps rest with
      | ']' :: more => (.array [] true, more)
      | more => readItems fuel [] more
    | '\x7b' :: rest =>
      match skipGaps rest with
      | '\x7d' :: more => (.object [] true, more)
      | more => readMembers fuel [] more
    | rest => readUnsigned false rest

/-- Reads the elements of an array, one at least; those before stand in reverse. -/
def readItems : Nat → List Draft → List Char → Draft × List Char
  | 0, items, _ => (.array items.reverse false, [])
  | fuel + 1, items, cs =>
    match readValue fuel cs with
    | (item, rest) =>
      if item.isClosed then
        match skipGaps rest with
        | ',' :: more => readItems fuel (item :: items) more
        | ']' :: more => (.array (item :: items).reverse true, more)
        | _ => (.array (item :: items).reverse false, [])
      else (.array (item :: items).reverse false, [])

/-- Reads the members of an object, one at least; those before stand in reverse. -/
def readMembers : Nat → List (Option String × Draft) → List Char → Draft × List Char
  | 0, members, _ => (.object members.reverse false, [])
  | fuel + 1, members, cs =>
    match skipGaps cs with
    | '"' :: rest =>
      match readString (rest.length + 1) (some []) rest with
      | (.string name, rest) =>
        match skipGaps rest with
        | ':' :: rest =>
          match readValue fuel rest with
          | (value, rest) =>
            let members := (name, value) :: members
            if value.isClosed then
              match skipGaps rest with
              | ',' :: more => readMembers fuel members more
              | '\x7d' :: more => (.object members.reverse true, more)
              | _ => (.object members.reverse false, [])
            else (.object members.reverse false, [])
        | _ => (.object ((name, .broken) :: members).reverse false, [])
      | _ => (.object members.reverse false, [])
    | _ => (.object members.reverse false, [])

end

/-- The draft of a text, and whether only blanks follow it. -/
def ofText (text : String) : Draft × Bool :=
  let cs := text.toList
  let (draft, rest) := readValue (2 * cs.length + 2) cs
  (draft, draft.isClosed && rest.all isGap)

mutual

/-- Whether the draft has no fault at all. -/
def isSound : Draft → Bool
  | .null | .bool _ => true
  | .number n => n.isSome
  | .string s => s.isSome
  | .array items closed => closed && areSound items
  | .object members closed => closed && areMembersSound members
  | .broken => false

def areSound : List Draft → Bool
  | [] => true
  | item :: rest => item.isSound && areSound rest

def areMembersSound : List (Option String × Draft) → Bool
  | [] => true
  | (name, value) :: rest => name.isSome && value.isSound && areMembersSound rest

end

mutual

/-- The value of a draft; faulty parts are null or empty. -/
def toJson : Draft → Json
  | .null | .broken => .null
  | .bool b => .bool b
  | .number n => match n with
    | some n => .number n
    | none => .null
  | .string s => .string (s.getD "")
  | .array items _ => .array (itemsToJson items)
  | .object members _ => .object (membersToJson members)

def itemsToJson : List Draft → List Json
  | [] => []
  | item :: rest => item.toJson :: itemsToJson rest

/-- The members of an object; of several with one name only the last stays. -/
def membersToJson : List (Option String × Draft) → List (String × Json)
  | [] => []
  | (name, value) :: rest =>
    let rest' := membersToJson rest
    let name := name.getD ""
    if (rest'.lookup name).isSome then rest' else (name, value.toJson) :: rest'

end

end Draft

/-- Reads a JSON text. -/
def parse? (text : String) : Option Json :=
  match Draft.ofText text with
  | (draft, complete) => if complete && draft.isSound then some draft.toJson else none

end ScanFlow.Json
