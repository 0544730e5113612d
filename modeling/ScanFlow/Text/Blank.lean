/-!
Blank characters and trimming.

A character is blank if it has the Unicode property White_Space; the table lists
all of them. Trimming removes blanks at both ends of a text, and a text without any
other character trims to the empty text.
-/

namespace ScanFlow.Text

/-- The code points with the property White_Space, as closed ranges. -/
def blankRanges : List (Nat × Nat) :=
  [(0x9, 0xd), (0x20, 0x20), (0x85, 0x85), (0xa0, 0xa0), (0x1680, 0x1680), (0x2000, 0x200a),
    (0x2028, 0x2029), (0x202f, 0x202f), (0x205f, 0x205f), (0x3000, 0x3000)]

def isBlank (c : Char) : Bool :=
  blankRanges.any fun (low, high) => low ≤ c.toNat && c.toNat ≤ high

/-- Removes the blanks at the front. -/
def trimFront (cs : List Char) : List Char := cs.dropWhile isBlank

/-- Removes the blanks at the front and at the back. -/
def trimChars (cs : List Char) : List Char :=
  ((cs.dropWhile isBlank).reverse.dropWhile isBlank).reverse

def trim (text : String) : String := String.ofList (trimChars text.toList)

/-- Whether nothing but blanks is in the text. -/
def isAllBlank (text : String) : Bool := text.toList.all isBlank

/-- Lower case for the twenty-six ASCII letters; every other character stays. -/
def lowerChar (c : Char) : Char :=
  if 'A' ≤ c && c ≤ 'Z' then Char.ofNat (c.toNat + 32) else c

def lower (text : String) : String := String.ofList (text.toList.map lowerChar)

end ScanFlow.Text
