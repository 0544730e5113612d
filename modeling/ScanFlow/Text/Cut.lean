/-!
Cutting texts at marks.

`cutLast?` cuts at the last place of a character, `after?` behind the first place of a
word, and `split` at all places of a character.
-/

namespace ScanFlow.Text

/-- The characters before and after the last place of a mark. -/
def cutLast? (mark : Char) (cs : List Char) : Option (List Char × List Char) :=
  match cs with
  | [] => none
  | c :: rest =>
    match cutLast? mark rest with
    | some (before, after) => some (c :: before, after)
    | none => if c = mark then some ([], rest) else none

/-- What follows the first place of a word, if the word occurs. -/
def after? (word : List Char) (cs : List Char) : Option (List Char) :=
  if word.isPrefixOf cs then some (cs.drop word.length)
  else
    match cs with
    | [] => none
    | _ :: rest => after? word rest

/-- Whether a word occurs. -/
def occurs (word cs : List Char) : Bool := (after? word cs).isSome

/-- The parts between the places of a mark; there is one part more than marks. -/
def split (mark : Char) : List Char → List (List Char)
  | [] => [[]]
  | c :: rest =>
    if c = mark then [] :: split mark rest
    else
      match split mark rest with
      | part :: parts => (c :: part) :: parts
      | [] => [[c]]

/-- The parts of a text between the places of a mark. -/
def parts (mark : Char) (text : String) : List String :=
  (split mark text.toList).map String.ofList

end ScanFlow.Text
