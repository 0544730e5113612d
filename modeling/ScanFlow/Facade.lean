import ScanFlow.Number.Digits
import ScanFlow.Text.Cut

/-!
Facades: the texts under which findings and verdicts are correlated.

The facade of a place in a file is `file:line`. Splitting takes the last colon, since a
file name may hold others, and refuses a facade without a file name. The path under
which a verdict is reported is cut down to the same naming by dropping everything up to
the folder of compiled classes.
-/

namespace ScanFlow.Facade

/-- The facade of a line of a file. -/
def render (file : String) (line : Nat) : String :=
  String.ofList (file.toList ++ ':' :: Digits.chars line)

/-- The file and the line of a facade. The line is a 32-bit number, and may have a plus
sign. -/
def split? (facade : String) : Option (String × Nat) :=
  match Text.cutLast? ':' facade.toList with
  | some (file, line) =>
    match Digits.parse? Digits.maxWord32 (String.ofList line) with
    | some n => if file.isEmpty then none else some (String.ofList file, n)
    | none => none
  | none => none

/-- The folder that holds the compiled classes of a web application. -/
def classesMarker : List Char := "WEB-INF/classes/".toList

/-- A reported path under the naming of facades. -/
def ofReportedPath (path : String) : String :=
  match Text.after? classesMarker path.toList with
  | some rest => String.ofList rest
  | none => path

end ScanFlow.Facade
