import ScanFlow.Json.Record

/-!
Verdicts of the machine-learning engine.

For each file the engine reports a status and, per rule, the probability that the file
has the weakness. A status other than success makes the probabilities meaningless.
-/

namespace ScanFlow

/-- The verdict on one file: a status and probabilities by rule key. -/
structure FileVerdict where
  status : Nat
  probabilities : NameMap Binary64
  deriving DecidableEq

/-- All verdicts of one run, by reported path. -/
abbrev MlReport := NameMap FileVerdict

namespace FileVerdict

/-- The status of a file that was analysed. -/
def success : Nat := 200

def isSuccess (verdict : FileVerdict) : Bool := verdict.status = success

/-- The status and the probabilities stand side by side in one object. -/
def toJson (verdict : FileVerdict) : Json :=
  .object (("status", .ofNat verdict.status) ::
    verdict.probabilities.entries.map fun (key, p) => (key, .ofReal p))

/-- Every member other than the status must be a number, whatever the status. -/
def ofJson? : Json → Option FileVerdict
  | .object members => do
    let status ← (Json.lookup? members "status").bind (Json.nat? Digits.maxWord16)
    let others := members.filter fun member => member.1 != "status"
    let probabilities ← Json.nameMap? Json.real? (.object others)
    return { status, probabilities }
  | _ => none

instance : Wire FileVerdict := ⟨toJson, ofJson?⟩

end FileVerdict

namespace MlReport

def toJson (report : MlReport) : Json := .ofNameMap FileVerdict.toJson report

def ofJson? : Json → Option MlReport := Json.nameMap? FileVerdict.ofJson?

/-- One probability of a file that was analysed. -/
structure Score where
  path : String
  ruleKey : String
  probability : Binary64
  deriving DecidableEq

/-- The probabilities of all analysed files, in the order of paths and rule keys. -/
def scores (report : MlReport) : List Score :=
  (report.entries.filter fun (_, verdict) => verdict.isSuccess).flatMap fun (path, verdict) =>
    verdict.probabilities.entries.map fun (key, p) => ⟨path, key, p⟩

instance : Wire MlReport := ⟨toJson, ofJson?⟩

end MlReport

/-- Whether a number is a probability: finite, and from zero to one. -/
def Binary64.isProbability (p : Binary64) : Bool :=
  p.isFinite && Binary64.zero.le p && p.le Binary64.one

end ScanFlow
