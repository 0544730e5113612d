import ScanFlow.Finding
import ScanFlow.Number.Decimal
import ScanFlow.Verdict

/-!
Correlated records, thresholds and the ranking of a record.

A record joins what the static analysis and the machine-learning engine say about one
place. Its severity depends on where it comes from, on whether its path crosses the file
it ends in, and on how its probability compares with the two thresholds.
-/

namespace ScanFlow

/-- Why records cannot be correlated. -/
inductive CorrelationError where
  | invalidProbability (path ruleKey : String) (value : Binary64)
  | invalidThresholds (low high : Binary64)
  | malformedFacade (facade : String)
  deriving DecidableEq, Repr

namespace CorrelationError

def message : CorrelationError → String
  | invalidProbability path ruleKey value =>
    s!"ML probability {value.positional} for rule {ruleKey} at {path} is not within [0, 1]"
  | invalidThresholds low high =>
    s!"Invalid thresholds: low={low.positional}, high={high.positional}"
  | malformedFacade facade => s!"Malformed SA facade: {facade}"

end CorrelationError

/-- The probabilities from which on a record counts: `low` for one that the static
analysis confirms, `high` for one that it does not. -/
structure Thresholds where
  low : Binary64
  high : Binary64
  deriving DecidableEq, Repr

namespace Thresholds

/-- One twentieth. -/
def defaultLow : Binary64 := Binary64.ofRatio false 5 100

/-- Nineteen twentieths. -/
def defaultHigh : Binary64 := Binary64.ofRatio false 95 100

def standard : Thresholds := ⟨defaultLow, defaultHigh⟩

/-- Both thresholds are finite, and `0 ≤ low ≤ high ≤ 1`. -/
def isValid (t : Thresholds) : Bool :=
  t.low.isFinite && t.high.isFinite && Binary64.zero.le t.low && t.low.le t.high &&
    t.high.le Binary64.one

def validate (t : Thresholds) : Except CorrelationError Unit :=
  if t.isValid then .ok () else .error (.invalidThresholds t.low t.high)

def toJson (t : Thresholds) : Json :=
  .object [("low", .ofReal t.low), ("high", .ofReal t.high)]

def ofJson? : Json → Option Thresholds := Json.record? do
  let low ← Json.required "low" Json.real?
  let high ← Json.required "high" Json.real?
  return { low, high }

instance : Wire Thresholds := ⟨toJson, ofJson?⟩

end Thresholds

/-- How serious a record is; `suppressed` records are dropped. -/
inductive Severity where
  | suppressed
  | warning
  | error
  deriving DecidableEq, Repr

namespace Severity

def wire : Severity → String
  | error => "ERROR"
  | warning => "WARNING"
  | suppressed => "NONE"

def ofWire? : String → Option Severity
  | "ERROR" => some error
  | "WARNING" => some warning
  | "NONE" => some suppressed
  | _ => none

def toJson (severity : Severity) : Json := .string severity.wire

def ofJson? : Json → Option Severity := Json.word? ofWire?

instance : Wire Severity := ⟨toJson, ofJson?⟩

end Severity

/-- One correlated defect. -/
structure MergeRecord where
  cwe : String
  name : String
  file : String
  lineNumber : Option Nat
  crossFile : Bool
  level : Severity
  mlProbability : Option Binary64
  fromSa : Bool
  fromMl : Bool
  thresholdLow : Binary64
  thresholdHigh : Binary64
  deriving DecidableEq, Repr

namespace MergeRecord

/-- The record of a finding before any verdict is known. -/
def ofFinding (cwe name file : String) (line : Nat) (crossFile : Bool) : MergeRecord :=
  { cwe, name, file
    lineNumber := some line
    crossFile
    level := .suppressed
    mlProbability := none
    fromSa := true
    fromMl := false
    thresholdLow := .zero
    thresholdHigh := .zero }

/-- The record of a probability that no finding matches. -/
def ofScore (cwe name file : String) (p : Binary64) : MergeRecord :=
  { cwe, name, file
    lineNumber := none
    crossFile := false
    level := .suppressed
    mlProbability := some p
    fromSa := false
    fromMl := true
    thresholdLow := .zero
    thresholdHigh := .zero }

/-- `file:line`, or the file of a record without a line. -/
def facade (record : MergeRecord) : String :=
  match record.lineNumber with
  | some line => Facade.render record.file line
  | none => record.file

/-- The severity of a record. Findings of the static analysis are errors unless they are
confined to one file and scored below `low`; scores alone are warnings from `high` on. -/
def classify (record : MergeRecord) (t : Thresholds) : Severity :=
  let atLeast (bound : Binary64) : Bool := record.mlProbability.any fun p => bound.le p
  let below (bound : Binary64) : Bool := record.mlProbability.any fun p => p.lt bound
  if record.fromSa && record.crossFile then .error
  else if record.fromSa && !record.fromMl then .error
  else if record.fromSa && record.fromMl && atLeast t.low then .error
  else if !record.fromSa && record.fromMl && atLeast t.high then .warning
  else if record.fromSa && record.fromMl && below t.low then .warning
  else .suppressed

/-- The record with its severity and the thresholds it was ranked by. -/
def ranked (record : MergeRecord) (t : Thresholds) : MergeRecord :=
  { record with level := record.classify t, thresholdLow := t.low, thresholdHigh := t.high }

def toJson (record : MergeRecord) : Json :=
  .object
    [("cwe", .string record.cwe), ("name", .string record.name), ("file", .string record.file),
      ("line_number", .ofOption .ofNat record.lineNumber),
      ("cross_file", .bool record.crossFile), ("level", record.level.toJson),
      ("ml_probability", .ofOption .ofReal record.mlProbability),
      ("from_sa", .bool record.fromSa), ("from_ml", .bool record.fromMl),
      ("threshold_low", .ofReal record.thresholdLow),
      ("threshold_high", .ofReal record.thresholdHigh)]

def ofJson? : Json → Option MergeRecord := Json.record? do
  let cwe ← Json.required "cwe" Json.string?
  let name ← Json.required "name" Json.string?
  let file ← Json.required "file" Json.string?
  let lineNumber ← Json.optional "line_number" (Json.nat? Digits.maxWord32)
  let crossFile ← Json.required "cross_file" Json.bool?
  let level ← Json.required "level" Severity.ofJson?
  let mlProbability ← Json.optional "ml_probability" Json.real?
  let fromSa ← Json.required "from_sa" Json.bool?
  let fromMl ← Json.required "from_ml" Json.bool?
  let thresholdLow ← Json.required "threshold_low" Json.real?
  let thresholdHigh ← Json.required "threshold_high" Json.real?
  return { cwe, name, file, lineNumber, crossFile, level, mlProbability, fromSa, fromMl,
           thresholdLow, thresholdHigh }

instance : Wire MergeRecord := ⟨toJson, ofJson?⟩

end MergeRecord

end ScanFlow
