import ScanFlow.Merge.Record

/-!
Correlation of findings with scores.

Every finding gives one record, in stored order. Every score of an analysed file either
goes to the first finding in the same file with the same weakness, or gives a record of
its own after all findings. The function depends on its arguments only, so replaying it
on the stored inputs gives the stored output again.
-/

namespace ScanFlow.Merge

/-- The record of one finding of a group. -/
def findingRecord (group : FindingGroup) (finding : Finding) :
    Except CorrelationError MergeRecord :=
  match Facade.split? finding.facade with
  | none => .error (.malformedFacade finding.facade)
  | some (file, line) =>
    let crossFile := finding.path.dropLast.any fun step => step.file = file
    .ok (.ofFinding group.ruleCwe group.ruleName file line crossFile)

/-- The records of all findings, in the order of the groups. -/
def findingRecords (groups : List GroupReport) : Except CorrelationError (List MergeRecord) :=
  (groups.flatMap fun report => report.findings.map fun finding => (report.group, finding)).mapM
    fun (group, finding) => findingRecord group finding

/-- Whether a score belongs to a record: the record is a finding in the same file, of the
same weakness. -/
def matchesScore (file ruleKey : String) (record : MergeRecord) : Bool :=
  record.fromSa && record.file = file && Cwe.normalize record.cwe = Cwe.normalize ruleKey

/-- Gives a probability to the first matching record, if there is one. -/
def attach? (file ruleKey : String) (p : Binary64) :
    List MergeRecord → Option (List MergeRecord)
  | [] => none
  | record :: rest =>
    if matchesScore file ruleKey record then
      some ({ record with fromMl := true, mlProbability := some p } :: rest)
    else (attach? file ruleKey p rest).map (record :: ·)

/-- The name of a record that only a score supports: that of a rule for the weakness, or
else the rule key. -/
def scoreName (rules : Option TemplateSnapshot) (ruleKey : String) : String :=
  (rules.bind fun snapshot => snapshot.nameForCwe? ruleKey).getD ruleKey

/-- Takes up one score. -/
def addScore (rules : Option TemplateSnapshot) (records : List MergeRecord)
    (score : MlReport.Score) : Except CorrelationError (List MergeRecord) :=
  if score.probability.isProbability then
    let file := Facade.ofReportedPath score.path
    match attach? file score.ruleKey score.probability records with
    | some records => .ok records
    | none =>
      .ok (records ++
        [.ofScore score.ruleKey (scoreName rules score.ruleKey) file score.probability])
  else .error (.invalidProbability score.path score.ruleKey score.probability)

/-- All records of a task, suppressed ones included, ranked by the thresholds. -/
def correlate (groups : List GroupReport) (report : MlReport)
    (rules : Option TemplateSnapshot) (t : Thresholds) :
    Except CorrelationError (List MergeRecord) := do
  t.validate
  let found ← findingRecords groups
  let records ← report.scores.foldlM (addScore rules) found
  return records.map (·.ranked t)

/-- The records of a task that are not suppressed. -/
def merge (groups : List GroupReport) (report : MlReport)
    (rules : Option TemplateSnapshot) (t : Thresholds) :
    Except CorrelationError (List MergeRecord) := do
  let records ← correlate groups report rules t
  return records.filter fun record => record.level != .suppressed

end ScanFlow.Merge
