import ScanFlow.Message.Completion
import ScanFlow.Proofs.Json.Reading
import ScanFlow.Proofs.Outcome

/-!
What an accepted completion message is known to hold.

A message is accepted once it has been decoded and validated. Of a message that reports
success, everything that is relied on later is known from then on: there is an artifact, the
lines of all paths fit 32 bits, and all scores are probabilities.
-/

namespace ScanFlow

open Json

namespace Completion

theorem parse_eq_ok {queue : Queue} {body : Json} {message : Completion}
    (h : parse queue body = .ok message) :
    decode queue body = .ok message ∧ message.validate = .ok () := by
  obtain ⟨decoded, hdecode, h⟩ := ok_of_bind h
  obtain ⟨_, hvalidate, h⟩ := ok_of_bind h
  cases h
  exact ⟨hdecode, hvalidate⟩

/-- A message about the static analysis has been read as one. -/
theorem decode_eq_sa {queue : Queue} {body : Json} {message : SaFinished}
    (h : decode queue body = .ok (.sa message)) : SaFinished.ofJson? body = some message := by
  cases queue with
  | saFinish =>
    simp only [decode] at h
    cases hread : SaFinished.ofJson? body with
    | none =>
      rw [hread] at h
      cases h
    | some read =>
      rw [hread] at h
      cases h
      rfl
  | compileFinish =>
    simp only [decode] at h
    cases hread : CompileFinished.ofJson? body with
    | none =>
      rw [hread] at h
      cases h
    | some read =>
      rw [hread] at h
      cases h
  | mlFinish =>
    simp only [decode] at h
    cases hread : MlFinished.ofJson? body with
    | none =>
      rw [hread] at h
      cases h
    | some read =>
      rw [hread] at h
      cases h
  | _ => cases h

end Completion

/-! ### The answer of the compiler -/

def CompileFinished.key? (message : CompileFinished) : Option String :=
  message.artifact.map CompileArtifact.objectKey

theorem CompileFinished.key_of_accepted {message : CompileFinished} {queue : Queue} {body : Json}
    (h : Completion.parse queue body = .ok (.compile message))
    (hsuccess : message.success = true) : ∃ key, message.key? = some key := by
  have hvalid : message.validate = .ok () := (Completion.parse_eq_ok h).2
  unfold CompileFinished.validate at hvalid
  rw [if_neg (by simp [hsuccess])] at hvalid
  unfold CompileFinished.key?
  cases hartifact : message.artifact with
  | none =>
    rw [hartifact] at hvalid
    cases hvalid
  | some artifact => exact ⟨artifact.objectKey, rfl⟩

/-! ### The answer of the static analysis -/

/-- The lines of the path fit the numbers of facades. -/
def SaFinding.Bounded (finding : SaFinding) : Prop :=
  ∀ step ∈ finding.path, step.line ≤ Digits.maxWord32

theorem PathStep.line_of_read :
    Yields PathStep.ofJson? fun step => step.line ≤ Digits.maxWord32 := by
  unfold PathStep.ofJson?
  apply yields_record
  refine yields_bind (yields_any _) fun file _ => ?_
  refine yields_bind (yields_any _) fun function _ => ?_
  refine yields_bind (yields_any _) fun jimpleStmt _ => ?_
  refine yields_bind (yields_any _) fun javaStmt _ => ?_
  refine yields_bind (yields_any _) fun jspStmt _ => ?_
  refine yields_bind (yields_required "line" (yields_nat _)) fun line hline => ?_
  refine yields_bind (yields_any _) fun jspLine _ => ?_
  refine yields_bind (yields_any _) fun javaClass _ => ?_
  refine yields_bind (yields_any _) fun jspFile _ => ?_
  exact yields_pure hline

theorem SaFinding.bounded_of_read : Yields SaFinding.ofJson? SaFinding.Bounded := by
  unfold SaFinding.ofJson?
  apply yields_record
  refine yields_bind (yields_any _) fun sourceSig _ => ?_
  refine yields_bind (yields_any _) fun sinkSig _ => ?_
  refine yields_bind (yields_required "path" (yields_list PathStep.line_of_read)) ?_
  intro path hpath
  exact yields_pure hpath

theorem SaRuleResult.bounded_of_read :
    Yields SaRuleResult.ofJson? fun result => ∀ finding ∈ result.findings, finding.Bounded := by
  unfold SaRuleResult.ofJson?
  apply yields_record
  refine yields_bind (yields_any _) fun ruleName _ => ?_
  refine yields_bind (yields_any _) fun ruleCwe _ => ?_
  refine yields_bind (yields_any _) fun ruleCategory _ => ?_
  refine yields_bind (yields_any _) fun ruleLevel _ => ?_
  refine yields_bind
    (yields_defaulted "detectedResults" (yields_list SaFinding.bounded_of_read) nofun) ?_
  intro findings hfindings
  exact yields_pure hfindings

theorem SaFinished.bounded_of_accepted {message : SaFinished} {queue : Queue} {body : Json}
    (h : Completion.parse queue body = .ok (.sa message)) :
    ∀ result, message.result = some result → ∀ entry ∈ result.entries,
      ∀ finding ∈ entry.2.findings, finding.Bounded := by
  have hyields : Yields SaFinished.ofJson? fun message => ∀ result, message.result = some result →
      ∀ entry ∈ result.entries, ∀ finding ∈ entry.2.findings, finding.Bounded := by
    unfold SaFinished.ofJson?
    apply yields_record
    refine yields_bind (yields_any _) fun workflowId _ => ?_
    refine yields_bind (yields_any _) fun taskId _ => ?_
    refine yields_bind (yields_any _) fun success _ => ?_
    refine yields_bind (yields_defaulted "result"
      (yields_option (yields_nameMap SaRuleResult.bounded_of_read)) nofun) ?_
    intro result hresult
    exact yields_pure hresult
  exact hyields body message (Completion.decode_eq_sa (Completion.parse_eq_ok h).1)

/-- Of a success, no finding has been accepted without a path. -/
theorem SaFinished.pathful_of_accepted {message : SaFinished} {queue : Queue} {body : Json}
    (h : Completion.parse queue body = .ok (.sa message)) (hsuccess : message.success = true) :
    ∀ result, message.result = some result → ∀ entry ∈ result.entries,
      ∀ finding ∈ entry.2.findings, finding.path ≠ [] := by
  have hvalid : message.validate = .ok () := (Completion.parse_eq_ok h).2
  unfold SaFinished.validate at hvalid
  rw [if_neg (by simp [hsuccess])] at hvalid
  intro result hresult entry member finding hfinding hempty
  rw [hresult] at hvalid
  dsimp only at hvalid
  cases hpathless : SaFinished.pathlessRule? result with
  | some ruleId =>
    rw [hpathless] at hvalid
    cases hvalid
  | none =>
    have hnone := Option.map_eq_none_iff.mp hpathless
    rw [List.find?_eq_none] at hnone
    apply hnone entry member
    exact List.any_eq_true.mpr ⟨finding, hfinding, by simp [hempty]⟩

/-! ### The answer of the machine-learning engine -/

def MlReport.Probable (report : MlReport) : Prop :=
  ∀ score ∈ report.scores, score.probability.isProbability = true

theorem MlFinished.probable_of_accepted {message : MlFinished} {queue : Queue} {body : Json}
    (h : Completion.parse queue body = .ok (.ml message)) (hsuccess : message.success = true) :
    ∃ report, message.result = some report ∧ report.Probable := by
  have hvalid : message.validate = .ok () := (Completion.parse_eq_ok h).2
  unfold MlFinished.validate at hvalid
  rw [if_neg (by simp [hsuccess])] at hvalid
  cases hresult : message.result with
  | none =>
    rw [hresult] at hvalid
    cases hvalid
  | some report =>
    rw [hresult] at hvalid
    dsimp only at hvalid
    refine ⟨report, rfl, ?_⟩
    intro score member
    cases hfault : report.scores.find? fun score => !score.probability.isProbability with
    | some fault =>
      rw [hfault] at hvalid
      cases hvalid
    | none =>
      rw [List.find?_eq_none] at hfault
      simpa using hfault score member

end ScanFlow
