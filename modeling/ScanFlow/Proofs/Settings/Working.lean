import ScanFlow.Proofs.Lifecycle.Submit
import ScanFlow.Proofs.Merge.Faults
import ScanFlow.Proofs.Program.Failures

/-!
Settings that pass their rules give an orchestrator that works.

The rules of the thresholds and of the limits are written down twice: the settings refuse what
lies outside, while merges and submissions ask for what lies inside. Both readings agree on all
numbers, those that are not finite among them. An orchestrator of valid settings can therefore
be made, and a submission that chooses no limits is never refused for its limits.
-/

namespace ScanFlow

def ServiceError.TellsFaults (e : ServiceError) : Prop := ∃ faults, e = .ofFieldFaults faults

namespace ServiceError

theorem not_tellsFaults_of_kind {e : ServiceError} (h : ∀ text, e ≠ .invalidInput text) :
    ¬ e.TellsFaults := by
  rintro ⟨faults, rfl⟩
  exact h _ rfl

theorem head?_append {text rest : String} {c : Char} (h : text.toList.head? = some c) :
    (text ++ rest).toList.head? = some c := by
  rw [String.toList_append, List.head?_append, h]
  rfl

/-- A list of faults is announced as a validation error. -/
theorem not_tellsFaults_invalidInput {text : String} {c : Char}
    (hfirst : text.toList.head? = some c) (hc : c ≠ 'V') : ¬ (invalidInput text).TellsFaults := by
  rintro ⟨faults, hfaults⟩
  injection hfaults with htext
  have hv : text.toList.head? = some 'V' := by
    rw [htext]
    exact head?_append rfl
  rw [hfirst] at hv
  exact hc (Option.some.inj hv)

end ServiceError

/-! ### The two readings of a rule -/

/-- What the settings refuse is what merges would refuse. A number that is not finite is refused
by name, so that no comparison with it counts. -/
theorem Settings.thresholdsBroken_iff (low high : Binary64) :
    thresholdsBroken low high = false ↔ (⟨low, high⟩ : Thresholds).Ordered := by
  unfold thresholdsBroken Thresholds.Ordered
  by_cases hlow : low.isFinite = true
  · by_cases hhigh : high.isFinite = true
    · have hzero : low.lt .zero = false ↔ 0 ≤ low.value := by
        rw [← Bool.not_eq_true, Binary64.lt_iff hlow Binary64.zero_isFinite, Binary64.zero_value,
          not_lt]
      have hone : Binary64.one.lt high = false ↔ high.value ≤ 1 := by
        rw [← Bool.not_eq_true, Binary64.lt_iff Binary64.one_isFinite hhigh, Binary64.one_value,
          not_lt]
      have horder : high.lt low = false ↔ low.value ≤ high.value := by
        rw [← Bool.not_eq_true, Binary64.lt_iff hhigh hlow, not_lt]
      simp only [hlow, hhigh, Bool.not_true, Bool.false_or, Bool.or_eq_false_iff, hzero, hone,
        horder, true_and]
      exact ⟨fun ⟨⟨h0, h1⟩, h⟩ => ⟨h0, h, h1⟩, fun ⟨h0, h, h1⟩ => ⟨⟨h0, h1⟩, h⟩⟩
    · simp [hhigh]
  · simp [hlow]

theorem Thresholds.validate_ok_iff (t : Thresholds) : t.validate = .ok () ↔ t.Ordered := by
  rw [← t.isValid_iff]
  unfold validate
  cases t.isValid <;> simp

theorem Settings.outside_eq_false_iff {least greatest n : Nat} :
    outside least greatest n = false ↔ least ≤ n ∧ n ≤ greatest := by
  simp [outside]

theorem rangeFault_eq_nil_iff {field : String} {n least greatest : Nat} :
    rangeFault field n least greatest = [] ↔ least ≤ n ∧ n ≤ greatest := by
  simp [rangeFault]

/-- Limits inside the ranges of the settings are those that submissions may ask for. -/
theorem EngineLimits.faults_eq_nil_iff (limits : EngineLimits) :
    limits.faults = [] ↔
      Settings.outside leastTimeout greatestTimeout limits.timeoutMinutes = false ∧
        Settings.outside leastMemory greatestMemory limits.maxMemoryGb = false := by
  rw [faults, List.append_eq_nil_iff, rangeFault_eq_nil_iff, rangeFault_eq_nil_iff,
    Settings.outside_eq_false_iff, Settings.outside_eq_false_iff, and_comm]

/-! ### Valid settings -/

namespace Settings

def thresholds (settings : Settings) : Thresholds :=
  ⟨settings.mergeThresholdLow, settings.mergeThresholdHigh⟩

def limits (settings : Settings) : EngineLimits :=
  ⟨settings.engineTimeoutMinutes, settings.engineMaxMemoryGb⟩

def orchestrator (settings : Settings) : Orchestrator :=
  ⟨settings.blobUrlExpirySecs, settings.thresholds, settings.limits⟩

variable {settings : Settings}

/-- The rules that the numbers of valid settings have passed. -/
theorem validate_eq_ok (h : settings.validate = .ok ()) :
    outside EngineLimits.leastTimeout EngineLimits.greatestTimeout
        settings.engineTimeoutMinutes = false ∧
      outside EngineLimits.leastMemory EngineLimits.greatestMemory
        settings.engineMaxMemoryGb = false ∧
      thresholdsBroken settings.mergeThresholdLow settings.mergeThresholdHigh = false := by
  unfold validate at h
  split at h
  · cases h
  split at h
  · cases h
  rename_i htimeout
  split at h
  · cases h
  rename_i hmemory
  split at h
  · cases h
  rename_i hthresholds
  exact ⟨by simpa using htimeout, by simpa using hmemory, by simpa using hthresholds⟩

theorem ofSettings_orchestrator (h : settings.validate = .ok ()) :
    Orchestrator.ofSettings settings = .ok settings.orchestrator := by
  have hthresholds : (⟨settings.mergeThresholdLow, settings.mergeThresholdHigh⟩ :
      Thresholds).validate = .ok () :=
    (Thresholds.validate_ok_iff _).mpr ((thresholdsBroken_iff _ _).mp (validate_eq_ok h).2.2)
  unfold Orchestrator.ofSettings
  dsimp only
  rw [hthresholds]
  rfl

theorem limits_faults (h : settings.validate = .ok ()) : settings.limits.faults = [] :=
  (EngineLimits.faults_eq_nil_iff _).mpr ⟨(validate_eq_ok h).1, (validate_eq_ok h).2.1⟩

end Settings

/-! ### The errors of a submission -/

/-- A run refuses to start or to finish because of its status, not because of any field. -/
theorem RunStatus.become_quiet {α : Type} {status next : RunStatus} {run : RunStatus → α}
    {e : ServiceError}
    (h : (do let reached ← status.become next; return run reached) = .error e) :
    ¬ e.TellsFaults := by
  unfold become at h
  split at h
  · cases h
  · cases h
    exact ServiceError.not_tellsFaults_of_kind nofun

theorem SaRun.started_quiet {run : SaRun} {moment : Timestamp} {e : ServiceError}
    (h : run.started moment = .error e) : ¬ e.TellsFaults := RunStatus.become_quiet h

theorem SaRun.finished_quiet {run : SaRun} {succeeded : Bool} {resultIds : List Uuid}
    {weaknessCount : Nat} {moment : Timestamp} {e : ServiceError}
    (h : run.finished succeeded resultIds weaknessCount moment = .error e) : ¬ e.TellsFaults :=
  RunStatus.become_quiet h

theorem MlRun.started_quiet {run : MlRun} {moment : Timestamp} {e : ServiceError}
    (h : run.started moment = .error e) : ¬ e.TellsFaults := RunStatus.become_quiet h

theorem MlRun.finished_quiet {run : MlRun} {succeeded : Bool} {rawResult : Option MlReport}
    {moment : Timestamp} {e : ServiceError}
    (h : run.finished succeeded rawResult moment = .error e) : ¬ e.TellsFaults :=
  RunStatus.become_quiet h

namespace Orchestrator

open Program ServiceError

variable {o : Orchestrator}

/-- Whatever it is answered, the program never lists faults of fields. -/
abbrev Quiet {α : Type} (program : Program α) : Prop := program.FailsOnly fun e => ¬ e.TellsFaults

theorem sendRequest_quiet (request : EngineRequest) : Quiet (sendRequest request) :=
  failsOnly_sendRequest fun _ => not_tellsFaults_of_kind nofun

theorem blobUrl_quiet (key : String) (lifetime : Nat) : Quiet (blobUrl key lifetime) :=
  failsOnly_blobUrl fun e => not_tellsFaults_of_kind (by cases e <;> nofun)

theorem require_quiet {α : Type} (operation : Store.Operation (Option α)) (text : String) :
    Quiet (require operation (.notFound text)) :=
  failsOnly_require (not_tellsFaults_of_kind nofun)

theorem dispatchCompile_quiet (workflow : Workflow) : Quiet (o.dispatchCompile workflow) := by
  unfold dispatchCompile
  refine failsOnly_bind (require_quiet _ _) fun code => ?_
  refine failsOnly_bind (require_quiet _ _) fun source => ?_
  refine failsOnly_bind (blobUrl_quiet _ _) fun url => ?_
  exact failsOnly_bind (sendRequest_quiet _) fun _ => failsOnly_pure _

theorem captureRules_quiet (workflow : Workflow) : Quiet (captureRules workflow) := by
  unfold captureRules
  split
  · exact failsOnly_fail
      (not_tellsFaults_invalidInput (head?_append (head?_append rfl)) (by decide))
  · refine failsOnly_bind (failsOnly_ask _) fun template => ?_
    cases template with
    | none => exact failsOnly_pure _
    | some template =>
      refine failsOnly_bind (failsOnly_ask _) fun rules => ?_
      split
      · exact failsOnly_pure _
      · exact failsOnly_bind (failsOnly_ask _) fun _ => failsOnly_pure _

theorem abortWithoutRules_quiet (workflow : Workflow) (task : Task) (kind : Task.Kind) :
    Quiet (abortWithoutRules workflow task kind) := by
  have hfinish : Quiet (giveUp workflow) :=
    failsOnly_bind (failsOnly_ask _) fun _ => failsOnly_pure _
  have hrest : ∀ now, Quiet (abortRest workflow task kind now) := by
    intro now
    unfold abortRest
    dsimp only
    split
    · refine failsOnly_bind (failsOnly_ofExcept fun e => MlRun.finished_quiet) fun ml => ?_
      exact failsOnly_bind (failsOnly_ask _) fun _ => hfinish
    · exact hfinish
  unfold abortWithoutRules
  refine failsOnly_bind (failsOnly_ask _) fun now => ?_
  dsimp only
  split
  · refine failsOnly_bind (failsOnly_ofExcept fun e => SaRun.finished_quiet) fun sa => ?_
    exact failsOnly_bind (failsOnly_ask _) fun _ => hrest now
  · exact hrest now

theorem requestAnalysis_quiet (workflow : Workflow) (task : Task) (kind : Task.Kind)
    (snapshot : TemplateSnapshot) : Quiet (o.requestAnalysis workflow task kind snapshot) := by
  cases hkey : task.targetKey with
  | none =>
    rw [requestAnalysis, hkey]
    exact failsOnly_fail
      (not_tellsFaults_invalidInput (head?_append (head?_append rfl)) (by decide))
  | some key =>
    rw [requestAnalysis_eq hkey]
    refine failsOnly_bind (blobUrl_quiet _ _) fun url => ?_
    refine failsOnly_bind (failsOnly_ask _) fun now => ?_
    refine failsOnly_bind (failsOnly_ofExcept fun e hfails => ?_) fun runs => ?_
    · rcases startedRuns_error hfails with hsa | hml
      · exact SaRun.started_quiet hsa
      · exact MlRun.started_quiet hml
    · refine failsOnly_bind (failsOnly_ask _) fun bound => ?_
      split
      · refine failsOnly_bind (failsOnly_forM fun request _ => ?_) fun _ => failsOnly_pure _
        exact failsOnly_bind (sendRequest_quiet _) fun _ => failsOnly_pure _
      · exact failsOnly_pure _

theorem dispatchAnalysis_quiet (workflow : Workflow) : Quiet (o.dispatchAnalysis workflow) := by
  unfold dispatchAnalysis
  refine failsOnly_bind (require_quiet _ _) fun task => ?_
  split
  · exact failsOnly_pure _
  split
  · exact failsOnly_fail (not_tellsFaults_of_kind nofun)
  refine failsOnly_bind (captureRules_quiet workflow) fun captured => ?_
  cases captured with
  | none => exact abortWithoutRules_quiet workflow task _
  | some snapshot => exact requestAnalysis_quiet workflow task _ snapshot

/-- A dispatch that fails ends the workflow, and then fails as the dispatch has. -/
theorem dispatchFirst_quiet (workflow : Workflow) : Quiet (o.dispatchFirst workflow) := by
  unfold dispatchFirst
  split
  · exact failsOnly_pure _
  rename_i stage hstage
  have hdispatch : Quiet (o.dispatch stage workflow) := by
    cases stage with
    | compile => exact dispatchCompile_quiet workflow
    | analysis => exact dispatchAnalysis_quiet workflow
  refine failsOnly_attempt hdispatch (fun _ => failsOnly_pure _) fun e hquiet => ?_
  exact failsOnly_bind (failsOnly_finish _ _) fun _ => failsOnly_fail hquiet

theorem resolveTemplate_quiet (templateId : Option Uuid) : Quiet (resolveTemplate templateId) := by
  unfold resolveTemplate
  split
  · refine failsOnly_bind (require_quiet _ _) fun template => ?_
    split
    · exact failsOnly_pure _
    · exact failsOnly_fail
        (not_tellsFaults_invalidInput (head?_append (head?_append rfl)) (by decide))
  · exact failsOnly_require (not_tellsFaults_invalidInput rfl (by decide))

theorem resolveTarget_quiet (code : Code) (shape : Shape) : Quiet (resolveTarget code shape) := by
  unfold resolveTarget
  split
  · split
    · exact failsOnly_fail (not_tellsFaults_invalidInput
        (head?_append (head?_append (head?_append (head?_append rfl)))) (by decide))
    · exact failsOnly_bind (require_quiet _ _) fun _ => failsOnly_pure _
  · exact failsOnly_pure _

/-- Once its limits pass, a submission fails for other reasons than a list of faults. -/
theorem start_quiet {submission : Submission}
    (hlimits : (submission.limits.getD o.defaultLimits).faults = []) :
    Quiet (o.start submission) := by
  unfold start
  refine failsOnly_bind (require_quiet _ _) fun code => ?_
  dsimp only
  rw [hlimits]
  refine failsOnly_bind (failsOnly_pure ()) fun _ => ?_
  refine failsOnly_bind (resolveTarget_quiet code _) fun target => ?_
  have hrest : ∀ templateId : Option Uuid,
      Quiet (o.createFresh submission code target templateId) := by
    intro templateId
    refine failsOnly_bind failsOnly_newId fun taskId => ?_
    refine failsOnly_bind (failsOnly_ask _) fun taskMoment => ?_
    refine failsOnly_bind failsOnly_newId fun workflowId => ?_
    refine failsOnly_bind (failsOnly_ask _) fun now => ?_
    refine failsOnly_bind (failsOnly_storeOr fun _ => not_tellsFaults_of_kind nofun) fun _ => ?_
    exact failsOnly_bind (dispatchFirst_quiet _) fun _ => require_quiet _ _
  split
  · exact failsOnly_bind (resolveTemplate_quiet _) fun template => hrest (some template.id)
  · exact hrest none

end Orchestrator

namespace Settings

/-- **Settings that pass their rules give an orchestrator that works.** The thresholds that the
settings accept are exactly those that merges accept, and the limits exactly those that
submissions may ask for. From valid settings an orchestrator can be made, with the thresholds and
the limits that they choose, and whatever its calls are answered, a submission that chooses no
limits is never refused for a field of its limits. -/
theorem validated_settings_work (settings : Settings) :
    (thresholdsBroken settings.mergeThresholdLow settings.mergeThresholdHigh = false ↔
      (⟨settings.mergeThresholdLow, settings.mergeThresholdHigh⟩ : Thresholds).validate = .ok ()) ∧
    (outside EngineLimits.leastTimeout EngineLimits.greatestTimeout
          settings.engineTimeoutMinutes = false ∧
        outside EngineLimits.leastMemory EngineLimits.greatestMemory
          settings.engineMaxMemoryGb = false ↔
      (⟨settings.engineTimeoutMinutes, settings.engineMaxMemoryGb⟩ : EngineLimits).faults = []) ∧
    (settings.validate = .ok () →
      ∃ o, Orchestrator.ofSettings settings = .ok o ∧
        o.thresholds = ⟨settings.mergeThresholdLow, settings.mergeThresholdHigh⟩ ∧
        o.defaultLimits = ⟨settings.engineTimeoutMinutes, settings.engineMaxMemoryGb⟩ ∧
        ∀ submission : Submission, submission.limits = none →
          (o.start submission).FailsOnly fun e => ¬ e.TellsFaults) := by
  refine ⟨(thresholdsBroken_iff _ _).trans (Thresholds.validate_ok_iff _).symm,
    (EngineLimits.faults_eq_nil_iff settings.limits).symm, fun hvalid => ?_⟩
  refine ⟨settings.orchestrator, ofSettings_orchestrator hvalid, rfl, rfl, ?_⟩
  intro submission hnone
  apply Orchestrator.start_quiet
  rw [hnone]
  exact limits_faults hvalid

/-- Settings at the ends of all ranges. Minus zero is a lower threshold, too. -/
def extremeSettings : Settings :=
  { engineTimeoutMinutes := EngineLimits.greatestTimeout
    engineMaxMemoryGb := EngineLimits.greatestMemory
    mergeThresholdLow := { Binary64.zero with negative := true }
    mergeThresholdHigh := .one }

theorem extremeSettings_work :
    extremeSettings.validate = .ok () ∧
      ∃ o, Orchestrator.ofSettings extremeSettings = .ok o ∧
        o.thresholds = ⟨extremeSettings.mergeThresholdLow, .one⟩ ∧
        o.defaultLimits = ⟨30, 16⟩ ∧
        ∀ submission : Submission, submission.limits = none →
          (o.start submission).FailsOnly fun e => ¬ e.TellsFaults := by
  have hvalid : extremeSettings.validate = .ok () := by decide +kernel
  exact ⟨hvalid, (validated_settings_work extremeSettings).2.2 hvalid⟩

end Settings

end ScanFlow
