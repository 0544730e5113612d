import Mathlib.Data.List.Basic
import ScanFlow.Http.ErrorReport
import ScanFlow.Proofs.Outcome

/-!
Which errors are shown with their details in production.

The settings take the name of the environment from `ENVIRONMENT`, or else from `APP_ENV`, while
responses look at `ENVIRONMENT` alone. Where that is set, both agree in every spelling of the
name. Where only `APP_ENV` says that this is production, the settings know it and the responses
do not; details are then hidden for faults of the server only.
-/

namespace ScanFlow

/-! ### The environment of the settings -/

namespace Settings

variable {vars : Variables} {settings : Settings}

/-- Settings that have been read have been checked, and nothing was changed after that. -/
theorem ofVariables_eq_ok (h : ofVariables vars = .ok settings) :
    read vars = .ok settings ∧ settings.validate = .ok () := by
  obtain ⟨candidate, hread, h⟩ := ok_of_bind h
  obtain ⟨_, hvalid, h⟩ := ok_of_bind h
  cases h
  exact ⟨hread, hvalid⟩

theorem read_environment (h : read vars = .ok settings) :
    settings.environment = environmentOf vars := by
  unfold read at h
  obtain ⟨_, -, h⟩ := ok_of_bind h
  obtain ⟨_, -, h⟩ := ok_of_bind h
  obtain ⟨_, -, h⟩ := ok_of_bind h
  obtain ⟨_, -, h⟩ := ok_of_bind h
  obtain ⟨_, -, h⟩ := ok_of_bind h
  obtain ⟨_, -, h⟩ := ok_of_bind h
  cases h
  rfl

/-- This is production if the first variable that is set says so. -/
theorem isProduction_ofVariables (h : ofVariables vars = .ok settings) :
    settings.isProduction =
      ((vars "ENVIRONMENT").or (vars "APP_ENV")).any isProductionName := by
  unfold isProduction
  rw [read_environment (ofVariables_eq_ok h).1, environmentOf]
  cases (vars "ENVIRONMENT").or (vars "APP_ENV") with
  | none => decide
  | some word => rfl

end Settings

end ScanFlow

namespace ScanFlow.Http

def Response.field? (response : Response) (name : String) : Option Json :=
  match response.content with
  | .json (.object members) => Json.lookup? members name
  | _ => none

/-- A report shows the details that it has. -/
theorem ErrorReport.response_details (report : ErrorReport) :
    report.response.field? "details" = report.details.map .string := by
  obtain ⟨status, error, details, code, recoverable⟩ := report
  cases details <;> rfl

/-- Details are shown for faults of the client, where the responses see no production. -/
theorem details_eq_none_iff (vars : Variables) (e : ServiceError) :
    (ErrorReport.ofError vars e).response.field? "details" = none ↔
      hidesDetails vars = true ∨ isServerFault e.status = true := by
  rw [ErrorReport.response_details, Option.map_eq_none_iff]
  unfold ErrorReport.ofError
  dsimp only
  rw [← Bool.or_eq_true]
  split
  · rename_i hhidden
    simp [hhidden]
  · rename_i hshown
    simp [hshown]

/-- In production, the responses know that they are exactly if the first variable is set. -/
theorem hidesDetails_iff {vars : Variables} {settings : Settings}
    (hread : Settings.ofVariables vars = .ok settings)
    (hproduction : settings.isProduction = true) :
    hidesDetails vars = true ↔ (vars "ENVIRONMENT").isSome = true := by
  rw [Settings.isProduction_ofVariables hread] at hproduction
  unfold hidesDetails
  cases hset : vars "ENVIRONMENT" with
  | none => simp
  | some word =>
    rw [hset] at hproduction
    simpa using hproduction

/-- **In production, details are hidden if `ENVIRONMENT` says so.** For all variables from which
settings can be read that are those of production: no error of any kind is answered with details
if and only if `ENVIRONMENT` is set. Where only `APP_ENV` is, every error is answered with details
unless it is the fault of the server. -/
theorem production_hides_details_iff {vars : Variables} {settings : Settings}
    (hread : Settings.ofVariables vars = .ok settings)
    (hproduction : settings.isProduction = true) :
    ((∀ e : ServiceError, (ErrorReport.ofError vars e).response.field? "details" = none) ↔
      (vars "ENVIRONMENT").isSome = true) ∧
    ∀ e : ServiceError, (ErrorReport.ofError vars e).response.field? "details" = none ↔
      (vars "ENVIRONMENT").isSome = true ∨ isServerFault e.status = true := by
  have hiff := hidesDetails_iff hread hproduction
  have hone : ∀ e : ServiceError, (ErrorReport.ofError vars e).response.field? "details" = none ↔
      (vars "ENVIRONMENT").isSome = true ∨ isServerFault e.status = true := by
    intro e
    rw [details_eq_none_iff, hiff]
  refine ⟨⟨fun hall => ?_, fun hset e => (hone e).mpr (Or.inl hset)⟩, hone⟩
  -- What is not there is not the fault of the server.
  rcases (hone (.notFound "")).mp (hall _) with hset | hserver
  · exact hset
  · cases hserver

def only (name value : String) : Variables := fun other => if other = name then some value else none

theorem named_production_hides_details :
    Settings.ofVariables (only "ENVIRONMENT" "Production") = .ok { environment := "Production" } ∧
      ({ environment := "Production" } : Settings).isProduction = true ∧
      ∀ e : ServiceError, (ErrorReport.ofError (only "ENVIRONMENT" "Production")
        e).response.field? "details" = none := by
  have hread : Settings.ofVariables (only "ENVIRONMENT" "Production") =
      .ok { environment := "Production" } := by decide +kernel
  have hproduction : ({ environment := "Production" } : Settings).isProduction = true := by
    decide +kernel
  exact ⟨hread, hproduction, (production_hides_details_iff hread hproduction).1.mpr rfl⟩

/-- Where only `APP_ENV` says that this is production, a client is shown the detailed text. -/
theorem app_production_shows_details :
    Settings.ofVariables (only "APP_ENV" "production") = .ok { environment := "production" } ∧
      ({ environment := "production" } : Settings).isProduction = true ∧
      (ErrorReport.ofError (only "APP_ENV" "production")
        (.notFound "workflow 7")).response.field? "details" =
          some (.string "Not found: workflow 7") := by
  refine ⟨by decide +kernel, by decide +kernel, ?_⟩
  rw [ErrorReport.response_details]
  rfl

end ScanFlow.Http
