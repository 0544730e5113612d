import ScanFlow.Orchestrator.Basic

/-!
The errors that a program can end with.

A program may be answered anything, by any system, in any environment, and with others running
beside it. What all its errors have in common can still be read off the program, one rule for
each way to build it.
-/

namespace ScanFlow.Program

variable {α β : Type} {allowed : ServiceError → Prop}

/-- Whatever is answered to its calls, the program fails only with errors of the allowed kind. -/
def FailsOnly (allowed : ServiceError → Prop) (program : Program α) : Prop :=
  match program with
  | .done outcome => ∀ e, outcome = .error e → allowed e
  | .call _ next => ∀ answer, (next answer).FailsOnly allowed

theorem failsOnly_pure (a : α) : (pure a : Program α).FailsOnly allowed := nofun

theorem failsOnly_fail {e : ServiceError} (h : allowed e) :
    (fail e : Program α).FailsOnly allowed := by
  rintro _ ⟨⟩
  exact h

theorem failsOnly_ofExcept {outcome : Except ServiceError α}
    (h : ∀ e, outcome = .error e → allowed e) : (ofExcept outcome).FailsOnly allowed := h

theorem failsOnly_bind {program : Program β} {next : β → Program α}
    (hfirst : program.FailsOnly allowed) (hnext : ∀ b, (next b).FailsOnly allowed) :
    (program >>= next).FailsOnly allowed := by
  induction program with
  | done outcome =>
    cases outcome with
    | ok b => exact hnext b
    | error e =>
      rintro _ ⟨⟩
      exact hfirst e rfl
  | call request rest ih => exact fun answer => ih answer (hfirst answer)

/-- An attempt does not fail, but what follows it may fail with its error. -/
theorem failsOnly_attempt {program : Program β} {next : Except ServiceError β → Program α}
    (hfirst : program.FailsOnly allowed) (hok : ∀ b, (next (.ok b)).FailsOnly allowed)
    (herror : ∀ e, allowed e → (next (.error e)).FailsOnly allowed) :
    (program.attempt >>= next).FailsOnly allowed := by
  induction program with
  | done outcome =>
    cases outcome with
    | ok b => exact hok b
    | error e => exact herror e (hfirst e rfl)
  | call request rest ih => exact fun answer => ih answer (hfirst answer)

/-! ### Calls with the errors of services -/

theorem failsOnly_ask (request : Call α) : (ask request).FailsOnly allowed :=
  fun answer => failsOnly_pure answer

theorem failsOnly_newId : newId.FailsOnly allowed :=
  failsOnly_bind (failsOnly_ask _) fun _ => failsOnly_pure _

theorem failsOnly_storeOr {operation : Store.Operation (Except StoreError α)}
    (h : ∀ causes, allowed (.ofCauses causes)) : (storeOr operation).FailsOnly allowed := by
  apply failsOnly_bind (failsOnly_ask _)
  intro answer
  cases answer with
  | ok a => exact failsOnly_pure a
  | error e => exact failsOnly_fail (h _)

theorem failsOnly_require {operation : Store.Operation (Option α)} {missing : ServiceError}
    (h : allowed missing) : (require operation missing).FailsOnly allowed := by
  apply failsOnly_bind (failsOnly_ask _)
  intro answer
  cases answer with
  | some a => exact failsOnly_pure a
  | none => exact failsOnly_fail h

theorem failsOnly_blobUrl {key : String} {lifetime : Nat}
    (h : ∀ e, allowed (.ofBlobError e)) : (blobUrl key lifetime).FailsOnly allowed := by
  apply failsOnly_bind (failsOnly_ask _)
  intro answer
  cases answer with
  | ok url => exact failsOnly_pure url
  | error e => exact failsOnly_fail (h e)

theorem failsOnly_sendRequest {request : EngineRequest} (h : ∀ text, allowed (.broker text)) :
    (sendRequest request).FailsOnly allowed := by
  apply failsOnly_bind (failsOnly_ask _)
  intro answer
  cases answer with
  | ok id => exact failsOnly_pure id
  | error e => exact failsOnly_fail (h _)

theorem failsOnly_forM {items : List β} {action : β → Program PUnit}
    (h : ∀ item ∈ items, (action item).FailsOnly allowed) :
    (items.forM action).FailsOnly allowed := by
  induction items with
  | nil => exact failsOnly_pure _
  | cons item rest ih =>
    refine failsOnly_bind (h item List.mem_cons_self) fun _ => ?_
    exact ih fun other hother => h other (List.mem_cons_of_mem item hother)

theorem failsOnly_finish (id : Uuid) (status : Workflow.Status) :
    (finish id status).FailsOnly allowed :=
  failsOnly_bind (failsOnly_ask _) fun _ => failsOnly_pure _

end ScanFlow.Program
