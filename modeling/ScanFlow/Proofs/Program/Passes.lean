import ScanFlow.Proofs.Program.Cut

/-!
Programs that can be brought to a goal.

What every run of a program leads to is one question, and what some run of it leads to is the
other one. A program passes a goal if some of its calls, each in an environment of one's choice,
lead there; what it would do next is left open. In a flight, such a program can be brought to its
goal while all others wait.
-/

namespace ScanFlow

namespace Program

variable {α β : Type} {goal : System → Prop} {system : System}

/-- The program can be cut where the system meets the goal. -/
def Passes (goal : System → Prop) (program : Program α) (system : System) : Prop :=
  ∃ mid, program.Cut system mid ∧ goal mid

/-- The goal is met already. -/
theorem passes_here (program : Program α) (h : goal system) : program.Passes goal system :=
  ⟨system, .here program system, h⟩

theorem passes_ask (env : Environment) {request : Call β} {next : β → Program α}
    (h : (next (request.perform env system).1).Passes goal (request.perform env system).2) :
    (ask request >>= next).Passes goal system := by
  obtain ⟨mid, hcut, hgoal⟩ := h
  exact ⟨mid, .later request next env hcut, hgoal⟩

/-- What the first part of a program passes, the whole of it passes. -/
theorem Passes.bind {program : Program β} (h : program.Passes goal system)
    (next : β → Program α) : (program >>= next).Passes goal system := by
  obtain ⟨mid, hcut, hgoal⟩ := h
  refine ⟨mid, ?_, hgoal⟩
  clear hgoal
  induction hcut with
  | here program system => exact .here _ system
  | later request rest env _ ih => exact .later request _ env ih

theorem Passes.attempt {program : Program α} (h : program.Passes goal system) :
    program.attempt.Passes goal system := by
  obtain ⟨mid, hcut, hgoal⟩ := h
  refine ⟨mid, ?_, hgoal⟩
  clear hgoal
  induction hcut with
  | here program system => exact .here _ system
  | later request rest env _ ih => exact .later request _ env ih

/-- The first part of a program is run to its end before the goal is met. -/
theorem passes_bind {program : Program β} {next : β → Program α} {b : β} {between : System}
    (hruns : program.Runs system (.ok b) between) (h : (next b).Passes goal between) :
    (program >>= next).Passes goal system := by
  obtain ⟨mid, hcut, hgoal⟩ := h
  refine ⟨mid, ?_, hgoal⟩
  clear hgoal
  generalize hresult : (Except.ok b : Except ServiceError β) = outcome at hruns
  induction hruns with
  | done outcome system =>
    subst hresult
    exact hcut
  | call request rest env _ ih => exact .later request _ env (ih hcut hresult)

/-- Whatever the first part of a program comes to, the rest of it passes the goal. -/
theorem Through.passes_bind {program : Program β} {next : β → Program α} (env : Environment)
    (h : program.Through (fun _ => True) system fun outcome between =>
      ∃ b, outcome = .ok b ∧ (next b).Passes goal between) :
    (program >>= next).Passes goal system := by
  have hruns := program.runs_run env system
  obtain ⟨b, houtcome, hpasses⟩ := h.runs hruns
  rw [houtcome] at hruns
  exact Program.passes_bind hruns hpasses

/-- The goal is met at the end. -/
theorem Runs.passes {program : Program α} {outcome : Except ServiceError α} {final : System}
    (hruns : program.Runs system outcome final) (h : goal final) :
    program.Passes goal system := by
  refine ⟨final, ?_, h⟩
  clear h
  induction hruns with
  | done outcome system => exact .here _ system
  | call request next env _ ih => exact .later request next env ih

/-- Some calls are made in a row before the goal is met. -/
theorem passes_solo {env : Environment} {n : Nat} {program rest : Program α} {mid : System}
    (hsolo : program.solo env n system = (rest, mid)) (h : rest.Passes goal mid) :
    program.Passes goal system := by
  induction n generalizing program system with
  | zero =>
    cases hsolo
    exact h
  | succ n ih =>
    cases program with
    | done outcome =>
      cases hsolo
      exact h
    | call request next =>
      obtain ⟨final, hcut, hgoal⟩ := ih hsolo
      exact ⟨final, .later request next env hcut, hgoal⟩

/-- What no call changes is the same wherever a program is cut. -/
theorem Cut.preserves_store {program : Program α} {mid : System} (hcut : program.Cut system mid)
    (invariant : Store → Prop)
    (hstep : ∀ {β : Type} (operation : Store.Operation β) (now : Timestamp) (store : Store),
      invariant store → invariant (operation.perform now store).2)
    (h : invariant system.store) : invariant mid.store := by
  induction hcut with
  | here program system => exact h
  | later request next env _ ih => exact ih (request.preserves_store env invariant hstep h)

end Program

/-- A program can be brought to its goal while all others wait. -/
theorem Flight.leadsTo_passes {flight : Flight} {index : Nat} {program : Program Unit}
    {goal : System → Prop} (h : flight.programs[index]? = some program)
    (hpasses : program.Passes goal flight.system) :
    ∃ later, flight.LeadsTo later ∧ goal later.system ∧
      ∀ other, other ≠ index → later.programs[other]? = flight.programs[other]? := by
  obtain ⟨mid, hcut, hgoal⟩ := hpasses
  generalize hsystem : flight.system = system at hcut
  induction hcut generalizing flight with
  | here program system => exact ⟨flight, ⟨[], rfl⟩, hsystem ▸ hgoal, fun _ _ => rfl⟩
  | later request next env _ ih =>
    subst hsystem
    have hturn := turn_call env h
    have hnext : (flight.turn index env).programs[index]? =
        some (next (request.perform env flight.system).1) := by
      rw [hturn]
      exact List.getElem?_set_self (List.getElem?_eq_some_iff.mp h).1
    obtain ⟨later, ⟨schedule, hschedule⟩, hlater, hothers⟩ := ih hnext hgoal (by rw [hturn])
    refine ⟨later, ⟨(index, env) :: schedule, hschedule⟩, hlater, ?_⟩
    intro other hne
    rw [hothers other hne, hturn]
    exact List.getElem?_set_ne (Ne.symm hne)

end ScanFlow
