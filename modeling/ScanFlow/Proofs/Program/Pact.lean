import ScanFlow.Proofs.Program.Cut

/-!
Rules for programs that learn from the answers to their calls.

An accord speaks of the scene between two calls. A pact speaks of the whole system, but only
of what a program knows about it: facts that hold whenever the program comes to make a call,
whatever others have done since. What a call is granted may depend on what is known before,
on its answer, and on what is known afterwards. A program honors a pact if all its calls are
granted, on every system on which its knowledge holds.
-/

namespace ScanFlow

/-- What programs with knowledge in `γ` may take for granted, and what they are granted. -/
structure Pact (γ : Type) where
  holds : γ → System → Prop
  grants : {β : Type} → Call β → β → γ → γ → Prop

namespace Program

variable {γ α β : Type}

/-- All calls of the program are granted, and its outcome satisfies the postcondition. -/
def Honors (pact : Pact γ) (program : Program α) (known : γ)
    (post : Except ServiceError α → γ → Prop) : Prop :=
  match program with
  | .done outcome => post outcome known
  | .call request next =>
    ∀ system env, pact.holds known system →
      ∃ learnt, pact.grants request (request.perform env system).1 known learnt ∧
        (next (request.perform env system).1).Honors pact learnt post

variable {pact : Pact γ} {known : γ} {post : Except ServiceError α → γ → Prop}

def Onwards (pact : Pact γ) (next : β → Program α) (post : Except ServiceError α → γ → Prop) :
    Except ServiceError β → γ → Prop
  | .ok b, known => (next b).Honors pact known post
  | .error e, known => post (.error e) known

theorem honors_mono {program : Program α} {weaker : Except ServiceError α → γ → Prop}
    (h : program.Honors pact known post)
    (himp : ∀ outcome known, post outcome known → weaker outcome known) :
    program.Honors pact known weaker := by
  induction program generalizing known with
  | done outcome => exact himp _ _ h
  | call request next ih =>
    intro system env hholds
    obtain ⟨learnt, hgrants, hrest⟩ := h system env hholds
    exact ⟨learnt, hgrants, ih _ hrest⟩

theorem honors_bind (program : Program β) (next : β → Program α) :
    (program >>= next).Honors pact known post ↔
      program.Honors pact known (Onwards pact next post) := by
  induction program generalizing known with
  | done outcome =>
    cases outcome with
    | ok b => exact Iff.rfl
    | error e => exact Iff.rfl
  | call request rest ih =>
    refine forall₃_congr fun system env _ => ?_
    exact exists_congr fun learnt => and_congr_right fun _ => ih _

theorem honors_attempt (program : Program α)
    {post : Except ServiceError (Except ServiceError α) → γ → Prop} :
    program.attempt.Honors pact known post ↔
      program.Honors pact known fun outcome => post (.ok outcome) := by
  induction program generalizing known with
  | done outcome => exact Iff.rfl
  | call request rest ih =>
    refine forall₃_congr fun system env _ => ?_
    exact exists_congr fun learnt => and_congr_right fun _ => ih _

/-- A program whose calls are all granted, whatever is answered to them, honors the pact. -/
theorem honors_of_only {allowed : {β : Type} → Call β → Prop} {program : Program α}
    (honly : program.Only allowed)
    (hgrants : ∀ {β : Type} (call : Call β) (answer : β), allowed call →
      pact.grants call answer known known) :
    program.Honors pact known fun _ learnt => learnt = known := by
  induction program with
  | done outcome => rfl
  | call request next ih => exact fun _ _ _ => ⟨known, hgrants request _ honly.1, ih _ (honly.2 _)⟩

/-- First a program whose calls are all granted, whatever is answered to them. -/
theorem honors_after {allowed : {β : Type} → Call β → Prop} {program : Program β}
    {next : β → Program α} (honly : program.Only allowed)
    (hgrants : ∀ {β : Type} (call : Call β) (answer : β), allowed call →
      pact.grants call answer known known)
    (hnext : ∀ b, (next b).Honors pact known post) (herror : ∀ e, post (.error e) known) :
    (program >>= next).Honors pact known post := by
  rw [honors_bind]
  apply honors_mono (honors_of_only honly hgrants)
  rintro outcome _ rfl
  cases outcome with
  | ok b => exact hnext b
  | error e => exact herror e

def Obeys (pact : Pact γ) (program : Program α) : Prop :=
  ∀ known, program.Honors pact known fun _ _ => True

theorem obeys_bind {program : Program β} {next : β → Program α} (hfirst : program.Obeys pact)
    (hnext : ∀ b, (next b).Obeys pact) : (program >>= next).Obeys pact := by
  intro known
  rw [honors_bind]
  apply honors_mono (hfirst known)
  intro outcome learnt _
  cases outcome with
  | ok b => exact hnext b learnt
  | error e => trivial

theorem obeys_attempt {program : Program α} (h : program.Obeys pact) :
    program.attempt.Obeys pact := by
  intro known
  rw [honors_attempt]
  exact h known

theorem obeys_of_only {allowed : {β : Type} → Call β → Prop} {program : Program α}
    (honly : program.Only allowed)
    (hgrants : ∀ {β : Type} (call : Call β) (answer : β) (known : γ), allowed call →
      pact.grants call answer known known) : program.Obeys pact :=
  fun known => honors_mono (honors_of_only honly fun call answer => hgrants call answer known)
    fun _ _ _ => trivial

theorem honors_clock {post : Except ServiceError Timestamp → γ → Prop}
    (h : ∀ now, ∃ learnt, pact.grants .clock now known learnt ∧ post (.ok now) learnt) :
    clock.Honors pact known post :=
  fun _ env _ => h env.now

theorem honors_reserve {count : Nat} {post : Except ServiceError Nat → γ → Prop}
    (h : ∀ system, pact.holds known system → ∃ learnt,
      pact.grants (.reserve count) system.nextNumber known learnt ∧
        post (.ok system.nextNumber) learnt) :
    (reserve count).Honors pact known post :=
  fun system _ hholds => h system hholds

/-- One call of the store. -/
theorem honors_store {operation : Store.Operation α}
    (h : ∀ system now, pact.holds known system →
      ∃ learnt, pact.grants (.store operation) (operation.perform now system.store).1 known learnt ∧
        post (.ok (operation.perform now system.store).1) learnt) :
    (store operation).Honors pact known post :=
  fun system env hholds => h system env.now hholds

theorem honors_storeOr {operation : Store.Operation (Except StoreError α)}
    (h : ∀ system now, pact.holds known system →
      ∃ learnt, pact.grants (.store operation) (operation.perform now system.store).1 known learnt ∧
        post ((operation.perform now system.store).1.mapError fun e => .ofCauses [e.message])
          learnt) :
    (storeOr operation).Honors pact known post := by
  rw [storeOr, honors_bind]
  apply honors_store
  intro system now hholds
  obtain ⟨learnt, hgrants, hpost⟩ := h system now hholds
  refine ⟨learnt, hgrants, ?_⟩
  cases hanswer : (operation.perform now system.store).1 with
  | ok a =>
    rw [hanswer] at hpost
    exact hpost
  | error e =>
    rw [hanswer] at hpost
    exact hpost

/-- A record that must be there. -/
theorem honors_require {operation : Store.Operation (Option α)} {missing : ServiceError}
    (h : ∀ system now, pact.holds known system →
      ∃ learnt, pact.grants (.store operation) (operation.perform now system.store).1 known learnt ∧
        (∀ a, (operation.perform now system.store).1 = some a → post (.ok a) learnt) ∧
        ((operation.perform now system.store).1 = none → post (.error missing) learnt)) :
    (require operation missing).Honors pact known post := by
  rw [require, honors_bind]
  apply honors_store
  intro system now hholds
  obtain ⟨learnt, hgrants, hsome, hnone⟩ := h system now hholds
  refine ⟨learnt, hgrants, ?_⟩
  cases hanswer : (operation.perform now system.store).1 with
  | some a => exact hsome a hanswer
  | none => exact hnone hanswer

end Program

/-! ### Whole runs -/

def Pact.Sound {γ : Type} (pact : Pact γ) : Prop :=
  ∀ {β : Type} (call : Call β) (env : Environment) (system : System) (known learnt : γ),
    pact.holds known system → pact.grants call (call.perform env system).1 known learnt →
      pact.holds learnt (call.perform env system).2

/-- A program that honors a pact ends with what it knows, and with whatever else holds of its
knowledge from call to call. -/
theorem Program.Honors.runs_upholding {γ α : Type} {pact : Pact γ} {program : Program α}
    {known : γ} {post : Except ServiceError α → γ → Prop} {system final : System}
    {outcome : Except ServiceError α} (invariant : γ → System → Prop)
    (hholds : ∀ known system, invariant known system → pact.holds known system)
    (hstep : ∀ {β : Type} (call : Call β) (env : Environment) (system : System)
      (known learnt : γ), invariant known system →
        pact.grants call (call.perform env system).1 known learnt →
          invariant learnt (call.perform env system).2)
    (h : program.Honors pact known post) (hstart : invariant known system)
    (hruns : program.Runs system outcome final) :
    ∃ learnt, invariant learnt final ∧ post outcome learnt := by
  induction hruns generalizing known with
  | done outcome system => exact ⟨known, hstart, h⟩
  | call request next env rest ih =>
    obtain ⟨learnt, hgrants, hnext⟩ := h _ env (hholds _ _ hstart)
    exact ih hnext (hstep request env _ known learnt hstart hgrants)

/-- A program that honors a sound pact ends with what it knows. -/
theorem Program.Honors.runs {γ α : Type} {pact : Pact γ} {program : Program α} {known : γ}
    {post : Except ServiceError α → γ → Prop} {system final : System}
    {outcome : Except ServiceError α} (hsound : pact.Sound)
    (h : program.Honors pact known post) (hholds : pact.holds known system)
    (hruns : program.Runs system outcome final) :
    ∃ learnt, pact.holds learnt final ∧ post outcome learnt :=
  h.runs_upholding pact.holds (fun _ _ => id) hsound hholds hruns

/-! ### Flights -/

/-- The pact suffices for a pool of programs: what each of them knows holds of the system, and
a granted call leads from one common state to the next. -/
structure Pact.Upholds {γ : Type} (pact : Pact γ)
    (pool : List Event → System → List γ → Prop) : Prop where
  holds : ∀ {history system knowns known}, pool history system knowns → known ∈ knowns →
    pact.holds known system
  steps : ∀ {β : Type} {call : Call β} {env : Environment} {history} {system : System}
      {knowns : List γ} {index : Nat} {known learnt : γ},
    pool history system knowns → knowns[index]? = some known →
      pact.grants call (call.perform env system).1 known learnt →
        pool (history ++ [⟨call, (call.perform env system).1⟩]) (call.perform env system).2
          (knowns.set index learnt)

/-- The programs of a flight honor the pact from what they know now, and end as the postcondition
says. -/
structure Flight.Bound {γ : Type} (pact : Pact γ) (pool : List Event → System → List γ → Prop)
    (post : γ → Prop) (flight : Flight) (knowns : List γ) : Prop where
  pool : pool flight.history flight.system knowns
  length : knowns.length = flight.programs.length
  honors : ∀ (index : Nat) program known, flight.programs[index]? = some program →
    knowns[index]? = some known → program.Honors pact known fun _ learnt => post learnt

namespace Flight

variable {γ : Type} {pact : Pact γ} {pool : List Event → System → List γ → Prop} {post : γ → Prop}
  {flight : Flight} {knowns : List γ}

theorem Bound.turn (hupholds : pact.Upholds pool) (h : flight.Bound pact pool post knowns)
    (index : Nat) (env : Environment) :
    ∃ learnt, (flight.turn index env).Bound pact pool post learnt := by
  rcases flight.turn_cases index env with hsame | ⟨β, request, next, hnext⟩
  · rw [hsame]
    exact ⟨knowns, h⟩
  · have hprogram := (List.getElem?_eq_some_iff.mp hnext).1
    have hbound : index < knowns.length := by
      rw [h.length]
      exact hprogram
    have hknown : knowns[index]? = some knowns[index] := List.getElem?_eq_getElem hbound
    have hholds := hupholds.holds h.pool (List.getElem_mem hbound)
    obtain ⟨learnt, hgrants, hrest⟩ := h.honors index _ _ hnext hknown _ env hholds
    rw [turn_call env hnext]
    refine ⟨knowns.set index learnt, hupholds.steps h.pool hknown hgrants, by simp [h.length], ?_⟩
    intro other program known hother hlearnt
    by_cases hsame : index = other
    · subst hsame
      rw [List.getElem?_set_self hbound] at hlearnt
      rw [List.getElem?_set_self hprogram] at hother
      cases hother
      cases hlearnt
      exact hrest
    · rw [List.getElem?_set_ne hsame] at hlearnt hother
      exact h.honors other program known hother hlearnt

/-- Programs that honor the pact stay in their pool, whatever the schedule. -/
theorem Bound.fly (hupholds : pact.Upholds pool) (h : flight.Bound pact pool post knowns)
    (schedule : List (Nat × Environment)) :
    ∃ learnt, (flight.fly schedule).Bound pact pool post learnt := by
  apply fly_preserves (fun flight => ∃ knowns, flight.Bound pact pool post knowns) _ schedule
    ⟨knowns, h⟩
  rintro flight index env ⟨knowns, hbound⟩
  exact hbound.turn hupholds index env

/-- Where every program is done, all of them have come to what was promised. -/
theorem Bound.landed (h : flight.Bound pact pool post knowns) (hlanded : flight.landed = true) :
    ∀ known ∈ knowns, post known := by
  intro known member
  obtain ⟨index, hbound, hknown⟩ := List.getElem_of_mem member
  have hprogram : index < flight.programs.length := h.length ▸ hbound
  have hhonors := h.honors index _ known (List.getElem?_eq_getElem hprogram)
    (hknown ▸ List.getElem?_eq_getElem hbound)
  have hdone := List.all_eq_true.mp hlanded _ (List.getElem_mem hprogram)
  cases hends : flight.programs[index] with
  | done outcome =>
    rw [hends] at hhonors
    exact hhonors
  | call request next =>
    rw [hends] at hdone
    cases hdone

end Flight

end ScanFlow
