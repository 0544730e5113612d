import ScanFlow.Proofs.Program.Whole

/-!
Programs that run beside one another, their calls in any order.

A flight is a system with several programs on it. A schedule names, turn by turn, the
program whose next call is made and the environment that the call meets. Nothing is
assumed of schedules: a program may be left waiting at any call for as long as the others
like. A flight has landed when every program has come to its end.

Programs that each keep an accord keep it together, if what one of them grants is enough
for what the others rely on. What they share is a condition on the scene, on everything
that the programs know, and on the calls made so far.
-/

namespace ScanFlow

structure Event where
  {β : Type}
  call : Call β
  answer : β

/-- Programs on one system, with the calls that they have made so far. -/
structure Flight where
  system : System
  programs : List (Program Unit)
  history : List Event

def Program.isDone {α : Type} : Program α → Bool
  | .done _ => true
  | .call _ _ => false

namespace Flight

def launch (system : System) (programs : List (Program Unit)) : Flight :=
  { system, programs, history := [] }

/-- The next call of one program. A program that is done, or not there, misses its turn. -/
def turn (flight : Flight) (index : Nat) (env : Environment) : Flight :=
  match flight.programs[index]? with
  | some (.call request next) =>
    let outcome := request.perform env flight.system
    { system := outcome.2
      programs := flight.programs.set index (next outcome.1)
      history := flight.history ++ [⟨request, outcome.1⟩] }
  | _ => flight

def fly (flight : Flight) (schedule : List (Nat × Environment)) : Flight :=
  schedule.foldl (fun flight turn => flight.turn turn.1 turn.2) flight

def landed (flight : Flight) : Bool := flight.programs.all Program.isDone

def event? (flight : Flight) (index : Nat) (env : Environment) : Option Event :=
  match flight.programs[index]? with
  | some (.call request _) => some ⟨request, (request.perform env flight.system).1⟩
  | _ => none

def log (flight : Flight) : List (Nat × Environment) → List (Nat × Event)
  | [] => []
  | (index, env) :: rest =>
    ((flight.event? index env).map fun event => (index, event)).toList ++
      (flight.turn index env).log rest

theorem fly_append (flight : Flight) (first second : List (Nat × Environment)) :
    flight.fly (first ++ second) = (flight.fly first).fly second := by
  simp [fly]

theorem turn_call {flight : Flight} {index : Nat} (env : Environment) {β : Type}
    {request : Call β} {next : β → Program Unit}
    (h : flight.programs[index]? = some (.call request next)) :
    flight.turn index env =
      { system := (request.perform env flight.system).2
        programs := flight.programs.set index (next (request.perform env flight.system).1)
        history := flight.history ++ [⟨request, (request.perform env flight.system).1⟩] } := by
  unfold turn
  rw [h]

theorem event?_call {flight : Flight} {index : Nat} (env : Environment) {β : Type}
    {request : Call β} {next : β → Program Unit}
    (h : flight.programs[index]? = some (.call request next)) :
    flight.event? index env = some ⟨request, (request.perform env flight.system).1⟩ := by
  unfold event?
  rw [h]

/-- A turn is a call of some program, or nothing happens in it. -/
theorem event?_cases (flight : Flight) (index : Nat) (env : Environment) :
    flight.turn index env = flight ∧ flight.event? index env = none ∨
      ∃ (β : Type) (request : Call β) (next : β → Program Unit),
        flight.programs[index]? = some (.call request next) := by
  unfold turn event?
  split
  · rename_i β request next h
    exact Or.inr ⟨β, request, next, h⟩
  · exact Or.inl ⟨rfl, rfl⟩

theorem turn_cases (flight : Flight) (index : Nat) (env : Environment) :
    flight.turn index env = flight ∨
      ∃ (β : Type) (request : Call β) (next : β → Program Unit),
        flight.programs[index]? = some (.call request next) :=
  (flight.event?_cases index env).imp_left And.left

/-- What every turn preserves, every schedule preserves. -/
theorem fly_preserves (invariant : Flight → Prop)
    (hturn : ∀ flight index env, invariant flight → invariant (flight.turn index env))
    {flight : Flight} (schedule : List (Nat × Environment)) (h : invariant flight) :
    invariant (flight.fly schedule) := by
  induction schedule generalizing flight with
  | nil => exact h
  | cons first rest ih => exact ih (hturn flight first.1 first.2 h)

/-- Whatever the schedule, programs make only the calls that they are allowed, and what each of
these preserves is preserved. -/
theorem fly_only {allowed : {β : Type} → Call β → Prop} (invariant : System → Prop)
    (hstep : ∀ {β : Type} (call : Call β) (env : Environment) (system : System),
      allowed call → invariant system → invariant (call.perform env system).2)
    {flight : Flight} (honly : ∀ program ∈ flight.programs, program.Only allowed)
    (h : invariant flight.system) (schedule : List (Nat × Environment)) :
    (∀ program ∈ (flight.fly schedule).programs, program.Only allowed) ∧
      invariant (flight.fly schedule).system := by
  refine fly_preserves (fun flight => (∀ program ∈ flight.programs, program.Only allowed) ∧
    invariant flight.system) ?_ schedule ⟨honly, h⟩
  rintro flight index env ⟨honly, h⟩
  rcases flight.turn_cases index env with hsame | ⟨β, request, next, hnext⟩
  · rw [hsame]
    exact ⟨honly, h⟩
  · have hrequest := honly _ (List.mem_of_getElem? hnext)
    rw [turn_call env hnext]
    refine ⟨?_, hstep request env _ hrequest.1 h⟩
    intro program member
    rcases List.mem_or_eq_of_mem_set member with hold | rfl
    · exact honly program hold
    · exact hrequest.2 _

/-- What every call preserves of a scene, every schedule preserves. -/
theorem fly_scene (invariant : Scene → Prop)
    (hmoves : ∀ {β : Type} (call : Call β) env met answer reached,
      call.Moves env met answer reached → invariant met → invariant reached)
    {flight : Flight} {scene : Scene} (schedule : List (Nat × Environment))
    (hshows : flight.system.Shows scene) (h : invariant scene) :
    ∃ reached, (flight.fly schedule).system.Shows reached ∧ invariant reached := by
  apply fly_preserves (fun flight => ∃ scene, flight.system.Shows scene ∧ invariant scene) _
    schedule ⟨scene, hshows, h⟩
  rintro flight index env ⟨met, hmet, hinvariant⟩
  rcases flight.turn_cases index env with hsame | ⟨β, request, next, hnext⟩
  · rw [hsame]
    exact ⟨met, hmet, hinvariant⟩
  · obtain ⟨reached, hmove, hreached⟩ := hmet.perform env request
    rw [turn_call env hnext]
    exact ⟨reached, hreached, hmoves request env met _ reached hmove hinvariant⟩

end Flight

/-- What one program learns leaves the others with what they know. -/
theorem getElem?_set_cases {γ : Type _} {knowns : List γ} {index other : Nat} {learnt found : γ}
    (h : (knowns.set index learnt)[other]? = some found) :
    other = index ∧ found = learnt ∨ other ≠ index ∧ knowns[other]? = some found := by
  by_cases hsame : other = index
  · subst hsame
    obtain ⟨hbound, hget⟩ := List.getElem?_eq_some_iff.mp h
    rw [List.getElem_set_self] at hget
    exact Or.inl ⟨rfl, hget.symm⟩
  · rw [List.getElem?_set_ne (Ne.symm hsame)] at h
    exact Or.inr ⟨hsame, h⟩

/-! ### One program at a time -/

def Program.solo {α : Type} (env : Environment) :
    Nat → Program α → System → Program α × System
  | 0, program, system => (program, system)
  | _ + 1, .done outcome, system => (.done outcome, system)
  | n + 1, .call request next, system =>
    solo env n (next (request.perform env system).1) (request.perform env system).2

theorem Program.bind_assoc {α β γ : Type} (program : Program γ) (first : γ → Program β)
    (second : β → Program α) :
    program >>= first >>= second = program >>= fun c => first c >>= second := by
  induction program with
  | done outcome =>
    cases outcome with
    | ok c => rfl
    | error e => rfl
  | call request next ih => exact congrArg (Program.call request) (funext ih)

theorem Program.solo_ask {α β : Type} (env : Environment) (n : Nat) (request : Call β)
    (next : β → Program α) (system : System) :
    (ask request >>= next).solo env (n + 1) system =
      (next (request.perform env system).1).solo env n (request.perform env system).2 := rfl

theorem Program.solo_clock {α : Type} (env : Environment) (n : Nat)
    (next : Timestamp → Program α) (system : System) :
    (clock >>= next).solo env (n + 1) system = (next env.now).solo env n system := rfl

theorem Program.solo_newId {α : Type} (env : Environment) (n : Nat) (next : Uuid → Program α)
    (system : System) :
    (newId >>= next).solo env (n + 1) system =
      (next (Uuid.generated system.nextNumber)).solo env n
        ((Call.reserve 1).perform env system).2 := rfl

theorem Program.solo_storeOr {α β : Type} {env : Environment} {n : Nat}
    {operation : Store.Operation (Except StoreError β)} {next : β → Program α} {system : System}
    {b : β} (h : ((Call.store operation).perform env system).1 = .ok b) :
    (storeOr operation >>= next).solo env (n + 1) system =
      (next b).solo env n ((Call.store operation).perform env system).2 := by
  change Program.solo env n (Program.bind _ next) _ = _
  rw [h]
  rfl

/-- Enough calls in a row bring a program to its end. -/
theorem Program.solo_isDone {α : Type} (env : Environment) (program : Program α)
    (system : System) : ∃ n, (program.solo env n system).1.isDone = true := by
  induction program generalizing system with
  | done outcome => exact ⟨0, rfl⟩
  | call request next ih =>
    obtain ⟨n, hn⟩ := ih (request.perform env system).1 (request.perform env system).2
    exact ⟨n + 1, hn⟩

namespace Flight

/-- Turns of one program in a row lead where the program leads on its own. -/
theorem fly_replicate (env : Environment) (n : Nat) {flight : Flight} {index : Nat}
    {program : Program Unit} (h : flight.programs[index]? = some program) :
    (flight.fly (List.replicate n (index, env))).system =
        (program.solo env n flight.system).2 ∧
      (flight.fly (List.replicate n (index, env))).programs =
        flight.programs.set index (program.solo env n flight.system).1 := by
  induction n generalizing flight program with
  | zero =>
    obtain ⟨hbound, hget⟩ := List.getElem?_eq_some_iff.mp h
    constructor
    · rfl
    · rw [← hget]
      exact (List.set_getElem_self hbound).symm
  | succ n ih =>
    rw [List.replicate_succ]
    change ((flight.turn index env).fly _).system = _ ∧ ((flight.turn index env).fly _).programs = _
    cases program with
    | done outcome =>
      have hsame : flight.turn index env = flight := by
        unfold turn
        rw [h]
      have hsolo : ∀ n, (Program.done outcome : Program Unit).solo env n flight.system =
          (.done outcome, flight.system) := by
        intro n
        cases n with
        | zero => rfl
        | succ n => rfl
      rw [hsame, hsolo (n + 1), ← hsolo n]
      exact ih h
    | call request next =>
      have hnext : (flight.turn index env).programs[index]? =
          some (next (request.perform env flight.system).1) := by
        rw [turn_call env h]
        exact List.getElem?_set_self (List.getElem?_eq_some_iff.mp h).1
      obtain ⟨hsystem, hprograms⟩ := ih hnext
      rw [turn_call env h] at hsystem hprograms ⊢
      exact ⟨hsystem, hprograms.trans (List.set_set _)⟩

def LeadsTo (flight later : Flight) : Prop := ∃ schedule, flight.fly schedule = later

theorem LeadsTo.trans {flight between later : Flight} (hfirst : flight.LeadsTo between)
    (hsecond : between.LeadsTo later) : flight.LeadsTo later := by
  obtain ⟨first, rfl⟩ := hfirst
  obtain ⟨second, rfl⟩ := hsecond
  exact ⟨first ++ second, fly_append flight first second⟩

/-- A program can be brought on by some of its calls while the others wait. -/
theorem leadsTo_solo {flight : Flight} {index : Nat} {program rest : Program Unit}
    {env : Environment} {n : Nat} {system : System} (h : flight.programs[index]? = some program)
    (hsolo : program.solo env n flight.system = (rest, system)) :
    ∃ later, flight.LeadsTo later ∧ later.system = system ∧
      later.programs = flight.programs.set index rest := by
  obtain ⟨hsystem, hprograms⟩ := fly_replicate env n h
  rw [hsolo] at hsystem hprograms
  exact ⟨_, ⟨_, rfl⟩, hsystem, hprograms⟩

/-- Two programs can be brought on, one after the other, while all others wait. -/
theorem leadsTo_pair {flight : Flight} {i j : Nat} {first second first' second' : Program Unit}
    {env : Environment} {m n : Nat} {between system : System} (hne : i ≠ j)
    (hfirst : flight.programs[i]? = some first) (hsecond : flight.programs[j]? = some second)
    (hsolo : first.solo env m flight.system = (first', between))
    (hnext : second.solo env n between = (second', system)) :
    ∃ later, flight.LeadsTo later ∧ later.system = system ∧
      later.programs[i]? = some first' ∧ later.programs[j]? = some second' := by
  obtain ⟨middle, hmiddle, hsystem, hprograms⟩ := leadsTo_solo hfirst hsolo
  have hwaiting : middle.programs[j]? = some second := by
    rw [hprograms, List.getElem?_set_ne hne]
    exact hsecond
  obtain ⟨later, hlater, hfinal, hlast⟩ := leadsTo_solo hwaiting (hsystem ▸ hnext)
  have hi := (List.getElem?_eq_some_iff.mp hfirst).1
  have hj := (List.getElem?_eq_some_iff.mp hwaiting).1
  refine ⟨later, hmiddle.trans hlater, hfinal, ?_, ?_⟩
  · rw [hlast, List.getElem?_set_ne (Ne.symm hne), hprograms, List.getElem?_set_self hi]
  · rw [hlast, List.getElem?_set_self hj]

/-- All programs but one can be brought to their ends while that one waits. -/
theorem exists_landing_beside (flight : Flight) (env : Environment) (waiting : Nat) :
    ∃ later, flight.LeadsTo later ∧ later.programs[waiting]? = flight.programs[waiting]? ∧
      ∀ (index : Nat) program, index ≠ waiting → later.programs[index]? = some program →
        program.isDone = true := by
  have hprefix : ∀ n, ∃ later, flight.LeadsTo later ∧
      later.programs.length = flight.programs.length ∧
      later.programs[waiting]? = flight.programs[waiting]? ∧
      ∀ (index : Nat) program, index < n → index ≠ waiting →
        later.programs[index]? = some program → program.isDone = true := by
    intro n
    induction n with
    | zero => exact ⟨flight, ⟨[], rfl⟩, rfl, rfl, nofun⟩
    | succ n ih =>
      obtain ⟨between, hbetween, hlength, hwaiting, hdone⟩ := ih
      have hmore : ∀ (index : Nat) program, index < n + 1 → index ≠ n → index ≠ waiting →
          between.programs[index]? = some program → program.isDone = true :=
        fun index program hbound hother => hdone index program (by omega)
      cases hnext : between.programs[n]? with
      | none =>
        refine ⟨between, hbetween, hlength, hwaiting, ?_⟩
        intro index program hbound hne hprogram
        refine hmore index program hbound ?_ hne hprogram
        rintro rfl
        cases hnext.symm.trans hprogram
      | some next =>
        by_cases hsame : n = waiting
        · refine ⟨between, hbetween, hlength, hwaiting, ?_⟩
          intro index program hbound hne
          exact hmore index program hbound (hsame ▸ hne) hne
        · obtain ⟨calls, hcalls⟩ := Program.solo_isDone env next between.system
          obtain ⟨later, hlater, _, hprograms⟩ :=
            leadsTo_solo hnext (Eq.refl (next.solo env calls between.system))
          refine ⟨later, hbetween.trans hlater, by rw [hprograms, List.length_set, hlength], ?_, ?_⟩
          · rw [hprograms, List.getElem?_set_ne hsame, hwaiting]
          · intro index program hbound hne hprogram
            rw [hprograms] at hprogram
            rcases getElem?_set_cases hprogram with ⟨_, rfl⟩ | ⟨hother, hprogram⟩
            · exact hcalls
            · exact hmore index program hbound hother hne hprogram
  obtain ⟨later, hlater, hlength, hwaiting, hdone⟩ := hprefix flight.programs.length
  refine ⟨later, hlater, hwaiting, fun index program hne hprogram => ?_⟩
  have hbound := (List.getElem?_eq_some_iff.mp hprogram).1
  exact hdone index program (hlength ▸ hbound) hne hprogram

/-- A program that needs only calls of its own to end can be the last one to do so. -/
theorem exists_landing_last {flight : Flight} {last : Nat} {program : Program Unit}
    (hlast : flight.programs[last]? = some program) {env : Environment} {n : Nat}
    {after : System → System}
    (hends : ∀ met, ∃ outcome, program.solo env n met = (.done outcome, after met)) :
    ∃ waiting later, flight.LeadsTo waiting ∧ waiting.LeadsTo later ∧ later.landed = true ∧
      later.system = after waiting.system := by
  obtain ⟨waiting, hwaits, hstill, hdone⟩ := flight.exists_landing_beside env last
  obtain ⟨outcome, hsolo⟩ := hends waiting.system
  obtain ⟨later, hlater, hsystem, hprograms⟩ := leadsTo_solo (hstill.trans hlast) hsolo
  refine ⟨waiting, later, hwaits, hlater, List.all_eq_true.mpr fun other hmember => ?_, hsystem⟩
  rw [hprograms] at hmember
  obtain ⟨index, hindex⟩ := List.mem_iff_getElem?.mp hmember
  rcases getElem?_set_cases hindex with ⟨_, rfl⟩ | ⟨hother, hindex⟩
  · rfl
  · exact hdone index other hother hindex

/-- Every flight can land. -/
theorem exists_landing (flight : Flight) (env : Environment) :
    ∃ schedule, (flight.fly schedule).landed = true := by
  obtain ⟨_, ⟨schedule, rfl⟩, hwaiting, hdone⟩ :=
    flight.exists_landing_beside env flight.programs.length
  refine ⟨schedule, List.all_eq_true.mpr ?_⟩
  intro program member
  obtain ⟨index, hprogram⟩ := List.mem_iff_getElem?.mp member
  refine hdone index program ?_ hprogram
  -- There is no program at the place that waits.
  rintro rfl
  rw [hwaiting, List.getElem?_eq_none (Nat.le_refl _)] at hprogram
  cases hprogram

end Flight

/-! ### Programs that keep an accord together -/

variable {γ : Type}

/-- The accord suffices for a pool of programs: everyone may rely on the present scene, a
granted call leads from one common state to the next, and it disturbs none of the others. -/
structure Accord.Upholds (accord : Accord γ) (pool : List Event → Scene → List γ → Prop) :
    Prop where
  starts : ∀ {history scene knowns known}, pool history scene knowns → known ∈ knowns →
    accord.rely known scene scene
  steps : ∀ {β : Type} {call : Call β} {env answer history met reached} {knowns : List γ}
      {index : Nat} {known learnt : γ},
    pool history met knowns → knowns[index]? = some known →
      call.Moves env met answer reached → accord.grants call known met learnt reached →
        pool (history ++ [⟨call, answer⟩]) reached (knowns.set index learnt)
  spares : ∀ {β : Type} {call : Call β} {env answer history met reached} {knowns : List γ}
      {index other : Nat} {known learnt rival : γ} {since},
    pool history met knowns → knowns[index]? = some known →
      call.Moves env met answer reached → accord.grants call known met learnt reached →
        other ≠ index → knowns[other]? = some rival → accord.rely rival since met →
          accord.rely rival since reached

/-- The programs of a flight keep the accord from what they know now, and end as the
postcondition says. -/
structure Flight.Joined (accord : Accord γ) (pool : List Event → Scene → List γ → Prop)
    (post : γ → Prop) (flight : Flight) (scene : Scene) (knowns : List γ) : Prop where
  shows : flight.system.Shows scene
  pool : pool flight.history scene knowns
  length : knowns.length = flight.programs.length
  keeps : ∀ (index : Nat) program known, flight.programs[index]? = some program →
    knowns[index]? = some known → ∃ since, accord.rely known since scene ∧
      program.Keeps accord known since fun _ known _ => post known

namespace Flight

variable {accord : Accord γ} {pool : List Event → Scene → List γ → Prop} {post : γ → Prop}
  {flight : Flight} {scene : Scene} {knowns : List γ}

theorem joined_launch {system : System} {programs : List (Program Unit)}
    (hupholds : accord.Upholds pool) (hshows : system.Shows scene) (hpool : pool [] scene knowns)
    (hlength : knowns.length = programs.length)
    (hkeeps : ∀ (index : Nat) program known, programs[index]? = some program →
      knowns[index]? = some known → program.Keeps accord known scene fun _ known _ => post known) :
    (launch system programs).Joined accord pool post scene knowns where
  shows := hshows
  pool := hpool
  length := hlength
  keeps := by
    intro index program known hprogram hknown
    exact ⟨scene, hupholds.starts hpool (List.mem_of_getElem? hknown),
      hkeeps index program known hprogram hknown⟩

/-- A call of one program is granted to it, and leaves all of them joined. -/
theorem Joined.call (hupholds : accord.Upholds pool)
    (h : flight.Joined accord pool post scene knowns) {index : Nat} (env : Environment) {β : Type}
    {request : Call β} {next : β → Program Unit}
    (hnext : flight.programs[index]? = some (.call request next)) :
    ∃ known learnt reached, knowns[index]? = some known ∧
      request.Moves env scene (request.perform env flight.system).1 reached ∧
        accord.grants request known scene learnt reached ∧
          (flight.turn index env).Joined accord pool post reached (knowns.set index learnt) := by
  have hbound : index < knowns.length := by
    rw [h.length]
    exact (List.getElem?_eq_some_iff.mp hnext).1
  have hknown : knowns[index]? = some knowns[index] := List.getElem?_eq_getElem hbound
  obtain ⟨since, hrely, hkeeps⟩ := h.keeps index _ _ hnext hknown
  obtain ⟨reached, hmoves, hshows⟩ := h.shows.perform env request
  obtain ⟨learnt, hgrants, hrest⟩ := hkeeps scene hrely env _ reached hmoves
  have hpool := hupholds.steps h.pool hknown hmoves hgrants
  rw [turn_call env hnext]
  refine ⟨_, learnt, reached, hknown, hmoves, hgrants, hshows, hpool, by simp [h.length], ?_⟩
  intro other program known hprogram hother
  by_cases hsame : index = other
  · subst hsame
    rw [List.getElem?_set_self hbound] at hother
    rw [List.getElem?_set_self (by rw [← h.length]; exact hbound)] at hprogram
    cases hother
    cases hprogram
    exact ⟨reached, hupholds.starts hpool (List.mem_set hbound learnt), hrest⟩
  · rw [List.getElem?_set_ne hsame] at hother hprogram
    obtain ⟨since, hrely, hkeeps⟩ := h.keeps other program known hprogram hother
    exact ⟨since, hupholds.spares h.pool hknown hmoves hgrants (Ne.symm hsame) hother hrely,
      hkeeps⟩

theorem Joined.turn (hupholds : accord.Upholds pool)
    (h : flight.Joined accord pool post scene knowns) (index : Nat) (env : Environment) :
    ∃ reached learnt, (flight.turn index env).Joined accord pool post reached learnt := by
  rcases flight.turn_cases index env with hsame | ⟨β, request, next, hnext⟩
  · rw [hsame]
    exact ⟨scene, knowns, h⟩
  · obtain ⟨_, learnt, reached, _, _, _, hjoined⟩ := h.call hupholds env hnext
    exact ⟨reached, knowns.set index learnt, hjoined⟩

theorem Joined.fly (hupholds : accord.Upholds pool)
    (h : flight.Joined accord pool post scene knowns) (schedule : List (Nat × Environment)) :
    ∃ reached learnt, (flight.fly schedule).Joined accord pool post reached learnt := by
  apply fly_preserves (fun flight => ∃ scene knowns, flight.Joined accord pool post scene knowns)
    _ schedule ⟨scene, knowns, h⟩
  rintro flight index env ⟨met, knowns, hjoined⟩
  exact hjoined.turn hupholds index env

/-- What each granted call does to a tally of the calls and of what the programs know, a whole
schedule does. -/
theorem Joined.fly_log (hupholds : accord.Upholds pool)
    {tally : List (Nat × Event) → Scene → List γ → Prop}
    (hstep : ∀ {β : Type} {call : Call β} {env answer history log met reached} {knowns : List γ}
        {index : Nat} {known learnt : γ},
      pool history met knowns → tally log met knowns → knowns[index]? = some known →
        call.Moves env met answer reached → accord.grants call known met learnt reached →
          tally (log ++ [(index, ⟨call, answer⟩)]) reached (knowns.set index learnt))
    (h : flight.Joined accord pool post scene knowns) {log : List (Nat × Event)}
    (htally : tally log scene knowns) (schedule : List (Nat × Environment)) :
    ∃ reached learnt, (flight.fly schedule).Joined accord pool post reached learnt ∧
      tally (log ++ flight.log schedule) reached learnt := by
  induction schedule generalizing flight scene knowns log with
  | nil =>
    refine ⟨scene, knowns, h, ?_⟩
    rw [Flight.log, List.append_nil]
    exact htally
  | cons first rest ih =>
    obtain ⟨index, env⟩ := first
    change ∃ reached learnt, ((flight.turn index env).fly rest).Joined accord pool post reached
      learnt ∧ _
    rw [Flight.log, ← List.append_assoc]
    rcases flight.event?_cases index env with ⟨hsame, hnone⟩ | ⟨β, request, next, hnext⟩
    · rw [hsame, hnone, Option.map_none, Option.toList_none, List.append_nil]
      exact ih h htally
    · obtain ⟨known, learnt, reached, hknown, hmoves, hgrants, hjoined⟩ :=
        h.call hupholds env hnext
      rw [event?_call env hnext]
      exact ih hjoined (hstep h.pool htally hknown hmoves hgrants)

/-- Where every program is done, all of them have come to what was promised. -/
theorem Joined.landed (h : flight.Joined accord pool post scene knowns)
    (hlanded : flight.landed = true) : ∀ known ∈ knowns, post known := by
  intro known member
  obtain ⟨index, hbound, hknown⟩ := List.getElem_of_mem member
  have hprogram : index < flight.programs.length := h.length ▸ hbound
  obtain ⟨_, _, hkeeps⟩ := h.keeps index _ known (List.getElem?_eq_getElem hprogram)
    (hknown ▸ List.getElem?_eq_getElem hbound)
  have hdone := List.all_eq_true.mp hlanded _ (List.getElem_mem hprogram)
  cases hends : flight.programs[index] with
  | done outcome =>
    rw [hends] at hkeeps
    exact hkeeps
  | call request next =>
    rw [hends] at hdone
    cases hdone

end Flight

end ScanFlow
