import ScanFlow.Proofs.Lifecycle.Reach
import ScanFlow.Proofs.Message.Accepted
import ScanFlow.Proofs.Program.Interleaving

/-!
Answers of the compiler that race.

Each delivery reads the workflow, binds its artifact to the task, and advances the workflow
later. The reading is out of date by then, and a task can be bound to one artifact twice.
Deliveries with different artifacts exclude each other: only the one whose key is bound goes
on. Deliveries with one key do not, so that the second one advances the workflow past a stage
that has only been dispatched. The compile stage is counted once in every order of calls just
when no two keys are the same, or there is no further stage to be passed.
-/

namespace ScanFlow

/-- A workflow as it may be found later: stages are only ever added, with one moment for each,
and never more than there are. -/
structure Workflow.Onward (before after : Workflow) : Prop where
  fixed : after.fixed = before.fixed
  progress : before.progress ≤ after.progress
  timeline : after.timeline.length + before.progress = before.timeline.length + after.progress
  within : before.progress ≤ before.steps → after.progress ≤ after.steps

namespace Workflow.Onward

variable {before between after : Workflow}

theorem refl (workflow : Workflow) : workflow.Onward workflow :=
  ⟨rfl, Nat.le_refl _, rfl, fun h => h⟩

theorem trans (hfirst : before.Onward between) (hsecond : between.Onward after) :
    before.Onward after := by
  have hone := hfirst.timeline
  have htwo := hsecond.timeline
  constructor
  · exact hsecond.fixed.trans hfirst.fixed
  · exact Nat.le_trans hfirst.progress hsecond.progress
  · omega
  · intro h
    exact hsecond.within (hfirst.within h)

end Workflow.Onward

theorem Call.Moves.onward {β : Type} {call : Call β} {env : Environment} {scene next : Scene}
    {answer : β} (hmoves : call.Moves env scene answer next) :
    scene.workflow.Onward next.workflow := by
  rcases hmoves.cases with ⟨nextNumber, rfl⟩ | ⟨operation, _, _, rfl⟩
  · exact .refl _
  · change scene.workflow.Onward (operation.onWorkflow env.now scene.workflow)
    rcases operation.onWorkflow_cases env.now scene.workflow with
      h | ⟨moment, _, hleft, h⟩ | ⟨status, _, h⟩
    · rw [h]
      exact .refl _
    · rw [h]
      simp only [Workflow.isFullyProgressed, decide_eq_false_iff_not, Nat.not_le] at hleft
      constructor
      · rfl
      · exact Nat.le_succ _
      · simp only [List.length_append, List.length_singleton]
        omega
      · intro _
        exact hleft
    · rw [h]
      exact ⟨rfl, Nat.le_refl _, rfl, id⟩

def Shape.runsAnalysis (shape : Shape) : Bool := shape.stages.contains .analysis

structure CompileFinished.Accepted (message : CompileFinished) (id : Uuid) : Prop where
  workflowId : message.workflowId = id
  success : message.success = true
  parsed : ∃ body, Completion.parse .compileFinish body = .ok (.compile message)

theorem CompileFinished.Accepted.key {message : CompileFinished} {id : Uuid}
    (h : message.Accepted id) : ∃ key, message.key? = some key := by
  obtain ⟨body, hparsed⟩ := h.parsed
  exact CompileFinished.key_of_accepted hparsed h.success

/-- The compile stage has been counted at most once, and nothing after it. -/
structure Workflow.CompiledOnce (before after : Workflow) : Prop where
  progress : after.progress ≤ before.progress + 1
  timeline : after.timeline.length + before.progress = before.timeline.length + after.progress
  incomplete : before.shape.runsAnalysis = true → after.status ≠ .complete

def System.CompiledOnce (system : System) (before : Workflow) : Prop :=
  ∃ after, system.store.workflows.get? before.id = some after ∧ before.CompiledOnce after

/-! ### Deliveries with different keys -/

/-- What a delivery brings: the key of its artifact, and whether it has advanced the workflow
already. -/
structure Ticket where
  key : String
  spent : Bool

namespace Orchestrator

open Program

variable {o : Orchestrator} {origin scene : Scene} {workflow : Workflow} {task : Task}

/-- A delivery advances only a workflow whose task is bound to its own key, and only once. It
relies on no other delivery doing so. -/
def keyed (origin : Scene) : Accord Ticket where
  rely ticket since met :=
    met.workflow.fixed = origin.workflow.fixed ∧ met.task.id = origin.task.id ∧
      (∀ key, since.task.targetKey = some key → met.task.targetKey = some key) ∧
        (ticket.spent = false → met.task.targetKey = some ticket.key → met.workflow.progress = 0)
  grants call ticket met learnt _ :=
    match call with
    | .store (.advance _ _) =>
      met.task.targetKey = some ticket.key ∧ ticket.spent = false ∧
        learnt = { ticket with spent := true }
    | .store (.finish _ status) =>
      learnt = ticket ∧ (status = .complete → origin.workflow.shape.runsAnalysis = false)
    | _ => learnt = ticket

/-- What deliveries with different keys have in common: the workflow has been advanced at most
once, by the one whose key is bound. -/
structure OneTicket (origin : Scene) (_ : List Event) (scene : Scene) (tickets : List Ticket) :
    Prop where
  onward : origin.workflow.Onward scene.workflow
  id : scene.task.id = origin.task.id
  apart : (tickets.map Ticket.key).Nodup
  bound : ∀ ticket ∈ tickets, ticket.spent = true → scene.task.targetKey = some ticket.key
  counted : scene.workflow.progress = 0 ∨
    scene.workflow.progress = 1 ∧ ∃ ticket ∈ tickets, ticket.spent = true
  incomplete : origin.workflow.shape.runsAnalysis = true → scene.workflow.status ≠ .complete

/-- An artifact that is bound stays bound. -/
theorem targetKey_kept {β : Type} {call : Call β} {env : Environment} {met reached : Scene}
    {answer : β} {key : String} (hmoves : call.Moves env met answer reached)
    (hkey : met.task.targetKey = some key) : reached.task.targetKey = some key := by
  rcases hmoves.cases with ⟨nextNumber, rfl⟩ | ⟨operation, _, _, rfl⟩
  · exact hkey
  · exact operation.onTask_targetKey env.now hkey

theorem ticket_of_key {tickets : List Ticket} {ticket other : Ticket}
    (hapart : (tickets.map Ticket.key).Nodup) (hticket : ticket ∈ tickets)
    (hother : other ∈ tickets) (hkey : other.key = ticket.key) : other = ticket := by
  obtain ⟨i, hi⟩ := List.mem_iff_getElem?.mp hticket
  obtain ⟨j, hj⟩ := List.mem_iff_getElem?.mp hother
  have hbound : j < (tickets.map Ticket.key).length := by
    rw [List.length_map]
    exact (List.getElem?_eq_some_iff.mp hj).1
  have hindex : j = i := by
    apply (List.getElem?_inj hbound hapart).mp
    simp [hi, hj, hkey]
  rw [hindex, hi] at hj
  exact (Option.some.inj hj).symm

/-- As long as the one whose key is bound has not advanced the workflow, nobody has. -/
theorem OneTicket.unspent {history : List Event} {tickets : List Ticket} {ticket : Ticket}
    (h : OneTicket origin history scene tickets) (hticket : ticket ∈ tickets)
    (hspent : ticket.spent = false) (hkey : scene.task.targetKey = some ticket.key) :
    scene.workflow.progress = 0 := by
  rcases h.counted with hzero | ⟨_, other, hother, hused⟩
  · exact hzero
  · have hbound := h.bound other hother hused
    rw [hkey, Option.some.injEq] at hbound
    have hsame := ticket_of_key h.apart hticket hother hbound.symm
    rw [hsame, hspent] at hused
    cases hused

theorem keys_set {tickets : List Ticket} {index : Nat} {ticket : Ticket} (learnt : Ticket)
    (hticket : tickets[index]? = some ticket) (hkey : learnt.key = ticket.key) :
    (tickets.set index learnt).map Ticket.key = tickets.map Ticket.key := by
  obtain ⟨hbound, hget⟩ := List.getElem?_eq_some_iff.mp hticket
  rw [List.map_set, hkey, ← hget, ← List.map_set, List.set_getElem_self]

/-- A call that advances and completes nothing leaves everything in common. -/
theorem OneTicket.quiet {history : List Event} {tickets : List Ticket} {met reached : Scene}
    {event : Event} {β : Type} {call : Call β} {env : Environment} {answer : β}
    (h : OneTicket origin history met tickets) (hmoves : call.Moves env met answer reached)
    (hprogress : reached.workflow.progress = met.workflow.progress)
    (hstatus : origin.workflow.shape.runsAnalysis = true → reached.workflow.status = .complete →
      met.workflow.status = .complete) :
    OneTicket origin (history ++ [event]) reached tickets where
  onward := h.onward.trans hmoves.onward
  id := hmoves.fixed.2.trans h.id
  apart := h.apart
  bound := by
    intro ticket hticket hspent
    exact targetKey_kept hmoves (h.bound ticket hticket hspent)
  counted := by
    rw [hprogress]
    exact h.counted
  incomplete := by
    intro hshape hcomplete
    exact h.incomplete hshape (hstatus hshape hcomplete)

theorem advance_status (now : Timestamp) (id : Uuid) (moment : Timestamp) (workflow : Workflow) :
    (Store.Operation.onWorkflow now (.advance id moment) workflow).status = workflow.status := by
  apply Store.Operation.changed_keeps Workflow.status
  rintro _ _ hchange next hnext
  obtain ⟨rfl, rfl⟩ := Prod.mk.inj (Option.some.inj hchange)
  rw [(Workflow.advanced?_eq_some hnext).2.2]

theorem finish_progress (now : Timestamp) (id : Uuid) (status : Workflow.Status)
    (workflow : Workflow) :
    (Store.Operation.onWorkflow now (.finish id status) workflow).progress =
      workflow.progress := by
  apply Store.Operation.changed_keeps Workflow.progress
  rintro _ _ hchange next hnext
  obtain ⟨rfl, rfl⟩ := Prod.mk.inj (Option.some.inj hchange)
  rw [(Workflow.finished?_eq_some hnext).2]

theorem finish_status (now : Timestamp) (id : Uuid) (status : Workflow.Status)
    (workflow : Workflow) :
    (Store.Operation.onWorkflow now (.finish id status) workflow).status = workflow.status ∨
      (Store.Operation.onWorkflow now (.finish id status) workflow).status = status := by
  simp only [Store.Operation.onWorkflow, Store.Operation.workflowChange?, Store.Operation.changed]
  split
  · cases hnext : workflow.finished? status now with
    | none => exact Or.inl rfl
    | some next =>
      rw [(Workflow.finished?_eq_some hnext).2]
      exact Or.inr rfl
  · exact Or.inl rfl

theorem OneTicket.advanced {history : List Event} {tickets : List Ticket} {met reached : Scene}
    {event : Event} {env : Environment} {id : Uuid} {moment : Timestamp} {index : Nat}
    {answer : Option Workflow} {ticket : Ticket} (h : OneTicket origin history met tickets)
    (hticket : tickets[index]? = some ticket)
    (hmoves : (Call.store (.advance id moment)).Moves env met answer reached)
    (hkey : met.task.targetKey = some ticket.key) (hspent : ticket.spent = false) :
    OneTicket origin (history ++ [event]) reached
      (tickets.set index { ticket with spent := true }) := by
  have hmember := List.mem_of_getElem? hticket
  have hbound := (List.getElem?_eq_some_iff.mp hticket).1
  have hzero := h.unspent hmember hspent hkey
  have hreached := hmoves.2
  constructor
  · exact h.onward.trans hmoves.onward
  · exact hmoves.fixed.2.trans h.id
  · rw [keys_set { ticket with spent := true } hticket rfl]
    exact h.apart
  · intro other hother hused
    rcases List.mem_or_eq_of_mem_set hother with hother | rfl
    · exact targetKey_kept hmoves (h.bound other hother hused)
    · exact targetKey_kept hmoves hkey
  · have hcounted : reached.workflow.progress = 0 ∨ reached.workflow.progress = 1 := by
      rw [hreached]
      change (Store.Operation.onWorkflow env.now (.advance id moment) met.workflow).progress = 0 ∨
        (Store.Operation.onWorkflow env.now (.advance id moment) met.workflow).progress = 1
      rcases Store.Operation.onWorkflow_cases env.now (.advance id moment) met.workflow with
        hsame | ⟨_, _, _, hsame⟩ | ⟨_, _, hsame⟩
      · rw [hsame]
        exact Or.inl hzero
      · rw [hsame]
        exact Or.inr (by simp [hzero])
      · rw [hsame]
        exact Or.inl hzero
    exact hcounted.imp_right fun hone => ⟨hone, _, List.mem_set hbound _, rfl⟩
  · intro hshape hcomplete
    rw [hreached] at hcomplete
    exact h.incomplete hshape ((advance_status env.now id moment met.workflow).symm.trans hcomplete)

/-- A call that is granted keeps everything in common. -/
theorem OneTicket.step {β : Type} {call : Call β} {env : Environment} {answer : β}
    {history : List Event} {met reached : Scene} {tickets : List Ticket}
    {index : Nat} {ticket learnt : Ticket} (hpool : OneTicket origin history met tickets)
    (event : Event)
    (hticket : tickets[index]? = some ticket) (hmoves : call.Moves env met answer reached)
    (hgrants : (keyed origin).grants call ticket met learnt reached) :
    OneTicket origin (history ++ [event]) reached (tickets.set index learnt) := by
  have hsame : learnt = ticket → tickets.set index learnt = tickets := by
    rintro rfl
    obtain ⟨hbound, hget⟩ := List.getElem?_eq_some_iff.mp hticket
    rw [← hget, List.set_getElem_self]
  cases call with
  | store operation =>
    cases operation with
    | advance id moment =>
      obtain ⟨hkey, hspent, rfl⟩ := hgrants
      exact hpool.advanced hticket hmoves hkey hspent
    | finish id status =>
      obtain ⟨hlearnt, hcomplete⟩ := hgrants
      rw [hsame hlearnt]
      apply hpool.quiet hmoves
      · rw [hmoves.2]
        exact finish_progress env.now id status met.workflow
      · intro hshape hreached
        rw [hmoves.2] at hreached
        rcases finish_status env.now id status met.workflow with hkept | hended
        · exact hkept.symm.trans hreached
        · have hstatus : status = .complete := hended.symm.trans hreached
          rw [hcomplete hstatus] at hshape
          cases hshape
    | _ =>
      rw [hsame hgrants]
      apply hpool.quiet hmoves
      · rw [hmoves.2]
        rfl
      · rw [hmoves.2]
        exact fun _ hcomplete => hcomplete
  | _ =>
    rw [hsame hgrants]
    rcases hmoves.cases with ⟨nextNumber, rfl⟩ | ⟨_, hstore, _⟩
    · exact hpool.quiet hmoves rfl fun _ hcomplete => hcomplete
    · cases hstore

theorem keyed_upholds (origin : Scene) : (keyed origin).Upholds (OneTicket origin) where
  starts := by
    intro history scene tickets ticket hpool hticket
    refine ⟨hpool.onward.fixed, hpool.id, fun _ hkey => hkey, ?_⟩
    intro hspent hkey
    exact hpool.unspent hticket hspent hkey
  steps := by
    intro β call env answer history met reached tickets index ticket learnt
    exact fun hpool => hpool.step _
  spares := by
    intro β call env answer history met reached tickets index other ticket learnt rival since
      hpool hticket hmoves hgrants hother hrival hrely
    obtain ⟨hfixed, hid, hkeys, _⟩ := hrely
    refine ⟨hmoves.fixed.1.trans hfixed, hmoves.fixed.2.trans hid, ?_, ?_⟩
    · intro key hkey
      exact targetKey_kept hmoves (hkeys key hkey)
    · intro hspent hkey
      have hnext := hpool.step ⟨call, answer⟩ hticket hmoves hgrants
      rw [← List.getElem?_set_ne (Ne.symm hother)] at hrival
      exact hnext.unspent (List.mem_of_getElem? hrival) hspent hkey

/-- A call that only reads, or writes to nothing of the workflow, leaves the key bound. -/
theorem keyed_ask {α : Type} {request : Call α} {ticket : Ticket} {key : String}
    {post : Except ServiceError α → Ticket → Scene → Prop}
    (hgrants : ∀ met reached, (keyed origin).grants request ticket met ticket reached)
    (hkey : scene.task.targetKey = some key)
    (h : ∀ answer reached, reached.task.targetKey = some key →
      post (.ok answer) ticket reached) :
    (ask request).Keeps (keyed origin) ticket scene post := by
  rintro met ⟨_, _, hkeys, _⟩ env answer reached hmoves
  exact ⟨ticket, hgrants met reached, h answer reached (targetKey_kept hmoves (hkeys key hkey))⟩

/-- After the compile stage of a shape with an analysis, a stage is left. -/
theorem not_runsAnalysis {shape : Shape} (hcompile : shape.runsCompile = true)
    (hsteps : shape.steps ≤ 1) : shape.runsAnalysis = false := by
  revert hcompile hsteps
  cases shape <;> decide

theorem advanceCompiled_keyed {key : String}
    (hid : workflow.id = origin.workflow.id)
    (hsteps : origin.workflow.steps = origin.workflow.shape.steps)
    (hcompile : origin.workflow.shape.runsCompile = true)
    (hkey : scene.task.targetKey = some key) :
    (o.advanceCompiled workflow).Keeps (keyed origin) ⟨key, false⟩ scene fun _ _ _ => True := by
  unfold advanceCompiled
  rw [keeps_bind]
  refine keyed_ask (fun _ _ => rfl) hkey ?_
  intro moment between hkey
  change Keeps _ (_ >>= _) _ _ _
  rw [keeps_bind, Program.store, keeps_ask]
  rintro met ⟨hfixed, _, hkeys, hzero⟩ env answer reached hmoves
  have hbound := hkeys key hkey
  refine ⟨⟨key, true⟩, ⟨hbound, rfl, rfl⟩, ?_⟩
  have hanswer : answer = met.workflow.advanced? moment :=
    hmoves.1 (hid.trans (Workflow.id_of_fixed hfixed).symm)
  cases answer with
  | none => trivial
  | some advanced =>
    have hadvanced := (Workflow.advanced?_eq_some hanswer.symm).2.2
    have hone : advanced.progress = 1 := by
      rw [hadvanced]
      simp [hzero rfl hbound]
    have hsame : advanced.steps = origin.workflow.shape.steps := by
      rw [hadvanced, ← hsteps]
      exact Workflow.steps_of_fixed hfixed
    unfold Follows goOn
    dsimp only
    split
    · rename_i hfull
      have hless : origin.workflow.shape.steps ≤ 1 := by
        rw [← hsame, ← hone]
        simpa [Workflow.isFullyProgressed] using hfull
      rw [finish, keeps_bind]
      intro met _ env answer reached _
      exact ⟨_, ⟨rfl, fun _ => not_runsAnalysis hcompile hless⟩, trivial⟩
    · refine keeps_mono (keeps_of_only (chain_only advanced) trivial (fun _ _ _ _ => trivial) ?_)
        fun _ _ _ _ => trivial
      intro β call env met answer reached hcall _ _
      refine ⟨?_, trivial⟩
      cases call with
      | store operation =>
        cases operation with
        | advance => cases hcall
        | finish id status =>
          have haborted : status = .aborted := hcall
          subst haborted
          refine ⟨rfl, ?_⟩
          intro hcomplete
          cases hcomplete
        | _ => rfl
      | _ => rfl

theorem acceptArtifact_keyed (hid : workflow.id = origin.workflow.id)
    (htask : task.id = origin.task.id)
    (hsteps : origin.workflow.steps = origin.workflow.shape.steps)
    (hcompile : origin.workflow.shape.runsCompile = true) (artifact : CompileArtifact) :
    (o.acceptArtifact workflow task artifact).Keeps (keyed origin) ⟨artifact.objectKey, false⟩
      scene fun _ _ _ => True := by
  unfold acceptArtifact
  generalize (if workflow.shape.runsSa = true then some compiledProgress else none) = saProgress
  dsimp only
  rw [keeps_bind, storeOr, keeps_bind, keeps_ask]
  rintro met ⟨_, hmet, _, _⟩ env answer reached hmoves
  have hsame := htask.trans hmet.symm
  refine ⟨_, rfl, ?_⟩
  cases hmoves.1 hsame
  unfold Follows
  dsimp only
  cases hnext : met.task.withArtifact? artifact.name artifact.objectKey saProgress env.now with
  | none => trivial
  | some next =>
    have hkey : reached.task.targetKey = some artifact.objectKey := by
      rw [hmoves.2, Scene.after_taskChange (by rw [hsame]; rfl)]
      dsimp only
      rw [hnext, Option.getD_some, (Task.withArtifact?_eq_some hnext).2]
    change Keeps _ (_ >>= _) _ _ _
    rw [keeps_bind, newId, keeps_bind]
    refine keyed_ask (fun _ _ => rfl) hkey ?_
    intro _ reached hkey
    change Keeps _ (_ >>= _) _ _ _
    rw [keeps_bind]
    refine keyed_ask (fun _ _ => rfl) hkey ?_
    intro created reached hkey
    change Keeps _ (_ >>= _) _ _ _
    rw [keeps_bind, storeOr, keeps_bind]
    refine keyed_ask (fun _ _ => rfl) hkey ?_
    intro added reached hkey
    cases added with
    | error e => trivial
    | ok added => exact advanceCompiled_keyed hid hsteps hcompile hkey

theorem onCompileFinished_keyed (hlinked : origin.workflow.taskId = origin.task.id)
    (hsteps : origin.workflow.steps = origin.workflow.shape.steps)
    (hcompile : origin.workflow.shape.runsCompile = true) {message : CompileFinished}
    {key : String} (hid : message.workflowId = origin.workflow.id)
    (hsuccess : message.success = true) (hkey : message.key? = some key) :
    (o.onCompileFinished message).Keeps (keyed origin) ⟨key, false⟩ scene
      fun _ _ _ => True := by
  unfold onCompileFinished
  rw [keeps_bind, Program.store, keeps_ask]
  rintro met ⟨hfixed, _, _, _⟩ env answer reached hmoves
  have hsame := Workflow.id_of_fixed hfixed
  have htaskId := Workflow.taskId_of_fixed hfixed
  refine ⟨_, rfl, ?_⟩
  have hanswer : answer = some met.workflow := hmoves.1 (hid.trans hsame.symm)
  rw [hanswer]
  unfold Follows
  dsimp only
  split
  · trivial
  rw [if_neg (by simp [hsuccess])]
  unfold CompileFinished.key? at hkey
  obtain ⟨artifact, hartifact, rfl⟩ := Option.map_eq_some_iff.mp hkey
  rw [hartifact]
  dsimp only
  rw [keeps_bind, Program.store, keeps_ask]
  rintro between _ env found reached hmoves
  refine ⟨_, rfl, ?_⟩
  cases found with
  | none => trivial
  | some task =>
    have htask : task.id = met.workflow.taskId := hmoves.1.2 task rfl
    exact acceptArtifact_keyed hsame (htask.trans (htaskId.trans hlinked)) hsteps hcompile _

def deliveries (o : Orchestrator) (messages : List CompileFinished) : List (Program Unit) :=
  messages.map fun message => o.process (.compile message)

/-- Deliveries with different keys count the compile stage once, at whatever point they are. -/
theorem compiledOnce_of_keys {system : System} (hshows : system.Shows origin)
    (hsteps : origin.workflow.steps = origin.workflow.shape.steps)
    (hcompiling : Compiling origin.workflow origin.task) {messages : List CompileFinished}
    (haccepted : ∀ message ∈ messages, message.Accepted origin.workflow.id)
    (hkeys : (messages.map CompileFinished.key?).Nodup) (schedule : List (Nat × Environment)) :
    ((Flight.launch system (o.deliveries messages)).fly schedule).system.CompiledOnce
      origin.workflow := by
  have hpool : OneTicket origin [] origin
      (messages.map fun message => ⟨message.key?.getD "", false⟩) := by
    constructor
    · exact .refl _
    · rfl
    · rw [List.map_map, List.nodup_iff_pairwise_ne, List.pairwise_map]
      rw [List.nodup_iff_pairwise_ne, List.pairwise_map] at hkeys
      apply hkeys.imp_of_mem
      intro first second hfirst hsecond hne heq
      obtain ⟨one, hone⟩ := (haccepted first hfirst).key
      obtain ⟨two, htwo⟩ := (haccepted second hsecond).key
      rw [hone, htwo] at hne
      simp only [Function.comp_apply, hone, htwo, Option.getD_some] at heq
      exact hne (congrArg some heq)
    · intro ticket hticket hspent
      obtain ⟨message, _, rfl⟩ := List.mem_map.mp hticket
      cases hspent
    · exact Or.inl hcompiling.progress
    · intro _ hcomplete
      exact absurd (hcompiling.running.symm.trans hcomplete) nofun
  have hlaunch : (Flight.launch system (o.deliveries messages)).Joined (keyed origin)
      (OneTicket origin) (fun _ => True) origin
      (messages.map fun message => ⟨message.key?.getD "", false⟩) := by
    apply Flight.joined_launch (keyed_upholds origin) hshows hpool
    · simp [deliveries]
    · intro index program ticket hprogram hticket
      rw [deliveries, List.getElem?_map, Option.map_eq_some_iff] at hprogram
      obtain ⟨message, hmessage, rfl⟩ := hprogram
      rw [List.getElem?_map, hmessage, Option.map_some, Option.some.injEq] at hticket
      have hown := haccepted message (List.mem_of_getElem? hmessage)
      obtain ⟨key, hkey⟩ := hown.key
      rw [← hticket, hkey]
      exact onCompileFinished_keyed hshows.linked hsteps hcompiling.shape hown.workflowId
        hown.success hkey
  obtain ⟨reached, tickets, hjoined⟩ := hlaunch.fly (keyed_upholds origin) schedule
  have hpool := hjoined.pool
  refine ⟨reached.workflow, ?_, ?_, hpool.onward.timeline, hpool.incomplete⟩
  · rw [← Workflow.id_of_fixed hpool.onward.fixed]
    exact hjoined.shows.workflow
  · rw [hcompiling.progress]
    rcases hpool.counted with hzero | ⟨hone, _⟩
    · omega
    · omega

/-- Without a stage after it, the compile stage is counted once by whatever is done. -/
theorem compiledOnce_of_shape {system : System} (hshows : system.Shows origin)
    (hsteps : origin.workflow.steps = origin.workflow.shape.steps)
    (hprogress : origin.workflow.progress = 0)
    (hshape : origin.workflow.shape.runsAnalysis = false) (programs : List (Program Unit))
    (schedule : List (Nat × Environment)) :
    ((Flight.launch system programs).fly schedule).system.CompiledOnce origin.workflow := by
  obtain ⟨reached, hreached, honward⟩ := (Flight.launch system programs).fly_scene
    (fun scene => origin.workflow.Onward scene.workflow)
    (fun _ _ _ _ _ hmoves h => h.trans hmoves.onward) schedule hshows (.refl _)
  have hless : origin.workflow.shape.steps ≤ 1 := by
    revert hshape
    cases origin.workflow.shape <;> decide
  refine ⟨reached.workflow, ?_, ?_, honward.timeline, ?_⟩
  · rw [← Workflow.id_of_fixed honward.fixed]
    exact hreached.workflow
  · have hwithin := honward.within (by omega)
    rw [Workflow.steps_of_fixed honward.fixed] at hwithin
    omega
  · rw [hshape]
    intro hanalysis
    cases hanalysis

/-! ### Deliveries with one key -/

/-- What a delivery still does when its artifact has been bound. -/
def afterBinding (o : Orchestrator) (workflow : Workflow) (task : Task)
    (artifact : CompileArtifact) : Program Unit := do
  let id ← Program.newId
  let created ← Program.clock
  let _ ← Program.storeOr (.registerCompiled task.codeId
    { id
      name := artifact.name
      size := artifact.size
      md5 := artifact.md5
      objectKey := artifact.objectKey
      folder := StoredFile.compiledFolder
      createdAt := created })
  let now ← Program.clock
  match ← Program.store (.advance workflow.id now) with
  | none => return
  | some advanced =>
    if advanced.isFullyProgressed then Program.finish advanced.id .complete
    else o.chain advanced

/-- A delivery reads the workflow and its task. -/
theorem onCompileFinished_solo {system : System} (env : Environment)
    (hshows : system.Shows scene) (hrunning : scene.workflow.status = .running)
    (hstage : scene.workflow.nextStage? = some .compile) {message : CompileFinished}
    {artifact : CompileArtifact} (hid : message.workflowId = scene.workflow.id)
    (hsuccess : message.success = true) (hartifact : message.artifact = some artifact) :
    (o.onCompileFinished message).solo env 2 system =
      (o.acceptArtifact scene.workflow scene.task artifact, system) := by
  have hworkflow : (Call.store (.findWorkflow message.workflowId)).perform env system =
      (some scene.workflow, system) := by
    simp [Call.perform, Store.Operation.perform, hid, hshows.workflow]
  have htask : (Call.store (.findTask scene.workflow.taskId)).perform env system =
      (some scene.task, system) := by
    simp [Call.perform, Store.Operation.perform, hshows.linked, hshows.task]
  unfold onCompileFinished
  rw [Program.store, Program.solo_ask, hworkflow]
  dsimp only
  rw [if_neg (by simp [Workflow.isRunning, hrunning, hstage]), if_neg (by simp [hsuccess]),
    hartifact]
  dsimp only
  rw [Program.store, Program.solo_ask, htask]
  rfl

/-- It binds its artifact, which may have been bound before. -/
theorem acceptArtifact_solo {system : System} (o : Orchestrator) (workflow : Workflow)
    (artifact : CompileArtifact) (env : Environment) (hshows : system.Shows scene)
    (htask : task.id = scene.task.id)
    (hkey : ∀ key, scene.task.targetKey = some key → key = artifact.objectKey) :
    ∃ bound next, (o.acceptArtifact workflow task artifact).solo env 1 system =
        (o.afterBinding workflow task artifact, next) ∧
      next.Shows { scene with task := bound } ∧ scene.task.withArtifact? artifact.name
        artifact.objectKey (if workflow.shape.runsSa then some compiledProgress else none)
          env.now = some bound := by
  unfold acceptArtifact
  generalize (if workflow.shape.runsSa = true then some compiledProgress else none) = saProgress
  obtain ⟨reached, hmoves, hreached⟩ := hshows.perform env
    (.store (.setArtifact task.id artifact.name artifact.objectKey saProgress))
  obtain ⟨bound, hbound⟩ : ∃ bound, scene.task.withArtifact? artifact.name artifact.objectKey
      saProgress env.now = some bound := by
    unfold Task.withArtifact?
    cases htarget : scene.task.targetKey with
    | none => simp
    | some key => simp [hkey key htarget]
  have hanswer := hmoves.1 htask
  rw [hbound] at hanswer
  have hafter := hmoves.2
  rw [Scene.after_taskChange (by rw [htask]; rfl)] at hafter
  rw [hbound, Option.getD_some] at hafter
  refine ⟨bound, _, ?_, hafter ▸ hreached, hbound⟩
  rw [Program.solo_storeOr hanswer]
  rfl

/-- It advances the workflow, whatever has happened since it was read, and goes on to the next
stage. -/
theorem afterBinding_solo {system : System} (o : Orchestrator) (workflow : Workflow)
    (task : Task) (artifact : CompileArtifact) (env : Environment)
    (hshows : system.Shows scene) (hid : workflow.id = scene.workflow.id)
    (hcode : task.codeId = scene.task.codeId) :
    ∃ reached rest next, (o.afterBinding workflow task artifact).solo env 5 system = (rest, next) ∧
      next.Shows reached ∧ reached.task = scene.task ∧
        reached.workflow = (scene.workflow.advanced? env.now).getD scene.workflow ∧
          ∀ advanced, scene.workflow.advanced? env.now = some advanced →
            advanced.isFullyProgressed = false → rest = o.chain advanced := by
  obtain ⟨_, ⟨_, rfl⟩, hnumber⟩ := hshows.perform env (.reserve 1)
  obtain ⟨between, hregister, hbetween⟩ := hnumber.perform env (.store (.registerCompiled
    task.codeId
    { id := Uuid.generated system.nextNumber
      name := artifact.name
      size := artifact.size
      md5 := artifact.md5
      objectKey := artifact.objectKey
      folder := StoredFile.compiledFolder
      createdAt := env.now }))
  obtain ⟨added, hadded⟩ := hregister.1 hcode
  have hsame := hregister.2
  obtain ⟨reached, hadvance, hreached⟩ :=
    hbetween.perform env (.store (.advance workflow.id env.now))
  refine ⟨reached, ((o.afterBinding workflow task artifact).solo env 5 system).1,
    ((o.afterBinding workflow task artifact).solo env 5 system).2, rfl, ?_, ?_, ?_, ?_⟩
  · unfold afterBinding
    rw [Program.solo_newId, Program.solo_clock, Program.solo_storeOr hadded, Program.solo_clock]
    exact hreached
  · rw [hadvance.2, hsame]
    rfl
  · rw [hadvance.2, hsame, Scene.after_workflowChange (by rw [hid]; rfl)]
    rfl
  · intro advanced hadvanced hopen
    have hanswer := hadvance.1 (by rw [hid, hsame]; rfl)
    rw [hsame] at hanswer
    unfold afterBinding
    rw [Program.solo_newId, Program.solo_clock, Program.solo_storeOr hadded, Program.solo_clock,
      Program.store, Program.solo_ask, hanswer.trans hadvanced]
    exact if_neg (by simp [hopen])

theorem nextStage?_of_compiling (hsteps : origin.workflow.steps = origin.workflow.shape.steps)
    (hcompiling : Compiling origin.workflow origin.task) :
    origin.workflow.nextStage? = some .compile := by
  have hcompile := hcompiling.shape
  unfold Workflow.nextStage? Workflow.isFullyProgressed
  rw [hsteps, hcompiling.progress]
  revert hcompile
  cases origin.workflow.shape <;> decide

theorem two_steps {shape : Shape} (hcompile : shape.runsCompile = true)
    (hanalysis : shape.runsAnalysis = true) : shape.steps = 2 := by
  revert hcompile hanalysis
  cases shape <;> decide

/-- Going on twice counts two stages, even if there is only one to count. -/
theorem afterBinding_twice {system : System} (o : Orchestrator) (first second : CompileArtifact)
    (env : Environment) (hshows : system.Shows scene)
    (hworkflow : scene.workflow = origin.workflow) (hcode : origin.task.codeId = scene.task.codeId)
    (hrunning : origin.workflow.status = .running) (hprogress : origin.workflow.progress = 0)
    (hsteps : origin.workflow.steps = 2) :
    ∃ reached rest between last next,
      (o.afterBinding origin.workflow origin.task first).solo env 5 system = (rest, between) ∧
        (o.afterBinding origin.workflow origin.task second).solo env 5 between = (last, next) ∧
          next.Shows reached ∧
            reached.workflow = (origin.workflow.stepped env.now).stepped env.now := by
  obtain ⟨once, rest, between, hsoloOnce, hshowsOnce, htask, honce, _⟩ := afterBinding_solo o
    origin.workflow origin.task first env hshows (by rw [hworkflow]) hcode
  have hfirstStep : once.workflow = origin.workflow.stepped env.now := by
    rw [honce, hworkflow, Workflow.advanced?_eq_stepped hrunning]
    · rfl
    · omega
  obtain ⟨twice, last, next, hsoloTwice, hshowsTwice, _, htwice, _⟩ := afterBinding_solo o
    origin.workflow origin.task second env hshowsOnce (by rw [hfirstStep]; rfl)
    (by rw [htask]; exact hcode)
  refine ⟨twice, rest, between, last, next, hsoloOnce, hsoloTwice, hshowsTwice, ?_⟩
  rw [htwice, hfirstStep, Workflow.advanced?_eq_stepped]
  · rfl
  · exact hrunning
  · simp [Workflow.stepped, hprogress, hsteps]

/-- No call can take back a stage that has been counted. -/
theorem overrun_lasts {flight : Flight} {moment later : Timestamp}
    (hshows : flight.system.Shows scene)
    (htwice : scene.workflow = (origin.workflow.stepped moment).stepped later)
    (schedule : List (Nat × Environment)) :
    ¬ (flight.fly schedule).system.CompiledOnce origin.workflow := by
  rintro ⟨after, hstored, hcounted⟩
  obtain ⟨reached, hreached, honward⟩ := flight.fly_scene
    (fun reached => scene.workflow.Onward reached.workflow)
    (fun _ _ _ _ _ hmoves h => h.trans hmoves.onward) schedule hshows (.refl _)
  rw [htwice] at honward
  have hid : reached.workflow.id = origin.workflow.id :=
    Workflow.id_of_fixed honward.fixed
  have hsame := hreached.workflow
  rw [hid, hstored] at hsame
  cases hsame
  have hless := hcounted.progress
  have hmore := honward.progress
  simp only [Workflow.stepped] at hmore
  omega

/-- Of two deliveries with one key, both can read the workflow and bind their artifact before
either of them goes on. Each then counts the compile stage. -/
theorem exists_overrun {system : System} (hshows : system.Shows origin)
    (hsteps : origin.workflow.steps = origin.workflow.shape.steps)
    (hcompiling : Compiling origin.workflow origin.task)
    (hshape : origin.workflow.shape.runsAnalysis = true) {messages : List CompileFinished}
    (haccepted : ∀ message ∈ messages, message.Accepted origin.workflow.id) {i j : Nat}
    {first second : CompileFinished} (hne : i ≠ j) (hfirst : messages[i]? = some first)
    (hsecond : messages[j]? = some second) (hkey : first.key? = second.key?) :
    ∃ schedule, ((Flight.launch system (o.deliveries messages)).fly schedule).landed = true ∧
      ¬ ((Flight.launch system (o.deliveries messages)).fly schedule).system.CompiledOnce
        origin.workflow := by
  have hone := haccepted first (List.mem_of_getElem? hfirst)
  have htwo := haccepted second (List.mem_of_getElem? hsecond)
  obtain ⟨key, hown⟩ := hone.key
  have hother := hkey.symm.trans hown
  obtain ⟨artifact, hartifact, hartifactKey⟩ := Option.map_eq_some_iff.mp hown
  obtain ⟨rival, hrival, hrivalKey⟩ := Option.map_eq_some_iff.mp hother
  have hstage := nextStage?_of_compiling hsteps hcompiling
  -- Both deliveries read the workflow.
  have hprograms : ∀ (index : Nat) message, messages[index]? = some message →
      (Flight.launch system (o.deliveries messages)).programs[index]? =
        some (o.onCompileFinished message) := by
    intro index message hmessage
    simp [Flight.launch, deliveries, hmessage, process]
  obtain ⟨read, hread, hreadSystem, hreadFirst, hreadSecond⟩ := Flight.leadsTo_pair hne
    (hprograms i first hfirst) (hprograms j second hsecond)
    (onCompileFinished_solo System.quietWorld hshows hcompiling.running hstage hone.workflowId
      hone.success hartifact)
    (onCompileFinished_solo System.quietWorld hshows hcompiling.running hstage htwo.workflowId
      htwo.success hrival)
  -- Both bind their artifact, the second one to the same key.
  obtain ⟨bound, afterFirst, hsolo, hshowsFirst, hbound⟩ :=
    acceptArtifact_solo o origin.workflow artifact System.quietWorld hshows rfl
      (by rw [hcompiling.target]; nofun)
  obtain ⟨_, rfl⟩ := Task.withArtifact?_eq_some hbound
  obtain ⟨again, afterSecond, hsoloSecond, hshowsSecond, hagain⟩ :=
    acceptArtifact_solo o origin.workflow rival System.quietWorld hshowsFirst rfl (by
      intro key hbound
      cases hbound
      rw [hartifactKey, hrivalKey])
  obtain ⟨_, rfl⟩ := Task.withArtifact?_eq_some hagain
  obtain ⟨bind, hbind, hbindSystem, hbindFirst, hbindSecond⟩ := Flight.leadsTo_pair hne
    hreadFirst hreadSecond (hreadSystem ▸ hsolo) hsoloSecond
  -- Both advance the workflow.
  obtain ⟨twice, _, _, _, _, hsoloOnce, hsoloTwice, hshowsTwice, htwice⟩ := afterBinding_twice o
    artifact rival System.quietWorld hshowsSecond rfl rfl hcompiling.running hcompiling.progress
    (hsteps.trans (two_steps hcompiling.shape hshape))
  subst hbindSystem
  obtain ⟨passed, hpassed, hpassedSystem, _, _⟩ :=
    Flight.leadsTo_pair hne hbindFirst hbindSecond hsoloOnce hsoloTwice
  obtain ⟨schedule, hschedule⟩ := (hread.trans hbind).trans hpassed
  obtain ⟨landing, hlanding⟩ := passed.exists_landing System.quietWorld
  refine ⟨schedule ++ landing, ?_, ?_⟩
  · rw [Flight.fly_append, hschedule]
    exact hlanding
  · rw [Flight.fly_append, hschedule]
    exact overrun_lasts (hpassedSystem ▸ hshowsTwice) htwice landing

end Orchestrator

namespace System

variable {o : Orchestrator} {start system : System}

/-- While a workflow waits for its compiler, any number of successful answers may be delivered
at once. In every order of their calls the compile stage is counted once, just when no stage
follows it, or no two of the answers name the same key. -/
theorem compiled_once_iff (hinitial : start.Initial) (hreach : Reaches o start system)
    {id : Uuid} {workflow : Workflow}
    (hstored : system.store.workflows.get? id = some workflow)
    (hrunning : workflow.status = .running) (hstage : workflow.nextStage? = some .compile)
    (messages : List CompileFinished) (haccepted : ∀ message ∈ messages, message.Accepted id) :
    (∀ schedule,
        ((Flight.launch system (o.deliveries messages)).fly schedule).landed = true →
          ((Flight.launch system (o.deliveries messages)).fly schedule).system.CompiledOnce
            workflow) ↔
      workflow.shape.runsAnalysis = false ∨ (messages.map CompileFinished.key?).Nodup := by
  obtain ⟨hsound, _⟩ := hinitial.reaches hreach
  have hid := hsound.keyed.workflows id workflow hstored
  obtain ⟨scene, rfl, hshows, hmatched, hphase⟩ := hsound.scene hstored
  have hcompiling := Orchestrator.compiling_of_stage hmatched hphase hrunning hstage
  rw [← hid] at haccepted
  constructor
  · intro hcounted
    cases hshape : scene.workflow.shape.runsAnalysis with
    | false => exact Or.inl rfl
    | true =>
      apply Or.inr
      rw [List.nodup_iff_pairwise_ne, List.pairwise_iff_getElem]
      intro i j hi hj hless hkey
      rw [List.length_map] at hi hj
      rw [List.getElem_map, List.getElem_map] at hkey
      obtain ⟨schedule, hlanded, hnot⟩ := Orchestrator.exists_overrun (o := o) hshows
        hmatched.steps hcompiling hshape haccepted (Nat.ne_of_lt hless)
        (List.getElem?_eq_getElem hi) (List.getElem?_eq_getElem hj) hkey
      exact hnot (hcounted schedule hlanded)
  · rintro (hshape | hkeys) schedule _
    · exact Orchestrator.compiledOnce_of_shape hshows hmatched.steps hcompiling.progress hshape _
        schedule
    · exact Orchestrator.compiledOnce_of_keys hshows hmatched.steps hcompiling haccepted hkeys
        schedule

/-- Some answers of the compiler, on their way to a scan that is analysed afterwards. -/
def racing (keys : List String) : Flight :=
  Flight.launch (submitted .compileSa) (smallOrchestrator.deliveries (keys.map compiledAs))

/-- Two artifacts for one scan: only one of them counts, in whatever order the calls are. -/
theorem two_artifacts_compiled_once :
    ∃ workflow, (submitted .compileSa).store.workflows.get? (Uuid.generated 3) = some workflow ∧
      workflow.status = .running ∧ workflow.nextStage? = some .compile ∧
        ∀ schedule, ((racing ["shop.jar", "shop-2.jar"]).fly schedule).landed = true →
          ((racing ["shop.jar", "shop-2.jar"]).fly schedule).system.CompiledOnce workflow := by
  have hstate : ((submitted .compileSa).store.workflows.get? (Uuid.generated 3)).map
      (fun workflow => (workflow.status, workflow.nextStage?)) =
        some (.running, some .compile) := by
    decide +kernel
  obtain ⟨workflow, hstored, hsame⟩ := Option.map_eq_some_iff.mp hstate
  obtain ⟨hrunning, hstage⟩ := Prod.mk.inj hsame
  refine ⟨workflow, hstored, hrunning, hstage, ?_⟩
  apply (compiled_once_iff initial_empty (reaches_submitted .compileSa) hstored hrunning hstage
    [compiledAs "shop.jar", compiledAs "shop-2.jar"] ?_).mpr
  · exact Or.inr (by decide)
  · intro message member
    rcases List.mem_cons.mp member with rfl | member
    · exact ⟨rfl, rfl, _, accepts_compiledAs⟩
    · cases List.mem_singleton.mp member
      exact ⟨rfl, rfl, (compiledAs "shop-2.jar").toJson, rfl⟩

/-- The turns of two deliveries that both read the workflow and bind their artifact before the
first one advances it. -/
def overrunning : List (Nat × Environment) :=
  [0, 0, 1, 1, 0, 1, 0, 0, 0, 0, 0, 1, 1, 1, 1, 1, 1, 0, 0, 0, 0, 0, 0, 0, 0, 0].map
    fun index => (index, quietWorld)

/-- One answer delivered twice counts the compile stage twice: the scan is complete although
its analysis is still running. -/
theorem repeated_answer_overruns :
    Reaches smallOrchestrator .empty (submitted .compileSa) ∧
      (compiledAs "shop.jar").Accepted (Uuid.generated 3) ∧
      ((submitted .compileSa).store.workflows.get? (Uuid.generated 3)).map
          (fun workflow => (workflow.status, workflow.nextStage?, workflow.progress)) =
        some (.running, some .compile, 0) ∧
      ((racing ["shop.jar", "shop.jar"]).fly overrunning).landed = true ∧
      (((racing ["shop.jar", "shop.jar"]).fly overrunning).system.store.workflows.get?
          (Uuid.generated 3)).map
          (fun workflow => (workflow.status, workflow.progress, workflow.timeline.length)) =
        some (.complete, 2, 2) ∧
      (((racing ["shop.jar", "shop.jar"]).fly overrunning).system.store.tasks.get?
          (Uuid.generated 2)).map (fun task => task.sa.status) = some .running := by
  refine ⟨reaches_submitted .compileSa, ⟨rfl, rfl, _, accepts_compiledAs⟩, ?_, ?_, ?_, ?_⟩
  · decide +kernel
  · decide +kernel
  · decide +kernel
  · decide +kernel

end System

end ScanFlow
