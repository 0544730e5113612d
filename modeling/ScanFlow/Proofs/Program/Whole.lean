import ScanFlow.Proofs.Program.Logic

/-!
Programs that run to their end with nothing in between.

Time passes during such a run, and the world outside may answer differently from call to
call, but the store changes only by the calls of the program. A run that stays within one
scene spares all other workflows and tasks.
-/

namespace ScanFlow

/-- A whole run, in which each call meets an environment of its own. -/
inductive Program.Runs {α : Type} :
    Program α → System → Except ServiceError α → System → Prop where
  | done (outcome : Except ServiceError α) (system : System) :
      Runs (.done outcome) system outcome system
  | call {β : Type} (request : Call β) (next : β → Program α) (env : Environment)
      {system final : System} {outcome : Except ServiceError α}
      (rest : Runs (next (request.perform env system).1) (request.perform env system).2
        outcome final) :
      Runs (.call request next) system outcome final

/-- The run of a program in one environment is such a run. -/
theorem Program.runs_run {α : Type} (env : Environment) (program : Program α)
    (system : System) :
    program.Runs system (program.run env system).1 (program.run env system).2 := by
  induction program generalizing system with
  | done outcome => exact .done outcome system
  | call request next ih => exact .call request next env (ih _ _)

/-- What every operation of the store preserves, every call preserves. -/
theorem Call.preserves_store {α : Type} (call : Call α) (env : Environment) {system : System}
    (invariant : Store → Prop)
    (hstep : ∀ {β : Type} (operation : Store.Operation β) (now : Timestamp) (store : Store),
      invariant store → invariant (operation.perform now store).2)
    (h : invariant system.store) : invariant (call.perform env system).2.store := by
  cases call with
  | store operation => exact hstep operation env.now _ h
  | publish queue payload =>
    simp only [Call.perform, System.publish]
    split
    · exact h
    · exact h
  | clock | reserve | blobExists | blobUrl => exact h

theorem Call.keyed_perform {α : Type} (call : Call α) (env : Environment) {system : System}
    (hkeyed : system.store.Keyed) : (call.perform env system).2.store.Keyed :=
  call.preserves_store env Store.Keyed (fun operation _ _ hkeyed => hkeyed.perform operation)
    hkeyed

namespace Program

variable {α β : Type} {system final : System}

/-- The run of two programs, one after the other. -/
theorem Runs.of_bind {program : Program β} {next : β → Program α}
    {outcome : Except ServiceError α} (h : (program >>= next).Runs system outcome final) :
    (∃ b between, program.Runs system (.ok b) between ∧ (next b).Runs between outcome final) ∨
      ∃ e, program.Runs system (.error e) final ∧ outcome = .error e := by
  induction program generalizing system with
  | done first =>
    cases first with
    | ok b => exact Or.inl ⟨b, system, .done _ _, h⟩
    | error e =>
      cases h
      exact Or.inr ⟨e, .done _ _, rfl⟩
  | call request rest ih =>
    cases h with
    | call _ _ env hrest =>
      rcases ih _ hrest with ⟨b, between, hfirst, hnext⟩ | ⟨e, hfirst, houtcome⟩
      · exact Or.inl ⟨b, between, .call request rest env hfirst, hnext⟩
      · exact Or.inr ⟨e, .call request rest env hfirst, houtcome⟩

theorem Runs.of_store {operation : Store.Operation α} {outcome : Except ServiceError α}
    (h : (store operation).Runs system outcome final) :
    ∃ now, outcome = .ok (operation.perform now system.store).1 ∧
      final = { system with store := (operation.perform now system.store).2 } := by
  cases h with
  | call _ _ env hrest =>
    cases hrest
    exact ⟨env.now, rfl, rfl⟩

theorem Runs.of_require {operation : Store.Operation (Option α)} {missing : ServiceError}
    {a : α} (h : (require operation missing).Runs system (.ok a) final) :
    ∃ now, (operation.perform now system.store).1 = some a ∧
      final = { system with store := (operation.perform now system.store).2 } := by
  rcases Runs.of_bind h with ⟨found, between, hfind, hrest⟩ | ⟨e, _, houtcome⟩
  · obtain ⟨now, hfound, rfl⟩ := Runs.of_store hfind
    cases found with
    | none => cases hrest
    | some a =>
      cases hrest
      exact ⟨now, (Except.ok.inj hfound).symm, rfl⟩
  · cases houtcome

theorem Runs.of_storeOr {operation : Store.Operation (Except StoreError α)}
    {outcome : Except ServiceError α} (h : (storeOr operation).Runs system outcome final) :
    ∃ now, final = { system with store := (operation.perform now system.store).2 } ∧
      outcome = (operation.perform now system.store).1.mapError fun e =>
        .ofCauses [e.message] := by
  rcases Runs.of_bind h with ⟨answer, between, hask, hrest⟩ | ⟨e, hask, _⟩
  · obtain ⟨now, hanswer, rfl⟩ := Runs.of_store hask
    refine ⟨now, ?_⟩
    rw [← Except.ok.inj hanswer]
    cases answer with
    | ok a =>
      cases hrest
      exact ⟨rfl, rfl⟩
    | error e =>
      cases hrest
      exact ⟨rfl, rfl⟩
  · obtain ⟨_, hanswer, _⟩ := Runs.of_store hask
    cases hanswer

/-- What every allowed call preserves, a whole run of allowed calls preserves. -/
theorem Runs.preserves {program : Program α} {outcome : Except ServiceError α}
    {allowed : {β : Type} → Call β → Prop} (invariant : System → Prop)
    (hstep : ∀ {β : Type} (call : Call β) (env : Environment) (system : System),
      allowed call → invariant system → invariant (call.perform env system).2)
    (hruns : program.Runs system outcome final) (honly : program.Only allowed)
    (h : invariant system) : invariant final := by
  induction hruns with
  | done outcome system => exact h
  | call request next env rest ih =>
    exact ih (honly.2 _) (hstep request env _ honly.1 h)

theorem only_any (program : Program α) : program.Only fun _ => True := by
  induction program with
  | done outcome => trivial
  | call request next ih => exact ⟨trivial, ih⟩

/-- What every operation of the store preserves, every whole run preserves. -/
theorem Runs.preserves_store {program : Program α} {outcome : Except ServiceError α}
    (invariant : Store → Prop)
    (hstep : ∀ {β : Type} (operation : Store.Operation β) (now : Timestamp) (store : Store),
      invariant store → invariant (operation.perform now store).2)
    (hruns : program.Runs system outcome final) (h : invariant system.store) :
    invariant final.store :=
  hruns.preserves (fun system => invariant system.store)
    (fun call env _ _ hbefore => call.preserves_store env invariant hstep hbefore)
    program.only_any h

theorem Runs.keyed {program : Program α} {outcome : Except ServiceError α}
    (hruns : program.Runs system outcome final) (h : system.store.Keyed) : final.store.Keyed :=
  hruns.preserves_store Store.Keyed (fun operation _ _ hkeyed => hkeyed.perform operation) h

theorem Runs.code_known {program : Program α} {outcome : Except ServiceError α}
    (hruns : program.Runs system outcome final) {id : Uuid}
    (h : (system.store.codes.get? id).isSome) : (final.store.codes.get? id).isSome :=
  hruns.preserves_store (fun store => (store.codes.get? id).isSome)
    (fun operation now _ hknown => operation.code_known now hknown) h

end Program

/-! ### Reading -/

def Store.Operation.Reading {α : Type} (operation : Operation α) : Prop :=
  match operation with
  | .findWorkflow _ | .findTask _ | .groupReports _ | .findFinding _ | .countAudited _
  | .findTemplate _ | .defaultTemplate | .activeRules _ | .findCode _ | .findFile _ => True
  | _ => False

def Call.Reading {α : Type} (call : Call α) : Prop :=
  match call with
  | .store operation => operation.Reading
  | .publish _ _ => False
  | _ => True

/-- Nothing has been stored or published; numbers may have been taken. -/
structure System.Reads (system final : System) : Prop where
  store : final.store = system.store
  broker : final.broker = system.broker
  numbers : system.nextNumber ≤ final.nextNumber

namespace System.Reads

variable {system next final : System}

theorem refl (system : System) : system.Reads system := ⟨rfl, rfl, Nat.le_refl _⟩

theorem trans (hfirst : system.Reads next) (hsecond : next.Reads final) : system.Reads final :=
  ⟨hsecond.store.trans hfirst.store, hsecond.broker.trans hfirst.broker,
    Nat.le_trans hfirst.numbers hsecond.numbers⟩

theorem perform {α : Type} {call : Call α} (hreading : call.Reading) (env : Environment)
    (system : System) : system.Reads (call.perform env system).2 := by
  cases call with
  | clock | blobExists | blobUrl => exact .refl system
  | reserve count => exact ⟨rfl, rfl, Nat.le_add_right _ _⟩
  | publish => exact hreading.elim
  | store operation =>
    cases operation with
    | findWorkflow | findTask | groupReports | findFinding | countAudited | findTemplate
    | defaultTemplate | activeRules | findCode | findFile => exact .refl system
    | _ => exact hreading.elim

/-- A program that only reads. -/
theorem runs {α : Type} {program : Program α} {outcome : Except ServiceError α}
    (h : system.Reads next) (hruns : program.Runs next outcome final)
    (hreading : program.Only Call.Reading) : system.Reads final :=
  hruns.preserves system.Reads (fun _ env _ hcall h => h.trans (perform hcall env _)) hreading h

/-- Whatever was shown is shown still. -/
theorem shows {scene : Scene} (h : system.Reads final) (hshows : system.Shows scene) :
    final.Shows { scene with nextNumber := final.nextNumber } := by
  obtain ⟨hkeyed, hworkflow, htask, hlinked, hcode, hgroups, hfindings, _⟩ := hshows
  rw [← h.store] at hkeyed hworkflow htask hcode hgroups hfindings
  exact ⟨hkeyed, hworkflow, htask, hlinked, hcode, hgroups, hfindings, rfl⟩

end System.Reads

/-! ### Numbers -/

/-- Every group that is stored has got its number before. -/
def System.Numbered (system : System) : Prop :=
  ∀ group ∈ system.store.groups, ∀ n, system.nextNumber ≤ n → group.id ≠ Uuid.generated n

def Call.Counted {α : Type} (call : Call α) (nextNumber : Nat) : Prop :=
  match call with
  | .store (.insertGroups _ reports) =>
    ∀ report ∈ reports, ∃ n, n < nextNumber ∧ report.group.id = Uuid.generated n
  | _ => True

theorem Call.nextNumber_le {α : Type} (call : Call α) (env : Environment) (system : System) :
    system.nextNumber ≤ (call.perform env system).2.nextNumber := by
  cases call with
  | reserve count => exact Nat.le_add_right _ _
  | publish queue payload =>
    simp only [Call.perform, System.publish]
    split
    · exact Nat.le_refl _
    · exact Nat.le_succ _
  | clock | store | blobExists | blobUrl => exact Nat.le_refl _

theorem System.Numbered.perform {α : Type} {system : System} {call : Call α}
    (hnumbered : system.Numbered) (hcounted : call.Counted system.nextNumber)
    (env : Environment) : (call.perform env system).2.Numbered := by
  have hgrows := call.nextNumber_le env system
  have hold : ∀ group ∈ system.store.groups, ∀ n,
      (call.perform env system).2.nextNumber ≤ n → group.id ≠ Uuid.generated n :=
    fun group member n hn => hnumbered group member n (Nat.le_trans hgrows hn)
  cases call with
  | publish queue payload =>
    simp only [Call.perform, System.publish] at hold ⊢
    split at hold
    · exact hold
    · exact hold
  | clock | reserve | blobExists | blobUrl => exact hold
  | store operation =>
    intro group member n hn
    have hgroups := (operation.perform_groups env.now system.store).1
    change group ∈ (operation.perform env.now system.store).2.groups at member
    rw [hgroups] at member
    cases operation with
    | insertGroups taskId reports =>
      simp only [Store.Operation.onGroups] at member
      split at member
      · rcases List.mem_append.mp member with member | member
        · exact hold group member n hn
        · obtain ⟨report, hreport, rfl⟩ := List.mem_map.mp member
          obtain ⟨m, hless, hid⟩ := hcounted report hreport
          rw [hid]
          intro heq
          have hsame : m = n := Uuid.generated_injective heq
          have hle : system.nextNumber ≤ n := hn
          omega
      · exact hold group member n hn
    | deleteGroups taskId groupIds =>
      exact hold group (List.mem_filter.mp member).1 n hn
    | _ => exact hold group member n hn

/-! ### Staying within a scene -/

/-- An operation that writes to no other workflow or task, and stores no group without a
number of its own. -/
def Store.Operation.Within {α : Type} (operation : Operation α) (scene : Scene) : Prop :=
  match operation with
  | .createWorkflow _ _ => False
  | .advance id _ => id = scene.workflow.id
  | .finish id _ => id = scene.workflow.id
  | .setArtifact id _ _ _ => id = scene.task.id
  | .bindAnalysis id _ => id = scene.task.id
  | .moveSa id _ _ => id = scene.task.id
  | .moveMl id _ _ => id = scene.task.id
  | .claimMerge id _ _ => id = scene.task.id
  | .storeSummary id _ _ => id = scene.task.id
  | .setAuditCount id _ => id = scene.task.id
  | .insertGroups _ reports =>
    ∀ report ∈ reports, ∃ n, n < scene.nextNumber ∧ report.group.id = Uuid.generated n
  | _ => True

def Call.Within {α : Type} (call : Call α) (scene : Scene) : Prop :=
  match call with
  | .store operation => operation.Within scene
  | _ => True

structure Scene.Spares (scene : Scene) (before after : System) : Prop where
  workflows : ∀ id, id ≠ scene.workflow.id →
    after.store.workflows.get? id = before.store.workflows.get? id
  tasks : ∀ id, id ≠ scene.task.id → after.store.tasks.get? id = before.store.tasks.get? id

namespace Scene

variable {scene met reached : Scene} {before between after : System}

theorem Spares.refl (scene : Scene) (system : System) : scene.Spares system system :=
  ⟨fun _ _ => rfl, fun _ _ => rfl⟩

theorem Spares.trans (hfirst : scene.Spares before between)
    (hsecond : scene.Spares between after) : scene.Spares before after :=
  ⟨fun id hid => (hsecond.workflows id hid).trans (hfirst.workflows id hid),
    fun id hid => (hsecond.tasks id hid).trans (hfirst.tasks id hid)⟩

theorem Spares.of_same_ids (hworkflow : reached.workflow.id = scene.workflow.id)
    (htask : reached.task.id = scene.task.id) (h : reached.Spares before after) :
    scene.Spares before after :=
  ⟨fun id hid => h.workflows id (hworkflow ▸ hid), fun id hid => h.tasks id (htask ▸ hid)⟩

end Scene

namespace Store.Operation

variable {α : Type} {operation : Operation α} {scene : Scene}

theorem Within.adds_nothing (hwithin : operation.Within scene) : operation.creates = false := by
  cases operation with
  | createWorkflow => cases hwithin
  | _ => rfl

theorem Within.onWorkflow (hwithin : operation.Within scene) (now : Timestamp)
    {workflow : Workflow} (hother : workflow.id ≠ scene.workflow.id) :
    operation.onWorkflow now workflow = workflow := by
  cases operation with
  | advance id | finish id =>
    have hid : id = scene.workflow.id := hwithin
    exact if_neg (hid ▸ Ne.symm hother)
  | _ => rfl

theorem Within.onTask (hwithin : operation.Within scene) (now : Timestamp)
    {task : Task} (hother : task.id ≠ scene.task.id) :
    operation.onTask now task = task := by
  cases operation with
  | setArtifact id | bindAnalysis id | moveSa id | moveMl id | claimMerge id | storeSummary id
  | setAuditCount id =>
    have hid : id = scene.task.id := hwithin
    exact if_neg (hid ▸ Ne.symm hother)
  | _ => rfl

end Store.Operation

theorem Call.Within.counted {α : Type} {call : Call α} {scene : Scene}
    (hwithin : call.Within scene) : call.Counted scene.nextNumber := by
  cases call with
  | store operation =>
    cases operation with
    | insertGroups => exact hwithin
    | _ => trivial
  | _ => trivial

theorem Call.Within.spares {α : Type} {call : Call α} {scene : Scene} {system : System}
    (hwithin : call.Within scene) (hkeyed : system.store.Keyed) (env : Environment) :
    scene.Spares system (call.perform env system).2 := by
  cases call with
  | store operation =>
    have hwithin : operation.Within scene := hwithin
    refine ⟨?_, ?_⟩
    · intro id hid
      change (operation.perform env.now system.store).2.workflows.get? id = _
      rw [Store.Operation.get?_perform_workflows env.now hkeyed hwithin.adds_nothing]
      cases hfound : system.store.workflows.get? id with
      | none => rfl
      | some workflow =>
        have hown := hkeyed.workflows id workflow hfound
        rw [Option.map_some, hwithin.onWorkflow env.now (hown ▸ hid)]
    · intro id hid
      change (operation.perform env.now system.store).2.tasks.get? id = _
      rw [Store.Operation.get?_perform_tasks env.now hkeyed hwithin.adds_nothing]
      cases hfound : system.store.tasks.get? id with
      | none => rfl
      | some task =>
        have hown := hkeyed.tasks id task hfound
        rw [Option.map_some, hwithin.onTask env.now (hown ▸ hid)]
  | publish queue payload =>
    simp only [Call.perform, System.publish]
    split
    · exact .refl scene system
    · exact ⟨fun _ _ => rfl, fun _ _ => rfl⟩
  | clock | reserve | blobExists | blobUrl => exact ⟨fun _ _ => rfl, fun _ _ => rfl⟩

theorem Call.Moves.fixed {α : Type} {call : Call α} {env : Environment}
    {scene next : Scene} {answer : α} (hmoves : call.Moves env scene answer next) :
    next.workflow.fixed = scene.workflow.fixed ∧ next.task.id = scene.task.id := by
  rcases hmoves.cases with ⟨nextNumber, rfl⟩ | ⟨operation, _, _, rfl⟩
  · exact ⟨rfl, rfl⟩
  · exact ⟨operation.onWorkflow_fixed env.now scene.workflow,
      operation.onTask_id env.now scene.task⟩

/-! ### The accord of a program on its own -/

/-- Nothing happens between two calls, and every call stays within the scene. -/
def alone : Accord Unit where
  rely _ scene met := met = scene
  grants call _ met _ _ := call.Within met

/-- What a program does on a scene on its own, it does in every whole run on a system that
shows the scene; and it spares the rest. -/
theorem Program.Keeps.runs {α : Type} {program : Program α} {scene : Scene}
    {post : Except ServiceError α → Unit → Scene → Prop} {system final : System}
    {outcome : Except ServiceError α} (hkeeps : program.Keeps alone () scene post)
    (hshows : system.Shows scene) (hruns : program.Runs system outcome final) :
    ∃ reached, final.Shows reached ∧ post outcome () reached ∧
      reached.workflow.fixed = scene.workflow.fixed ∧ reached.task.id = scene.task.id ∧
        scene.Spares system final ∧ (system.Numbered → final.Numbered) := by
  induction hruns generalizing scene with
  | done outcome system => exact ⟨scene, hshows, hkeeps, rfl, rfl, .refl scene system, id⟩
  | call request next env rest ih =>
    obtain ⟨moved, hmoves, hmoved⟩ := hshows.perform env request
    obtain ⟨_, hwithin, hnext⟩ := hkeeps scene rfl env _ moved hmoves
    obtain ⟨reached, hreached, hpost, hfixed, hid, hspares, hnumbered⟩ := ih hnext hmoved
    obtain ⟨hmovedFixed, hmovedId⟩ := hmoves.fixed
    refine ⟨reached, hreached, hpost, hfixed.trans hmovedFixed, hid.trans hmovedId, ?_, ?_⟩
    · apply (Call.Within.spares hwithin hshows.keyed env).trans
      exact hspares.of_same_ids (Workflow.id_of_fixed hmovedFixed) hmovedId
    · intro hstart
      have hcounted := Call.Within.counted hwithin
      rw [← hshows.nextNumber] at hcounted
      exact hnumbered (hstart.perform hcounted env)

/-- What every call within a scene preserves, a whole run on the scene preserves. -/
theorem Program.Keeps.preserves {α : Type} {program : Program α} {scene : Scene}
    {post : Except ServiceError α → Unit → Scene → Prop} {system final : System}
    {outcome : Except ServiceError α} (invariant : System → Prop)
    (hstep : ∀ {β : Type} (call : Call β) (env : Environment) (system : System) (scene : Scene),
      call.Within scene → invariant system → invariant (call.perform env system).2)
    (hkeeps : program.Keeps alone () scene post) (hshows : system.Shows scene)
    (hruns : program.Runs system outcome final) (h : invariant system) : invariant final := by
  induction hruns generalizing scene with
  | done outcome system => exact h
  | call request next env rest ih =>
    obtain ⟨moved, hmoves, hmoved⟩ := hshows.perform env request
    obtain ⟨_, hwithin, hnext⟩ := hkeeps scene rfl env _ moved hmoves
    exact ih hnext hmoved (hstep request env _ scene hwithin h)

end ScanFlow
