import ScanFlow.Proofs.Store.History

/-!
What is claimed on a task is written once.

The guards compare and set within one operation, so whoever comes second finds them closed,
whatever has happened in between. An operation that refuses leaves the store as it was, so a
caller may take a refusal for an operation that has not taken place.
-/

namespace ScanFlow

namespace Task

variable {task next later : Task} {now : Timestamp}

/-- What a later record of a task has kept: the artifact and the analysis, once they are bound,
and the claim of the merge, once it is made. -/
structure WrittenOnce (task later : Task) : Prop where
  targetKey : ∀ key, task.targetKey = some key → later.targetKey = some key
  analysis : task.snapshot.isSome = true →
    later.snapshot = task.snapshot ∧ later.kind = task.kind
  claimed : task.mergeClaimed = true → later.mergeClaimed = true

theorem WrittenOnce.refl (task : Task) : task.WrittenOnce task :=
  ⟨fun _ hkey => hkey, fun _ => ⟨rfl, rfl⟩, fun hclaimed => hclaimed⟩

theorem WrittenOnce.trans (first : task.WrittenOnce next) (second : next.WrittenOnce later) :
    task.WrittenOnce later where
  targetKey key hkey := second.targetKey key (first.targetKey key hkey)
  analysis hbound := by
    obtain ⟨hsnapshot, hkind⟩ := first.analysis hbound
    obtain ⟨hsnapshot', hkind'⟩ := second.analysis (by rwa [hsnapshot])
    exact ⟨hsnapshot'.trans hsnapshot, hkind'.trans hkind⟩
  claimed hclaimed := second.claimed (first.claimed hclaimed)

theorem Written.kind (written : task.Written now next) (hbound : task.snapshot.isSome = true) :
    next.kind = task.kind := by
  cases written with
  | artifact h => rw [(withArtifact?_eq_some h).2]
  | analysis h =>
    rw [(withAnalysis?_eq_some h).1] at hbound
    cases hbound
  | sa h => rw [(withSa?_eq_some h).2]
  | ml h => rw [(withMl?_eq_some h).2]
  | claim h =>
    rw [(withClaim?_eq_some h).2.2]
    rfl
  | summary | audits => rfl

theorem Written.mergeClaimed (written : task.Written now next)
    (hclaimed : task.mergeClaimed = true) : next.mergeClaimed = true := by
  cases written with
  | artifact h => rw [(withArtifact?_eq_some h).2, hclaimed]
  | analysis h => rw [(withAnalysis?_eq_some h).2, hclaimed]
  | sa h => rw [(withSa?_eq_some h).2, hclaimed]
  | ml h => rw [(withMl?_eq_some h).2, hclaimed]
  | claim h => rw [(withClaim?_eq_some h).2.2]
  | summary | audits => exact hclaimed

theorem Written.once (written : task.Written now next) : task.WrittenOnce next where
  targetKey _ hkey := written.targetKey hkey
  analysis hbound := by
    obtain ⟨snapshot, hsnapshot⟩ := Option.isSome_iff_exists.mp hbound
    exact ⟨(written.snapshot hsnapshot).trans hsnapshot.symm, written.kind hbound⟩
  claimed := written.mergeClaimed

end Task

namespace StoreEvent

def binds (id : Uuid) : StoreEvent → Bool
  | performed (.bindAnalysis named _) bound => named = id && bound
  | _ => false

def claims (id : Uuid) : StoreEvent → Bool
  | performed (.claimMerge named _ _) claimed => named = id && claimed
  | _ => false

end StoreEvent

namespace Store

variable {start store next : Store} {event : StoreEvent} {history : List StoreEvent} {id : Uuid}

/-! ### Refusals -/

/-- The answers of an operation that has been refused. -/
def Operation.refused {α : Type} : Operation α → α → Bool
  | .createWorkflow _ _, .error _ => true
  | .advance _ _, none => true
  | .finish _ _, false => true
  | .setArtifact _ _ _ _, .error _ => true
  | .setArtifact _ _ _ _, .ok false => true
  | .bindAnalysis _ _, false => true
  | .moveSa _ _ _, false => true
  | .moveMl _ _ _, false => true
  | .claimMerge _ _ _, false => true
  | .storeSummary _ _ _, .error _ => true
  | .setAuditCount _ _, .error _ => true
  | .insertGroups _ _, .error _ => true
  | .setAudit _ _, false => true
  | .registerCompiled _ _, .error _ => true
  | .registerCompiled _ _, .ok false => true
  | _, _ => false

theorem changeWorkflow_refused {change : Workflow → Option Workflow}
    (h : (store.changeWorkflow id change).1 = none) :
    (store.changeWorkflow id change).2 = store := by
  unfold changeWorkflow at h ⊢
  split
  · rename_i hchanged
    rw [hchanged] at h
    cases h
  · rfl

theorem changeTask_refused {change : Task → Option Task}
    (h : (store.changeTask id change).1 = false) : (store.changeTask id change).2 = store := by
  unfold changeTask at h ⊢
  split
  · rename_i hchanged
    rw [hchanged] at h
    cases h
  · rfl

theorem changeKnownTask_refused {change : Task → Option Task}
    (h : (store.changeKnownTask id change).1 ≠ .ok true) :
    (store.changeKnownTask id change).2 = store := by
  unfold changeKnownTask at h ⊢
  split
  · rename_i hknown
    rw [if_pos hknown] at h
    refine changeTask_refused ?_
    simpa using fun htrue => h (congrArg Except.ok htrue)
  · rfl

theorem insertGroups_refused {reports : List GroupReport} {error : StoreError}
    (h : (store.insertGroups id reports).1 = .error error) :
    (store.insertGroups id reports).2 = store := by
  unfold insertGroups at h ⊢
  split
  · rfl
  · rename_i hown
    rw [hown] at h
    cases h

theorem setAudit_refused {audit : Audit} (h : (store.setAudit id audit).1 = false) :
    (store.setAudit id audit).2 = store := by
  unfold setAudit at h ⊢
  split
  · rename_i hfound
    simp [hfound] at h
  · rfl

theorem registerCompiled_refused {file : StoredFile}
    (h : (store.registerCompiled id file).1 ≠ .ok true) :
    (store.registerCompiled id file).2 = store := by
  unfold registerCompiled at h ⊢
  split
  · rfl
  · rename_i hfound
    split
    · rfl
    · rename_i hother
      simp [hfound, hother] at h

/-- An operation that is refused leaves the store as it was. -/
theorem perform_refused {α : Type} (now : Timestamp) (operation : Operation α)
    (h : operation.refused (operation.perform now store).1 = true) :
    (operation.perform now store).2 = store := by
  cases operation with
  | createWorkflow workflow task =>
    rcases createWorkflow_cases store workflow task with hsame | ⟨_, _, hadded⟩
    · rw [Operation.perform, hsame]
    · rw [Operation.perform, hadded] at h
      cases h
  | advance id moment =>
    refine changeWorkflow_refused ?_
    cases hanswer : (store.changeWorkflow id fun workflow => workflow.advanced? moment).1 with
    | none => rfl
    | some workflow => simp [Operation.perform, Operation.refused, hanswer] at h
  | finish id status =>
    refine changeWorkflow_refused ?_
    cases hanswer : (store.changeWorkflow id fun workflow => workflow.finished? status now).1 with
    | none => rfl
    | some workflow => simp [Operation.perform, Operation.refused, hanswer] at h
  | setArtifact id name key saProgress =>
    refine changeKnownTask_refused ?_
    intro hanswer
    simp [Operation.perform, Operation.refused, hanswer] at h
  | bindAnalysis | moveSa | moveMl | claimMerge =>
    refine changeTask_refused ?_
    rw [Bool.eq_false_iff]
    intro hanswer
    simp [Operation.perform, Operation.refused, hanswer] at h
  | storeSummary | setAuditCount =>
    refine changeKnownTask_refused ?_
    intro hanswer
    simp [Operation.perform, accepted, Except.map, Operation.refused, hanswer] at h
  | insertGroups taskId reports =>
    cases hanswer : (store.insertGroups taskId reports).1 with
    | error => exact insertGroups_refused hanswer
    | ok => simp [Operation.perform, Operation.refused, hanswer] at h
  | setAudit id audit =>
    refine setAudit_refused ?_
    rw [Bool.eq_false_iff]
    intro hanswer
    simp [Operation.perform, Operation.refused, hanswer] at h
  | registerCompiled codeId file =>
    refine registerCompiled_refused ?_
    intro hanswer
    simp [Operation.perform, Operation.refused, hanswer] at h
  | _ => cases h

/-! ### What stays written -/

theorem Step.once (step : store.Step event next) {task : Task}
    (hstored : store.tasks.get? id = some task) :
    ∃ after, next.tasks.get? id = some after ∧ task.WrittenOnce after := by
  obtain ⟨after, hafter, rfl | ⟨now, written⟩⟩ := step.task_kept hstored
  · exact ⟨after, hafter, .refl after⟩
  · exact ⟨after, hafter, written.once⟩

theorem Ran.once (ran : start.Ran history store) {task : Task}
    (hstored : start.tasks.get? id = some task) :
    ∃ after, store.tasks.get? id = some after ∧ task.WrittenOnce after := by
  induction ran with
  | start => exact ⟨task, hstored, .refl task⟩
  | step _ step ih =>
    obtain ⟨middle, hmiddle, hkept⟩ := ih
    obtain ⟨after, hafter, honwards⟩ := step.once hmiddle
    exact ⟨after, hafter, hkept.trans honwards⟩

/-! ### What happens once -/

def Bound (id : Uuid) (store : Store) : Prop :=
  ∃ task, store.tasks.get? id = some task ∧ task.snapshot.isSome = true

def Claimed (id : Uuid) (store : Store) : Prop :=
  ∃ task, store.tasks.get? id = some task ∧ task.mergeClaimed = true

theorem Step.bound (step : store.Step event next) (hbound : store.Bound id) : next.Bound id := by
  obtain ⟨task, hstored, hsnapshot⟩ := hbound
  obtain ⟨after, hafter, honce⟩ := step.once hstored
  exact ⟨after, hafter, by rwa [(honce.analysis hsnapshot).1]⟩

theorem Step.claimed (step : store.Step event next) (hclaimed : store.Claimed id) :
    next.Claimed id := by
  obtain ⟨task, hstored, hclaim⟩ := hclaimed
  obtain ⟨after, hafter, honce⟩ := step.once hstored
  exact ⟨after, hafter, honce.claimed hclaim⟩

theorem Step.binds (step : store.Step event next) (hbinds : event.binds id = true) :
    ¬ store.Bound id ∧ next.Bound id := by
  cases step with
  | putRule | putTemplate | putFile | putCode => cases hbinds
  | perform now operation =>
    cases operation with
    | bindAnalysis named binding =>
      simp only [StoreEvent.binds, Bool.and_eq_true, decide_eq_true_eq] at hbinds
      obtain ⟨rfl, hanswer⟩ := hbinds
      obtain ⟨task, after, hstored, hchange, hafter⟩ := changeTask_eq_true hanswer
      obtain ⟨hfree, rfl⟩ := Task.withAnalysis?_eq_some hchange
      refine ⟨?_, _, hafter, rfl⟩
      rintro ⟨other, hother, hbound⟩
      obtain rfl := Option.some.inj (hstored.symm.trans hother)
      rw [hfree] at hbound
      cases hbound
    | _ => cases hbinds

/-- The merge of a task is claimed only after both runs have succeeded. -/
theorem claimMerge_cases {now : Timestamp} {summary : Summary} {count : Nat}
    (h : ((Operation.claimMerge id summary count).perform now store).1 = true) :
    ∃ task, store.tasks.get? id = some task ∧ task.mergeClaimed = false ∧
      task.sa.status = .success ∧ task.ml.status = .success ∧
      ((Operation.claimMerge id summary count).perform now store).2.tasks.get? id =
        some { task.withSummary summary count now with mergeClaimed := true } := by
  obtain ⟨task, after, hstored, hchange, hafter⟩ := changeTask_eq_true h
  obtain ⟨hfree, hboth, rfl⟩ := Task.withClaim?_eq_some hchange
  simp only [Task.bothSucceeded, Bool.and_eq_true, decide_eq_true_eq] at hboth
  exact ⟨task, hstored, hfree, hboth.1, hboth.2, hafter⟩

theorem Step.claims (step : store.Step event next) (hclaims : event.claims id = true) :
    ¬ store.Claimed id ∧ next.Claimed id := by
  cases step with
  | putRule | putTemplate | putFile | putCode => cases hclaims
  | perform now operation =>
    cases operation with
    | claimMerge named summary count =>
      simp only [StoreEvent.claims, Bool.and_eq_true, decide_eq_true_eq] at hclaims
      obtain ⟨rfl, hanswer⟩ := hclaims
      obtain ⟨task, hstored, hfree, _, _, hafter⟩ := claimMerge_cases hanswer
      refine ⟨?_, _, hafter, rfl⟩
      rintro ⟨other, hother, hclaimed⟩
      obtain rfl := Option.some.inj (hstored.symm.trans hother)
      rw [hfree] at hclaimed
      cases hclaimed
    | _ => cases hclaims

/-- What closes for good when it is taken is taken at most once. -/
theorem Ran.taken_once {takes : StoreEvent → Bool} {Closed : Store → Prop}
    (htakes : ∀ {store event next}, Step store event next → takes event = true →
      ¬ Closed store ∧ Closed next)
    (hstays : ∀ {store event next}, Step store event next → Closed store → Closed next)
    (ran : start.Ran history store) :
    history.countP takes ≤ 1 ∧ (history.countP takes = 1 → Closed store) := by
  induction ran with
  | start => exact ⟨Nat.zero_le _, nofun⟩
  | @step history store next event _ step ih =>
    obtain ⟨hatmost, hclosed⟩ := ih
    rw [List.countP_append, List.countP_singleton]
    split
    · rename_i htaken
      obtain ⟨hopen, hnow⟩ := htakes step htaken
      have hnone : history.countP takes ≠ 1 := fun hone => hopen (hclosed hone)
      exact ⟨by omega, fun _ => hnow⟩
    · exact ⟨hatmost, fun hone => hstays step (hclosed hone)⟩

/-- Along every history of a store: what has been claimed on a task stays written. An analysis is
bound to a task at most once, and its merge is claimed at most once. A merge is claimed only of a
task both of whose runs have succeeded, and whatever is refused changes nothing. -/
theorem claims_written_once (ran : start.Ran history store) :
    (∀ id task, start.tasks.get? id = some task →
      ∃ after, store.tasks.get? id = some after ∧ task.WrittenOnce after) ∧
      (∀ id, history.countP (StoreEvent.binds id) ≤ 1) ∧
      (∀ id, history.countP (StoreEvent.claims id) ≤ 1) ∧
      (∀ now id summary count,
        ((Operation.claimMerge id summary count).perform now store).1 = true →
          ∃ task, store.tasks.get? id = some task ∧ task.sa.status = .success ∧
            task.ml.status = .success) ∧
      ∀ {α : Type} now (operation : Operation α),
        operation.refused (operation.perform now store).1 = true →
          (operation.perform now store).2 = store := by
  refine ⟨fun _ _ => ran.once, ?_, ?_, ?_, fun now operation => perform_refused now operation⟩
  · intro id
    exact (ran.taken_once Step.binds Step.bound).1
  · intro id
    exact (ran.taken_once Step.claims Step.claimed).1
  · intro now id summary count hclaimed
    obtain ⟨task, hstored, _, hsa, hml, _⟩ := claimMerge_cases hclaimed
    exact ⟨task, hstored, hsa, hml⟩

/-! ### Two claims of one merge -/

def answeredTask : Task :=
  { Task.fresh ⟨2⟩ ⟨3⟩ "manual" "shop.jar" (some "shop") (some .saMl) ⟨0, 0⟩ with
    sa := { SaRun.initial with status := .success }
    ml := { MlRun.initial with status := .success } }

def answeredStore : Store := { empty with tasks := (∅ : Table Task).insert ⟨2⟩ answeredTask }

def claim : Operation Bool := .claimMerge ⟨2⟩ (.empty ⟨5, 0⟩) 0

def claimedStore : Store := (claim.perform ⟨5, 0⟩ answeredStore).2

/-- Of two claims of a merge the first is accepted and the second refused. -/
theorem second_claim_refused :
    ∃ later, answeredStore.Ran [.performed claim true, .performed claim false] later ∧
      later = claimedStore ∧
      (∃ after, later.tasks.get? ⟨2⟩ = some after ∧ answeredTask.WrittenOnce after ∧
        after.mergeClaimed = true) ∧
      [StoreEvent.performed claim true, .performed claim false].countP
        (StoreEvent.claims ⟨2⟩) ≤ 1 := by
  have hsame : (claim.perform ⟨6, 0⟩ claimedStore).2 = claimedStore := by decide
  have hfirst : answeredStore.Step (.performed claim true) claimedStore := .perform ⟨5, 0⟩ claim
  have hsecond : claimedStore.Step (.performed claim false) claimedStore := by
    have hstep : claimedStore.Step (.performed claim false) (claim.perform ⟨6, 0⟩ claimedStore).2 :=
      .perform ⟨6, 0⟩ claim
    rwa [hsame] at hstep
  have ran := Ran.step (.step .start hfirst) hsecond
  have hstored : answeredStore.tasks.get? ⟨2⟩ = some answeredTask := by decide
  obtain ⟨hrecords, _, hclaims, _, _⟩ := claims_written_once ran
  obtain ⟨after, hafter, honce⟩ := hrecords ⟨2⟩ answeredTask hstored
  have hrecord : claimedStore.tasks.get? ⟨2⟩ =
      some { answeredTask.withSummary (.empty ⟨5, 0⟩) 0 ⟨5, 0⟩ with mergeClaimed := true } := by
    decide
  obtain rfl := Option.some.inj (hrecord.symm.trans hafter)
  exact ⟨_, ran, rfl, ⟨_, hafter, honce, rfl⟩, hclaims ⟨2⟩⟩

end Store

end ScanFlow
