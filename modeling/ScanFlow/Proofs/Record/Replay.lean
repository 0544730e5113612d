import ScanFlow.Proofs.Record.Tasks

/-!
A merge can be replayed at any time.

Once the merge of a task is claimed, no service changes anything that a merge reads: decisions,
edits of the catalog, other workflows and late messages leave the report, the bound rules and the
listed groups as they are. A manual merge gives the results of the claim again, then, and writes
nothing else.
-/

namespace ScanFlow

namespace Scene

open Orchestrator

variable {o : Orchestrator} {system next : System} {scene after : Scene}

/-- Once the merge is claimed, a service changes moments and decisions only. -/
theorem Step.same_of_claimed (h : scene.Step o system next after) (horderly : scene.Orderly)
    (hcovers : o.Covers scene) (hclaimed : scene.task.mergeClaimed = true) : scene.Same after := by
  have hstart : scene.timeless.Orderly := (timeless_same scene).orderly horderly
  have hno : ∀ {P : Prop}, scene.task.mergeClaimed = false ∧ P → False := by
    rintro P ⟨hunclaimed, _⟩
    cases hunclaimed.symm.trans hclaimed
  cases h with
  | kept _ hsame => exact hsame
  | compile h =>
    rcases h.dropped_or_compiling with rfl | hcompiling
    · exact .refl _
    · exact (hno ⟨hcompiling.unclaimed, trivial⟩).elim
  | sa answer nextNumber hprocessed _ _ h =>
    obtain ⟨queue, body, haccepted⟩ := hprocessed.accepted
    rcases (hstart.saAnswered o system.store.unruled haccepted).2 with heq | hexpected
    · rw [heq] at h
      exact (timeless_same scene).trans (same_of_timeless h)
    · exact (hno hexpected).elim
  | ml answer hprocessed _ _ h =>
    obtain ⟨queue, body, haccepted⟩ := hprocessed.accepted
    rcases (hstart.mlAnswered o system.store.unruled haccepted).2 with heq | hexpected
    · rw [heq] at h
      exact (timeless_same scene).trans (same_of_timeless h)
    · exact (hno hexpected).elim
  | remerged records moment now hboth hrecords h =>
    rw [h]
    exact same_of_remerged hcovers moment now hboth hrecords

/-- The results of a summary do not depend on what differs. -/
theorem Same.summary_results (h : scene.Same after) :
    after.task.summary.results = scene.task.summary.results := by
  rw [← Summary.results_timeless, Task.summary_of_record h.record, Summary.results_timeless]

end Scene

namespace System

open Orchestrator

variable {o : Orchestrator} {start system later : System} {scene : Scene}

/-- What a merge has read when it was claimed stays as it is from then on. -/
theorem Unsubmitted.claimed_lasts (hstart : start.Unsubmitted) (hreach : Reaches o start system)
    (hshows : system.Shows scene) (hclaimed : scene.task.mergeClaimed = true)
    (hlater : Reaches o system later) : ∃ after, later.Shows after ∧ scene.Same after := by
  induction hlater with
  | refl => exact ⟨scene, hshows, .refl scene⟩
  | step hbefore hservice ih =>
    obtain ⟨met, hmet, hsame⟩ := ih
    have hreached := hreach.trans hbefore
    obtain ⟨horderly, hcovers⟩ := (hstart.inOrder hreached).scenes met hmet
    obtain ⟨after, hafter, _, hstep⟩ := hstart.step hreached hservice hmet
    have hstill : met.task.mergeClaimed = true :=
      (Task.claimed_of_record hsame.record).trans hclaimed
    exact ⟨after, hafter, hsame.trans (hstep.same_of_claimed horderly hcovers hstill)⟩

/-- A manual merge of a task whose merge is claimed gives the results of its summary again. -/
theorem remerge_of_claimed (hshows : system.Shows scene) (horderly : scene.Orderly)
    (hcovers : o.Covers scene) (hclaimed : scene.task.mergeClaimed = true)
    {outcome : Except ServiceError Summary} {final : System}
    (hruns : (o.remerge scene.task.id).Runs system outcome final) :
    ∃ summary now, outcome = .ok summary ∧ summary.results = scene.task.summary.results ∧
      final = { system with store := { system.store with
        tasks := system.store.tasks.insert scene.task.id
          (scene.task.withSummary summary summary.results.length now) } } := by
  obtain ⟨records, hsummarized⟩ := horderly.summarized hcovers hclaimed
  have hread : reportsOf system.store scene.task = scene.results := by
    rw [reportsOf, groupReports_eq hshows]
    rfl
  have hremerges := (remerge_through (o := o) hshows.keyed scene.task.id).runs hruns
  cases hremerges with
  | refused e h =>
    obtain ⟨fault, herror⟩ := h scene.task hshows.task (horderly.consistent.claimed hclaimed)
    rw [hread, hsummarized.merged] at herror
    cases herror
  | replaced moment now hstored hboth hrecords =>
    cases hstored.symm.trans hshows.task
    rw [hread, hsummarized.merged, Except.ok.injEq] at hrecords
    subst hrecords
    refine ⟨_, now, rfl, ?_, ?_⟩
    · rw [results_ofResults, hsummarized.results]
    · rw [results_ofResults]

/-- Once the merge of a task is claimed, every later manual merge of the task gives the results of
the claim, and writes to the summary, the count and the date of the task only. A manual merge
that fails leaves all as it was. -/
theorem remerge_replays (hstart : start.Unsubmitted) (hreach : Reaches o start system) :
    (∀ (taskId : Uuid) (task : Task), system.store.tasks.get? taskId = some task →
      start.store.tasks.get? taskId = none → task.mergeClaimed = true →
        ∀ (later final : System) (outcome : Except ServiceError Summary),
          Reaches o system later → (o.remerge taskId).Runs later outcome final →
            ∃ current summary now, later.store.tasks.get? taskId = some current ∧
              outcome = .ok summary ∧ summary.results = task.summary.results ∧
              final = { later with store := { later.store with
                tasks := later.store.tasks.insert taskId
                  { current with
                    summary
                    weaknessCount := summary.results.length
                    updatedAt := now } } }) ∧
      ∀ (taskId : Uuid) (e : ServiceError) (final : System),
        (o.remerge taskId).Runs system (.error e) final → final = system := by
  refine ⟨?_, ?_⟩
  · intro taskId task hstored hnew hclaimed later final outcome hlater hruns
    obtain ⟨scene, hshows, rfl⟩ := (hstart.inOrder hreach).tasks taskId task hstored hnew
    obtain ⟨hsound, _⟩ := hstart.toInitial.reaches hreach
    obtain rfl := hsound.keyed.tasks _ _ hstored
    obtain ⟨after, hafter, hsame⟩ := hstart.claimed_lasts hreach hshows hclaimed hlater
    obtain ⟨horderly, hcovers⟩ := (hstart.inOrder (hreach.trans hlater)).scenes after hafter
    have hid := Task.id_of_record hsame.record
    rw [← hid] at hruns ⊢
    obtain ⟨summary, now, houtcome, hresults, hfinal⟩ := remerge_of_claimed hafter horderly hcovers
      ((Task.claimed_of_record hsame.record).trans hclaimed) hruns
    exact ⟨after.task, summary, now, hafter.task, houtcome,
      hresults.trans hsame.summary_results, hfinal⟩
  · intro taskId e final hruns
    obtain ⟨hsound, _⟩ := hstart.toInitial.reaches hreach
    have hremerges := (remerge_through (o := o) hsound.keyed taskId).runs hruns
    cases hremerges with
    | refused => rfl

/-- The catalog after both engines have answered: the only rule has been disabled. -/
def withdrawn : System :=
  { bothFound with store := bothFound.store.putRule { onlyRule with enabled := false } }

/-- The results of both engines are merged again after an edit of the catalog. -/
theorem withdrawn_replays :
    ∃ task summary, bothFound.store.tasks.get? (Uuid.generated 2) = some task ∧
      task.mergeClaimed = true ∧ task.summary.results ≠ [] ∧
      ((smallOrchestrator.remerge (Uuid.generated 2)).run quietWorld withdrawn).1 = .ok summary ∧
      summary.results = task.summary.results := by
  have hseen : (bothFound.store.tasks.get? (Uuid.generated 2)).map
      (fun task => (task.mergeClaimed, task.summary.results.isEmpty)) = some (true, false) := by
    decide +kernel
  obtain ⟨task, hstored, hpair⟩ := Option.map_eq_some_iff.mp hseen
  obtain ⟨hclaimed, hsome⟩ := Prod.mk.inj hpair
  have hlater : Reaches smallOrchestrator bothFound withdrawn := .step .refl (.putRule _)
  obtain ⟨_, summary, _, _, houtcome, hresults, _⟩ :=
    (remerge_replays unsubmitted_empty reaches_bothFound).1 _ task hstored (SortedMap.get?_empty _)
      hclaimed withdrawn _ _ hlater (runs_quietly _ _)
  refine ⟨task, summary, hstored, hclaimed, ?_, houtcome, hresults⟩
  intro hnone
  rw [hnone] at hsome
  cases hsome

end System

end ScanFlow
