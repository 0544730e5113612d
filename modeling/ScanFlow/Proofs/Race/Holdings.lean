import ScanFlow.Proofs.Lifecycle.Phase
import ScanFlow.Proofs.Program.Interleaving
import ScanFlow.Proofs.Race.Ledger

/-!
Answers of the static analysis that race for one task: what their deliveries hold in store.

A delivery takes identifiers, stores its reports under them, and learns only then whether its answer
has come too late. If it has, the delivery takes its reports away again, while others store theirs
and settle the workflow. What a delivery holds is found by its own identifiers alone, so no other
delivery can touch it. Every group of the task, and every finding that is new, is held by somebody.
-/

namespace ScanFlow

/-! ### What a delivery holds -/

/-- What a delivery knows of the answer that it brings. -/
inductive Fate where
  | waiting
  | taken
  | late
  deriving DecidableEq

/-- What a delivery of an answer has of its own: the identifiers that it has taken, the reports
that it keeps in store under them, and the fate of the answer. -/
structure Holding where
  answer : SaFinished
  own : List Uuid
  held : List GroupReport
  fate : Fate

/-- A task whose static analysis is answered, maybe more than once. -/
structure Contested (origin scene : Scene) : Prop where
  fixed : scene.workflow.fixed = origin.workflow.fixed
  id : scene.task.id = origin.task.id
  awaited : scene.task.sa.status.isTerminal = false →
    scene.task.sa.status = .running ∧ scene.task.runsSa = true
  others : (scene.groups.filter fun group => group.taskId ≠ origin.task.id) =
    origin.groups.filter fun group => group.taskId ≠ origin.task.id
  number : origin.nextNumber ≤ scene.nextNumber
  unnumbered : ∀ n, scene.nextNumber ≤ n →
    (∀ group ∈ scene.groups, group.id ≠ Uuid.generated n) ∧
      scene.findings.get? (Uuid.generated n) = none

namespace Holding

/-- A delivery has taken its identifiers since the answers were awaited, and under them it holds
the reports of its answer, or nothing. -/
structure Fits (holding : Holding) (origin scene : Scene) : Prop where
  taken : ∀ id ∈ holding.own, ∃ n, origin.nextNumber ≤ n ∧ n < scene.nextNumber ∧
    id = Uuid.generated n
  bears : scene.Bears holding.own holding.held
  formed : Scene.Formed origin.task.id holding.own holding.held
  ended : holding.fate ≠ .waiting → scene.task.sa.status.isTerminal = true

def start (answer : SaFinished) : Holding :=
  { answer, own := [], held := [], fate := .waiting }

/-- A delivery that is done: its answer has been taken, or it has come too late, and nothing of it
is left in store. -/
def Done (holding : Holding) : Prop :=
  holding.fate = .taken ∨ holding.fate = .late ∧ holding.held = []

structure Won (holding : Holding) (origin scene : Scene) : Prop where
  taken : holding.fate = .taken
  reported : ∃ first, holding.held = storedReports origin.task.id first holding.answer.rules
  status : scene.task.sa.status = .ofSuccess holding.answer.success
  results : scene.task.sa.resultIds = holding.held.map fun report => report.group.id

/-- A delivery may learn that the static analysis has ended without it. -/
def Learns (holding : Holding) (met : Scene) (learnt : Holding) : Prop :=
  learnt = holding ∨ met.task.sa.status.isTerminal = true ∧ holding.fate = .waiting ∧
    learnt = { holding with fate := .late }

end Holding

/-- An operation that leaves the static analysis of tasks and the findings alone. -/
def Store.Operation.Aside {β : Type} (operation : Operation β) : Prop :=
  match operation with
  | .setArtifact _ _ _ _ | .bindAnalysis _ _ | .moveSa _ _ _ => False
  | .insertGroups _ _ | .deleteGroups _ _ | .setAudit _ _ => False
  | _ => True

namespace Holding

def Granted {β : Type} (holding : Holding) (operation : Store.Operation β) (met : Scene)
    (learnt : Holding) : Prop :=
  match operation with
  | .insertGroups taskId reports =>
    taskId = met.task.id ∧ holding.fate = .waiting ∧ holding.held = [] ∧
      (∃ first, holding.own = numbered first (recordCount holding.answer.rules) ∧
        reports = storedReports met.task.id first holding.answer.rules) ∧
      learnt = { holding with held := reports }
  | .deleteGroups taskId groupIds =>
    taskId = met.task.id ∧ holding.fate = .late ∧
      groupIds = (holding.held.map fun report => report.group.id) ∧
      learnt = { holding with held := [] }
  | .moveSa id expected next =>
    expected.isTerminal = false ∧
      (id = met.task.id ∧ met.task.sa.status = expected ∧ holding.fate = .waiting ∧
          next.status = .ofSuccess holding.answer.success ∧
          next.resultIds = (holding.held.map fun report => report.group.id) ∧
          (∃ first, holding.held = storedReports met.task.id first holding.answer.rules) ∧
          learnt = { holding with fate := .taken } ∨
        met.task.sa.status.isTerminal = true ∧ holding.Learns met learnt)
  | .bindAnalysis id binding =>
    met.task.sa.status.isTerminal = true ∧ (id = met.task.id → binding.sa = met.task.sa) ∧
      learnt = holding
  | operation => operation.Aside ∧ holding.Learns met learnt

end Holding

def contesting (origin : Scene) : Accord Holding where
  rely holding since met :=
    Contested origin met ∧ holding.Fits origin met ∧
      (since.task.sa.status.isTerminal = true → met.task.sa = since.task.sa)
  grants call holding met learnt _ :=
    match call with
    | .reserve count =>
      holding.own = [] ∧ learnt = { holding with own := numbered met.nextNumber count }
    | .store operation => holding.Granted operation met learnt
    | _ => learnt = holding

variable {origin since met reached : Scene} {holding learnt other : Holding} {now : Timestamp}

/-! ### One call -/

/-- What is the same after a call that is none of the contest. -/
structure Undisturbed (met reached : Scene) : Prop where
  fixed : reached.workflow.fixed = met.workflow.fixed
  id : reached.task.id = met.task.id
  sa : reached.task.sa = met.task.sa
  kind : met.task.sa.status.isTerminal = false → reached.task.kind = met.task.kind
  groups : reached.groups = met.groups
  findings : reached.findings = met.findings
  number : met.nextNumber ≤ reached.nextNumber

theorem Undisturbed.refl (met : Scene) : Undisturbed met met :=
  ⟨rfl, rfl, rfl, fun _ => rfl, rfl, rfl, Nat.le_refl _⟩

theorem Undisturbed.sameUnder (h : Undisturbed met reached) (ids : List Uuid) :
    met.SameUnder reached ids :=
  ⟨by rw [h.groups], fun _ _ => by rw [h.findings]⟩

theorem Undisturbed.contested (h : Undisturbed met reached) (hmet : Contested origin met) :
    Contested origin reached where
  fixed := h.fixed.trans hmet.fixed
  id := h.id.trans hmet.id
  awaited hawaited := by
    rw [h.sa] at hawaited ⊢
    unfold Task.runsSa
    rw [h.kind hawaited]
    exact hmet.awaited hawaited
  others := by
    rw [h.groups]
    exact hmet.others
  number := Nat.le_trans hmet.number h.number
  unnumbered n hn := by
    rw [h.groups, h.findings]
    exact hmet.unnumbered n (Nat.le_trans h.number hn)

/-- An operation that is none of the contest does not disturb it. -/
theorem undisturbed_aside {β : Type} {operation : Store.Operation β} (haside : operation.Aside) :
    Undisturbed met (met.after now operation) := by
  have htask : ((operation.onTask now met.task).sa, (operation.onTask now met.task).kind) =
      (met.task.sa, met.task.kind) := by
    refine Store.Operation.changed_keeps (fun task => (task.sa, task.kind)) met.task ?_
    intro id change hchange next hnext
    cases operation with
    | setArtifact | bindAnalysis | moveSa => exact haside.elim
    | moveMl =>
      obtain ⟨rfl, rfl⟩ := Prod.mk.inj (Option.some.inj hchange)
      rw [(Task.withMl?_eq_some hnext).2]
    | claimMerge =>
      obtain ⟨rfl, rfl⟩ := Prod.mk.inj (Option.some.inj hchange)
      rw [(Task.withClaim?_eq_some hnext).2.2]
      rfl
    | storeSummary | setAuditCount =>
      obtain ⟨rfl, rfl⟩ := Prod.mk.inj (Option.some.inj hchange)
      cases hnext
      rfl
    | _ => cases hchange
  obtain ⟨hsa, hkind⟩ := Prod.mk.inj htask
  refine ⟨operation.onWorkflow_fixed now met.workflow, operation.onTask_id now met.task, hsa,
    fun _ => hkind, ?_, ?_, Nat.le_refl _⟩
  · cases operation with
    | insertGroups | deleteGroups => exact haside.elim
    | _ => rfl
  · cases operation with
    | insertGroups | deleteGroups | setAudit => exact haside.elim
    | _ => rfl

/-- Once the static analysis has ended, nobody ends it again. -/
theorem undisturbed_moveSa {id : Uuid} {expected : RunStatus} {next : SaRun}
    (hexpected : expected.isTerminal = false) (hended : met.task.sa.status.isTerminal = true) :
    Undisturbed met (met.after now (.moveSa id expected next)) := by
  by_cases hid : id = met.task.id
  · have hnone : met.task.withSa? expected next now = none := by
      unfold Task.withSa?
      rw [if_neg]
      rintro rfl
      rw [hexpected] at hended
      cases hended
    rw [Scene.after_taskChange (by rw [hid]; rfl), hnone]
    exact .refl met
  · have hsame : met.after now (.moveSa id expected next) = met := by
      unfold Scene.after Store.Operation.onTask Store.Operation.changed
      dsimp only [Store.Operation.taskChange?]
      rw [if_neg hid]
      rfl
    rw [hsame]
    exact .refl met

/-- Once the static analysis has ended, it may only be bound as it is. -/
theorem undisturbed_bindAnalysis {id : Uuid} {binding : AnalysisBinding}
    (hended : met.task.sa.status.isTerminal = true)
    (hsa : id = met.task.id → binding.sa = met.task.sa) :
    Undisturbed met (met.after now (.bindAnalysis id binding)) := by
  have htask : ((Store.Operation.bindAnalysis id binding).onTask now met.task).sa =
      met.task.sa := by
    unfold Store.Operation.onTask Store.Operation.changed
    dsimp only [Store.Operation.taskChange?]
    split
    · rename_i hid
      refine Store.Operation.getD_keeps Task.sa fun next hnext => ?_
      rw [(Task.withAnalysis?_eq_some hnext).2]
      exact hsa hid
    · rfl
  refine ⟨Store.Operation.onWorkflow_fixed now _ met.workflow,
    Store.Operation.onTask_id now _ met.task, htask, fun hawaited => ?_, rfl, rfl, Nat.le_refl _⟩
  rw [hended] at hawaited
  cases hawaited

namespace Holding

theorem Fits.later (h : holding.Fits origin met) (hsame : met.SameUnder reached holding.own)
    (hnumber : met.nextNumber ≤ reached.nextNumber)
    (hended : met.task.sa.status.isTerminal = true → reached.task.sa = met.task.sa) :
    holding.Fits origin reached where
  taken id hid := by
    obtain ⟨n, hfirst, hlast, hsame⟩ := h.taken id hid
    exact ⟨n, hfirst, Nat.lt_of_lt_of_le hlast hnumber, hsame⟩
  bears := h.bears.kept hsame
  formed := h.formed
  ended hfate := by
    have hterminal := h.ended hfate
    rw [hended hterminal]
    exact hterminal

/-- What becomes of the analysis in a call: it is left as it is, and so is the answer that has
ended it; or this delivery ends it. -/
def Decides (holding : Holding) (origin met : Scene) (learnt : Holding) (reached : Scene)
    (ends : Bool) : Prop :=
  match ends with
  | false => reached.task.sa = met.task.sa ∧ (learnt.fate = .taken ↔ holding.fate = .taken) ∧
      (holding.fate = .taken → learnt.held = holding.held)
  | true => met.task.sa.status.isTerminal = false ∧ learnt.Won origin reached

/-- What a granted call does: it stores and deletes under own identifiers only, leaves an analysis
alone that has ended, and takes no identifiers but new ones. -/
structure Step (holding : Holding) (origin met : Scene) (learnt : Holding) (reached : Scene)
    (ends : Bool) : Prop where
  contested : Contested origin reached
  fits : learnt.Fits origin reached
  answer : learnt.answer = holding.answer
  number : met.nextNumber ≤ reached.nextNumber
  kept : ∀ id ∈ holding.own, id ∈ learnt.own
  own : ∀ id ∈ learnt.own, id ∈ holding.own ∨ ∃ n, met.nextNumber ≤ n ∧ id = Uuid.generated n
  same : ∀ ids : List Uuid, (∀ id ∈ ids, id ∉ learnt.own) → met.SameUnder reached ids
  ended : met.task.sa.status.isTerminal = true → reached.task.sa = met.task.sa
  decides : holding.Decides origin met learnt reached ends

theorem step_aside (hmet : Contested origin met) (hfits : holding.Fits origin met)
    (hlearns : holding.Learns met learnt) (h : Undisturbed met reached) :
    holding.Step origin met learnt reached false := by
  have hkept : holding.Fits origin reached :=
    hfits.later (h.sameUnder _) h.number fun _ => h.sa
  rcases hlearns with rfl | ⟨hended, hwaiting, rfl⟩
  · exact ⟨h.contested hmet, hkept, rfl, h.number, fun _ hid => hid, fun _ hid => Or.inl hid,
      fun ids _ => h.sameUnder ids, fun _ => h.sa, h.sa, Iff.rfl, fun _ => rfl⟩
  · refine ⟨h.contested hmet, { hkept with ended := fun _ => ?_ }, rfl, h.number,
      fun _ hid => hid, fun _ hid => Or.inl hid, fun ids _ => h.sameUnder ids, fun _ => h.sa, h.sa,
      ?_, fun _ => rfl⟩
    · rw [h.sa]
      exact hended
    · simp [hwaiting]

/-- Without identifiers, nothing is held. -/
theorem Fits.held_eq_nil (h : holding.Fits origin met) (hnone : holding.own = []) :
    holding.held = [] := by
  rw [List.eq_nil_iff_forall_not_mem]
  intro report member
  have hid := h.formed.group_id member
  rw [hnone] at hid
  cases hid

/-- New numbers bear nothing. -/
theorem step_reserve (hmet : Contested origin met) (hfits : holding.Fits origin met)
    (hnone : holding.own = []) (count : Nat) :
    holding.Step origin met { holding with own := numbered met.nextNumber count }
      { met with nextNumber := met.nextNumber + count } false where
  contested :=
    { hmet with
      number := Nat.le_trans hmet.number (Nat.le_add_right _ _)
      unnumbered := fun n hn => hmet.unnumbered n (Nat.le_trans (Nat.le_add_right _ _) hn) }
  fits := by
    have hheld := hfits.held_eq_nil hnone
    refine ⟨?_, ⟨?_, ?_⟩, ?_, hfits.ended⟩
    · intro id hid
      obtain ⟨n, hfirst, hlast, hsame⟩ := mem_numbered.mp hid
      exact ⟨n, Nat.le_trans hmet.number hfirst, hlast, hsame⟩
    · dsimp only
      rw [hheld, List.filter_eq_nil_iff.mpr]
      · rfl
      · intro group member hid
        obtain ⟨n, hfirst, _, hsame⟩ := mem_numbered.mp (of_decide_eq_true hid)
        exact (hmet.unnumbered n hfirst).1 group member hsame
    · intro id hid
      obtain ⟨n, hfirst, _, rfl⟩ := mem_numbered.mp hid
      dsimp only
      rw [hheld]
      exact (hmet.unnumbered n hfirst).2
    · dsimp only
      rw [hheld]
      exact ⟨nofun, nofun, nofun⟩
  answer := rfl
  number := Nat.le_add_right _ _
  kept := by
    rw [hnone]
    nofun
  own id hid := by
    obtain ⟨n, hfirst, _, hsame⟩ := mem_numbered.mp hid
    exact Or.inr ⟨n, hfirst, hsame⟩
  same ids _ := ⟨rfl, fun _ _ => rfl⟩
  ended _ := rfl
  decides := ⟨rfl, Iff.rfl, fun _ => rfl⟩

/-- An identifier that a delivery has taken is not taken again. -/
theorem Fits.free (h : holding.Fits origin met) {n : Nat} (hn : met.nextNumber ≤ n) :
    Uuid.generated n ∉ holding.own := by
  intro hid
  obtain ⟨m, _, hlast, hequal⟩ := h.taken _ hid
  have hnumber := Uuid.generated_injective hequal
  omega

/-- Reports of the task are stored under identifiers that have been taken before. -/
theorem contested_insertGroups (hmet : Contested origin met) (hfits : holding.Fits origin met)
    {reports : List GroupReport} (hformed : Scene.Formed met.task.id holding.own reports) :
    Contested origin (met.after now (.insertGroups met.task.id reports)) := by
  have hothers : ((reports.map GroupReport.group).filter fun group =>
      group.taskId ≠ origin.task.id) = [] := by
    rw [List.filter_eq_nil_iff]
    intro group member
    obtain ⟨report, hreport, rfl⟩ := List.mem_map.mp member
    simp [hformed.taskId report hreport, hmet.id]
  have hfree : ∀ n, met.nextNumber ≤ n →
      Uuid.generated n ∉ reports.flatMap GroupReport.ids :=
    fun n hn hid => hfits.free hn (hformed.ids _ hid)
  rw [Scene.after_insertGroups, if_pos hformed.ownReports]
  refine { hmet with others := ?_, unnumbered := ?_ }
  · dsimp only
    rw [List.filter_append, hothers, List.append_nil, hmet.others]
  · intro n hn
    constructor
    · intro group member
      rcases List.mem_append.mp member with hold | hadded
      · exact (hmet.unnumbered n hn).1 group hold
      · obtain ⟨report, hreport, rfl⟩ := List.mem_map.mp hadded
        intro hid
        exact hfits.free hn (hid ▸ hformed.group_id hreport)
    · have hkept : (met.after now (.insertGroups met.task.id reports)).findings.get? _ = _ :=
        (Scene.sameAt_insertGroups (hfree n hn)).2
      rw [Scene.after_insertGroups, if_pos hformed.ownReports] at hkept
      exact hkept.trans (hmet.unnumbered n hn).2

/-- Reports are stored under the identifiers that have been taken for them. -/
theorem step_insertGroups (hmet : Contested origin met) (hfits : holding.Fits origin met)
    (hwaiting : holding.fate = .waiting) (hnone : holding.held = []) {reports : List GroupReport}
    (hids : reports.flatMap GroupReport.ids = holding.own) (hdistinct : holding.own.Nodup)
    (hformed : Scene.Formed met.task.id holding.own reports) :
    holding.Step origin met { holding with held := reports }
      (met.after now (.insertGroups met.task.id reports)) false := by
  have hcontested : Contested origin (met.after now (.insertGroups met.task.id reports)) :=
    contested_insertGroups hmet hfits hformed
  have hbears : Scene.Bears (met.after now (.insertGroups met.task.id reports)) holding.own
      reports :=
    Scene.bears_insertGroups (hnone ▸ hfits.bears) hformed.ownReports hids hdistinct
  have hsame : ∀ ids : List Uuid, (∀ id ∈ ids, id ∉ holding.own) →
      met.SameUnder (met.after now (.insertGroups met.task.id reports)) ids :=
    fun ids hapart => Scene.sameUnder_insertGroups (hids ▸ hapart)
  rw [Scene.after_insertGroups, if_pos hformed.ownReports] at hcontested hbears hsame ⊢
  refine ⟨hcontested, ⟨hfits.taken, hbears, hmet.id ▸ hformed, hfits.ended⟩, rfl, Nat.le_refl _,
    fun _ hid => hid, fun _ hid => Or.inl hid, hsame, fun _ => rfl, rfl, Iff.rfl, ?_⟩
  intro htaken
  rw [hwaiting] at htaken
  cases htaken

/-- Groups of the task are taken away. -/
theorem contested_deleteGroups (hmet : Contested origin met) (groupIds : List Uuid) :
    Contested origin (met.after now (.deleteGroups met.task.id groupIds)) := by
  refine { hmet with others := ?_, unnumbered := ?_ }
  · rw [← hmet.others]
    change ((met.groups.filter fun group => !Store.isNamed met.task.id _ group).filter _) = _
    rw [List.filter_filter]
    apply List.filter_congr
    intro group _
    simp only [Store.isNamed, hmet.id]
    by_cases hother : group.taskId = origin.task.id
    · simp [hother]
    · simp [hother]
  · intro n hn
    refine ⟨fun group member => (hmet.unnumbered n hn).1 group (List.mem_filter.mp member).1, ?_⟩
    change (met.findings.eraseAll _).get? _ = none
    rw [SortedMap.get?_eraseAll]
    split
    · rfl
    · exact (hmet.unnumbered n hn).2

/-- Reports that have come too late are taken away. -/
theorem step_deleteGroups (hmet : Contested origin met) (hfits : holding.Fits origin met)
    (hlate : holding.fate = .late) :
    holding.Step origin met { holding with held := [] }
      (met.after now
        (.deleteGroups met.task.id (holding.held.map fun report => report.group.id))) false := by
  have hformed := hfits.formed
  rw [← hmet.id] at hformed
  refine ⟨contested_deleteGroups hmet _, ⟨hfits.taken,
    Scene.bears_deleteGroups hfits.bears hformed, ⟨nofun, nofun, nofun⟩, hfits.ended⟩, rfl,
    Nat.le_refl _, fun _ hid => hid, fun _ hid => Or.inl hid,
    fun _ hapart => Scene.sameUnder_deleteGroups hfits.bears hformed hapart, fun _ => rfl, rfl,
    Iff.rfl, ?_⟩
  intro htaken
  rw [hlate] at htaken
  cases htaken

/-- The delivery ends the static analysis with the reports that it holds. -/
theorem step_moveSa (hmet : Contested origin met) (hfits : holding.Fits origin met)
    {next : SaRun} (hawaited : met.task.sa.status.isTerminal = false)
    (hstatus : next.status = .ofSuccess holding.answer.success)
    (hresults : next.resultIds = holding.held.map fun report => report.group.id)
    (hreported : ∃ first, holding.held = storedReports met.task.id first holding.answer.rules) :
    holding.Step origin met { holding with fate := .taken }
      { met with task :=
        { met.task with sa := next, weaknessCount := next.weaknessCount, updatedAt := now } }
      true := by
  have hterminal : next.status.isTerminal = true := by
    rw [hstatus]
    exact RunStatus.ofSuccess_isTerminal holding.answer.success
  refine ⟨?_, ⟨hfits.taken, ⟨hfits.bears.groups, hfits.bears.findings⟩, hfits.formed,
    fun _ => hterminal⟩, rfl, Nat.le_refl _, fun _ hid => hid, fun _ hid => Or.inl hid,
    fun ids _ => ⟨rfl, fun _ _ => rfl⟩, ?_, hawaited, rfl, hmet.id ▸ hreported, hstatus, hresults⟩
  · refine { hmet with awaited := fun hopen => ?_ }
    exact absurd (hterminal.symm.trans hopen) nofun
  · intro hended
    rw [hawaited] at hended
    cases hended

end Holding

def Event.endsSa (taskId : Uuid) : Event → Bool
  | ⟨.store (.moveSa id _ _), moved⟩ => decide (id = taskId) && moved
  | _ => false

/-- Once the static analysis has ended, no call ends it. -/
theorem endsSa_of_ended (hmet : Contested origin met) {id : Uuid} {expected : RunStatus}
    {next : SaRun} {answer : Bool} (hexpected : expected.isTerminal = false)
    (hended : met.task.sa.status.isTerminal = true)
    (hanswer : (Store.Operation.moveSa id expected next).Answers now met answer) :
    Event.endsSa origin.task.id ⟨.store (.moveSa id expected next), answer⟩ = false := by
  by_cases hid : id = met.task.id
  · have hlost : answer = false := by
      rw [hanswer hid]
      unfold Task.withSa?
      rw [if_neg]
      · rfl
      · rintro rfl
        exact absurd (hexpected.symm.trans hended) nofun
    simp [Event.endsSa, hlost]
  · simp [Event.endsSa, ← hmet.id, hid]

namespace Holding

/-- Every granted call of the store is a step. -/
theorem step_store {β : Type} {operation : Store.Operation β} {answer : β}
    (hmet : Contested origin met) (hfits : holding.Fits origin met)
    (hanswer : operation.Answers now met answer)
    (hgrants : holding.Granted operation met learnt) :
    holding.Step origin met learnt (met.after now operation)
      (Event.endsSa origin.task.id ⟨.store operation, answer⟩) := by
  cases operation with
  | insertGroups taskId reports =>
    obtain ⟨rfl, hwaiting, hnone, ⟨first, hown, rfl⟩, rfl⟩ := hgrants
    refine step_insertGroups hmet hfits hwaiting hnone ?_ (hown ▸ numbered_nodup _ _) ?_
    · rw [storedReports_ids, hown]
    · rw [hown]
      exact formed_storedReports _ _ _
  | deleteGroups taskId groupIds =>
    obtain ⟨rfl, hlate, rfl, rfl⟩ := hgrants
    exact step_deleteGroups hmet hfits hlate
  | moveSa id expected next =>
    obtain ⟨hexpected, ⟨rfl, hstatus, _, hnext, hresults, hreported, rfl⟩ | ⟨hended, hlearns⟩⟩ :=
      hgrants
    · have hmoved : met.task.withSa? expected next now = some
          { met.task with sa := next, weaknessCount := next.weaknessCount, updatedAt := now } :=
        if_pos hstatus
      have hwon : answer = true := by
        rw [hanswer rfl, hmoved]
        rfl
      have hends : Event.endsSa origin.task.id
          ⟨.store (.moveSa met.task.id expected next), answer⟩ = true := by
        simp [Event.endsSa, hmet.id, hwon]
      rw [hends, Scene.after_taskChange rfl, hmoved]
      exact step_moveSa hmet hfits (hstatus ▸ hexpected) hnext hresults hreported
    · rw [endsSa_of_ended hmet hexpected hended hanswer]
      exact step_aside hmet hfits hlearns (undisturbed_moveSa hexpected hended)
  | bindAnalysis id binding =>
    obtain ⟨hended, hsa, rfl⟩ := hgrants
    exact step_aside hmet hfits (Or.inl rfl) (undisturbed_bindAnalysis hended hsa)
  | _ => exact step_aside hmet hfits hgrants.2 (undisturbed_aside hgrants.1)

/-- Every granted call is a step. -/
theorem step_call {β : Type} {call : Call β} {env : Environment} {answer : β}
    (hmet : Contested origin met) (hfits : holding.Fits origin met)
    (hmoves : call.Moves env met answer reached)
    (hgrants : (contesting origin).grants call holding met learnt reached) :
    holding.Step origin met learnt reached (Event.endsSa origin.task.id ⟨call, answer⟩) := by
  have hstill : ∀ nextNumber, met.nextNumber ≤ nextNumber →
      Undisturbed met { met with nextNumber } :=
    fun _ hnumber => ⟨rfl, rfl, rfl, fun _ => rfl, rfl, rfl, hnumber⟩
  cases call with
  | store operation =>
    obtain ⟨hanswer, rfl⟩ := hmoves
    exact step_store hmet hfits hanswer hgrants
  | reserve count =>
    obtain ⟨hnone, rfl⟩ := hgrants
    obtain ⟨_, rfl⟩ := hmoves
    exact step_reserve hmet hfits hnone count
  | publish queue payload =>
    cases hgrants
    rcases hmoves with rfl | rfl
    · exact step_aside hmet hfits (Or.inl rfl) (.refl _)
    · exact step_aside hmet hfits (Or.inl rfl) (hstill _ (Nat.le_succ _))
  | clock | blobExists | blobUrl =>
    cases hgrants
    cases hmoves
    exact step_aside hmet hfits (Or.inl rfl) (.refl _)

end Holding

/-! ### All deliveries -/

/-- The account of all deliveries: no identifier belongs to two of them, every group of the task
belongs to one, and so does every finding that is not as it was. -/
structure Ledger (origin : Scene) (answers : List SaFinished) (scene : Scene)
    (holdings : List Holding) : Prop where
  contested : Contested origin scene
  length : holdings.length = answers.length
  answers : ∀ (index : Nat) (holding : Holding), holdings[index]? = some holding →
    answers[index]? = some holding.answer
  fits : ∀ holding ∈ holdings, holding.Fits origin scene
  apart : ∀ (i j : Nat) (first second : Holding), i ≠ j → holdings[i]? = some first →
    holdings[j]? = some second → ∀ id ∈ first.own, id ∉ second.own
  groups : ∀ group ∈ scene.groups, group.taskId = origin.task.id →
    ∃ holding ∈ holdings, group.id ∈ holding.own
  findings : ∀ id, scene.findings.get? id = origin.findings.get? id ∨
    ∃ holding ∈ holdings, id ∈ holding.own

variable {answers : List SaFinished} {holdings : List Holding} {index : Nat} {ends : Bool}

namespace Holding.Step

/-- A delivery never comes to own what another one owns. -/
theorem apart (h : holding.Step origin met learnt reached ends) (hother : other.Fits origin met)
    (hapart : ∀ id ∈ holding.own, id ∉ other.own) : ∀ id ∈ other.own, id ∉ learnt.own := by
  intro id hid hlearnt
  rcases h.own id hlearnt with hown | ⟨n, hn, rfl⟩
  · exact hapart id hown hid
  · exact hother.free hn hid

/-- What had an owner has one. -/
theorem owner (h : holding.Step origin met learnt reached ends)
    (hholding : holdings[index]? = some holding) {id : Uuid}
    (howner : ∃ holding ∈ holdings, id ∈ holding.own) :
    ∃ holding ∈ holdings.set index learnt, id ∈ holding.own := by
  obtain ⟨owner, member, hid⟩ := howner
  obtain ⟨position, hposition⟩ := List.mem_iff_getElem?.mp member
  by_cases hsame : position = index
  · subst hsame
    cases hholding.symm.trans hposition
    exact ⟨learnt, List.mem_set (List.getElem?_eq_some_iff.mp hholding).1 learnt, h.kept id hid⟩
  · refine ⟨owner, List.mem_iff_getElem?.mpr ⟨position, ?_⟩, hid⟩
    rw [List.getElem?_set_ne (Ne.symm hsame)]
    exact hposition

end Holding.Step

theorem Ledger.step (h : Ledger origin answers met holdings)
    (hholding : holdings[index]? = some holding)
    (hstep : holding.Step origin met learnt reached ends) :
    Ledger origin answers reached (holdings.set index learnt) := by
  have hbound := (List.getElem?_eq_some_iff.mp hholding).1
  have hfits : ∀ (position : Nat) (rival : Holding), position ≠ index →
      holdings[position]? = some rival → rival.Fits origin met :=
    fun position rival _ hrival => h.fits rival (List.mem_of_getElem? hrival)
  have hnew : ∀ (position : Nat) (rival : Holding), position ≠ index →
      holdings[position]? = some rival → ∀ id ∈ rival.own, id ∉ learnt.own :=
    fun position rival hne hrival => hstep.apart (hfits position rival hne hrival)
      (h.apart index position holding rival (Ne.symm hne) hholding hrival)
  constructor
  · exact hstep.contested
  · rw [List.length_set, h.length]
  · intro position rival hrival
    rcases getElem?_set_cases hrival with ⟨rfl, rfl⟩ | ⟨_, hrival⟩
    · rw [hstep.answer]
      exact h.answers _ holding hholding
    · exact h.answers position rival hrival
  · intro rival member
    obtain ⟨position, hposition⟩ := List.mem_iff_getElem?.mp member
    rcases getElem?_set_cases hposition with ⟨_, rfl⟩ | ⟨hne, hrival⟩
    · exact hstep.fits
    · exact (hfits position rival hne hrival).later (hstep.same _ (hnew position rival hne hrival))
        hstep.number hstep.ended
  · intro i j first second hne hfirst hsecond id hid
    rcases getElem?_set_cases hfirst with ⟨rfl, rfl⟩ | ⟨hi, hold⟩
    · rcases getElem?_set_cases hsecond with ⟨rfl, _⟩ | ⟨hj, hold⟩
      · exact absurd rfl hne
      · exact fun hboth => hnew j second hj hold id hboth hid
    · rcases getElem?_set_cases hsecond with ⟨rfl, rfl⟩ | ⟨_, hother⟩
      · exact hnew i first hi hold id hid
      · exact h.apart i j first second hne hold hother id hid
  · intro group member htask
    by_cases hid : group.id ∈ learnt.own
    · exact ⟨learnt, List.mem_set hbound learnt, hid⟩
    · have hsame := (hstep.same [group.id] (by simpa using hid)).groups
      have hold : group ∈ met.groups.filter fun other => other.id ∈ [group.id] := by
        rw [← hsame]
        exact List.mem_filter.mpr ⟨member, by simp⟩
      exact hstep.owner hholding (h.groups group (List.mem_filter.mp hold).1 htask)
  · intro id
    by_cases hid : id ∈ learnt.own
    · exact Or.inr ⟨learnt, List.mem_set hbound learnt, hid⟩
    · rw [(hstep.same [id] (by simpa using hid)).findings id List.mem_cons_self]
      exact (h.findings id).imp_right (hstep.owner hholding)

/-- The accord suffices for deliveries with such an account. -/
theorem contesting_upholds :
    (contesting origin).Upholds fun _ scene holdings => Ledger origin answers scene holdings where
  starts := fun hledger member => ⟨hledger.contested, hledger.fits _ member, fun _ => rfl⟩
  steps := by
    intro β call env answer history met reached holdings index holding learnt hledger hholding
      hmoves hgrants
    exact hledger.step hholding (Holding.step_call hledger.contested
      (hledger.fits holding (List.mem_of_getElem? hholding)) hmoves hgrants)
  spares := by
    intro β call env answer history met reached holdings index other holding learnt rival since
      hledger hholding hmoves hgrants hne hrival hrely
    have hstep := Holding.step_call hledger.contested
      (hledger.fits holding (List.mem_of_getElem? hholding)) hmoves hgrants
    have hreached := hledger.step hholding hstep
    refine ⟨hstep.contested, hreached.fits rival ?_, ?_⟩
    · refine List.mem_iff_getElem?.mpr ⟨other, ?_⟩
      rw [List.getElem?_set_ne (Ne.symm hne)]
      exact hrival
    · intro hended
      have hmet := hrely.2.2 hended
      rw [hstep.ended (hmet ▸ hended), hmet]

/-! ### The answer that is taken -/

/-- The programs that have ended the static analysis of a task, in the order in which they did. -/
def enders (taskId : Uuid) (log : List (Nat × Event)) : List Nat :=
  (log.filter fun entry => entry.2.endsSa taskId).map Prod.fst

/-- Either the static analysis is awaited, and no answer has been taken, or just one delivery has
ended it, with the reports that it holds. -/
inductive Tallied (origin : Scene) (log : List (Nat × Event)) (scene : Scene)
    (holdings : List Holding) : Prop where
  | awaited (hnone : enders origin.task.id log = [])
      (hopen : scene.task.sa.status.isTerminal = false)
      (hwaiting : ∀ holding ∈ holdings, holding.fate ≠ .taken)
  | decided {winner : Nat} {holding : Holding} (hone : enders origin.task.id log = [winner])
      (hwinner : holdings[winner]? = some holding) (hwon : holding.Won origin scene)
      (hlost : ∀ (other : Nat) (rival : Holding), other ≠ winner →
        holdings[other]? = some rival → rival.fate ≠ .taken)

theorem Holding.Won.terminal (h : holding.Won origin met) :
    met.task.sa.status.isTerminal = true := by
  rw [h.status]
  exact RunStatus.ofSuccess_isTerminal holding.answer.success

/-- What has won stays so, while the analysis and the reports stay as they are. -/
theorem Holding.Won.kept (h : holding.Won origin met) (hsa : reached.task.sa = met.task.sa)
    (htaken : learnt.fate = .taken) (hheld : learnt.held = holding.held)
    (hanswer : learnt.answer = holding.answer) : learnt.Won origin reached where
  taken := htaken
  reported := by
    rw [hheld, hanswer]
    exact h.reported
  status := by
    rw [hsa, hanswer]
    exact h.status
  results := by
    rw [hsa, hheld]
    exact h.results

variable {log : List (Nat × Event)} {event : Event}

theorem Tallied.congr {longer : List (Nat × Event)} (h : Tallied origin log met holdings)
    (hsame : enders origin.task.id longer = enders origin.task.id log) :
    Tallied origin longer met holdings := by
  cases h with
  | awaited hnone hopen hwaiting => exact .awaited (hsame.trans hnone) hopen hwaiting
  | decided hone hwinner hwon hlost => exact .decided (hsame.trans hone) hwinner hwon hlost

theorem enders_append (taskId : Uuid) (log : List (Nat × Event)) (index : Nat) (event : Event) :
    enders taskId (log ++ [(index, event)]) =
      enders taskId log ++ if event.endsSa taskId = true then [index] else [] := by
  unfold enders
  rw [List.filter_append, List.map_append]
  congr 1
  cases hends : event.endsSa taskId with
  | true => simp [hends]
  | false => simp [hends]

/-- A call that ends no analysis leaves the answer that has been taken, with its reports. -/
theorem Tallied.kept (h : Tallied origin log met holdings)
    (hholding : holdings[index]? = some holding)
    (hstep : holding.Step origin met learnt reached false) :
    Tallied origin log reached (holdings.set index learnt) := by
  obtain ⟨hsa, hfate, hheld⟩ := hstep.decides
  cases h with
  | awaited hnone hopen hwaiting =>
    refine .awaited hnone (hsa ▸ hopen) fun rival member => ?_
    rcases List.mem_or_eq_of_mem_set member with hold | rfl
    · exact hwaiting rival hold
    · exact fun htaken => hwaiting holding (List.mem_of_getElem? hholding) (hfate.mp htaken)
  | @decided winner taker hone hwinner hwon hlost =>
    have hrivals : ∀ (other : Nat) (rival : Holding), other ≠ winner →
        (holdings.set index learnt)[other]? = some rival → rival.fate ≠ .taken := by
      intro other rival hne hrival
      rcases getElem?_set_cases hrival with ⟨rfl, rfl⟩ | ⟨_, hrival⟩
      · exact fun htaken => hlost other holding hne hholding (hfate.mp htaken)
      · exact hlost other rival hne hrival
    by_cases hsame : index = winner
    · subst hsame
      cases hholding.symm.trans hwinner
      exact .decided hone (List.getElem?_set_self (List.getElem?_eq_some_iff.mp hholding).1)
        (hwon.kept hsa (hfate.mpr hwon.taken) (hheld hwon.taken) hstep.answer) hrivals
    · refine .decided hone ?_ (hwon.kept hsa hwon.taken rfl rfl) hrivals
      rw [List.getElem?_set_ne hsame]
      exact hwinner

/-- Whoever ends the static analysis does so alone. -/
theorem Tallied.ended (h : Tallied origin log met holdings)
    (hholding : holdings[index]? = some holding)
    (hstep : holding.Step origin met learnt reached true)
    (hone : enders origin.task.id (log ++ [(index, event)]) =
      enders origin.task.id log ++ [index]) :
    Tallied origin (log ++ [(index, event)]) reached (holdings.set index learnt) := by
  obtain ⟨hopen, hwon⟩ := hstep.decides
  cases h with
  | awaited hnone _ hwaiting =>
    rw [hnone, List.nil_append] at hone
    refine .decided hone
      (List.getElem?_set_self (List.getElem?_eq_some_iff.mp hholding).1) hwon ?_
    intro other rival hne hrival
    rcases getElem?_set_cases hrival with ⟨hsame, _⟩ | ⟨_, hrival⟩
    · exact absurd hsame hne
    · exact hwaiting rival (List.mem_of_getElem? hrival)
  | decided _ _ hdone _ => exact absurd (hopen.symm.trans hdone.terminal) nofun

theorem Tallied.step (h : Tallied origin log met holdings)
    (hholding : holdings[index]? = some holding)
    (hstep : holding.Step origin met learnt reached (event.endsSa origin.task.id)) :
    Tallied origin (log ++ [(index, event)]) reached (holdings.set index learnt) := by
  have hlog := enders_append origin.task.id log index event
  cases hends : event.endsSa origin.task.id with
  | false =>
    rw [hends] at hstep hlog
    rw [if_neg Bool.false_ne_true, List.append_nil] at hlog
    exact (h.kept hholding hstep).congr hlog
  | true =>
    rw [hends] at hstep hlog
    rw [if_pos rfl] at hlog
    exact h.ended hholding hstep hlog

/-- Through every schedule, at most one answer is taken. -/
theorem Tallied.fly {flight : Flight} {post : Holding → Prop}
    (hjoined : flight.Joined (contesting origin)
      (fun _ scene holdings => Ledger origin answers scene holdings) post met holdings)
    (h : Tallied origin log met holdings) (schedule : List (Nat × Environment)) :
    ∃ reached learnt, (flight.fly schedule).Joined (contesting origin)
        (fun _ scene holdings => Ledger origin answers scene holdings) post reached learnt ∧
      Tallied origin (log ++ flight.log schedule) reached learnt := by
  refine hjoined.fly_log contesting_upholds ?_ h schedule
  intro β call env answer history log met reached holdings index holding learnt hledger htallied
    hholding hmoves hgrants
  exact htallied.step hholding (Holding.step_call hledger.contested
    (hledger.fits holding (List.mem_of_getElem? hholding)) hmoves hgrants)

end ScanFlow
