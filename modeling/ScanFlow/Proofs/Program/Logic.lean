import ScanFlow.Proofs.Program.Scene

/-!
Rules for programs that run beside others.

An accord says what a program may rely on between two of its calls, and what it grants
others with each call. Both may depend on something private to the program, such as the
identifiers it has taken or an errand it still has to run. A program keeps an accord when,
under interference that respects what it relies on, each of its calls is granted and its
outcome satisfies a postcondition.
-/

namespace ScanFlow

/-- What programs with private knowledge in `γ` rely on and grant. -/
structure Accord (γ : Type) where
  rely : γ → Scene → Scene → Prop
  grants : {β : Type} → Call β → γ → Scene → γ → Scene → Prop

namespace Program

variable {γ α β : Type}

/-- The program, started with some knowledge on a scene, keeps the accord and ends as the
postcondition says. -/
def Keeps (accord : Accord γ) (program : Program α) (known : γ) (scene : Scene)
    (post : Except ServiceError α → γ → Scene → Prop) : Prop :=
  match program with
  | .done outcome => post outcome known scene
  | .call request next =>
    ∀ met, accord.rely known scene met → ∀ env answer reached,
      request.Moves env met answer reached →
        ∃ learnt, accord.grants request known met learnt reached ∧
          (next answer).Keeps accord learnt reached post

variable {accord : Accord γ} {known : γ} {scene : Scene}
  {post : Except ServiceError α → γ → Scene → Prop}

def Follows (accord : Accord γ) (next : β → Program α)
    (post : Except ServiceError α → γ → Scene → Prop) :
    Except ServiceError β → γ → Scene → Prop
  | .ok b, known, scene => (next b).Keeps accord known scene post
  | .error e, known, scene => post (.error e) known scene

theorem keeps_mono {program : Program α} {weaker : Except ServiceError α → γ → Scene → Prop}
    (h : program.Keeps accord known scene post)
    (himp : ∀ outcome known scene, post outcome known scene → weaker outcome known scene) :
    program.Keeps accord known scene weaker := by
  induction program generalizing known scene with
  | done outcome => exact himp _ _ _ h
  | call request next ih =>
    intro met hmet env answer reached hmoves
    obtain ⟨learnt, hgrant, hrest⟩ := h met hmet env answer reached hmoves
    exact ⟨learnt, hgrant, ih answer hrest⟩

theorem keeps_bind (program : Program β) (next : β → Program α) :
    (program >>= next).Keeps accord known scene post ↔
      program.Keeps accord known scene (Follows accord next post) := by
  induction program generalizing known scene with
  | done outcome =>
    cases outcome with
    | ok b => exact Iff.rfl
    | error e => exact Iff.rfl
  | call request rest ih =>
    refine forall₂_congr fun met _ => forall₄_congr fun env answer reached _ => ?_
    exact exists_congr fun learnt => and_congr_right fun _ => ih answer

theorem keeps_attempt (program : Program α)
    {post : Except ServiceError (Except ServiceError α) → γ → Scene → Prop} :
    program.attempt.Keeps accord known scene post ↔
      program.Keeps accord known scene fun outcome => post (.ok outcome) := by
  induction program generalizing known scene with
  | done outcome => exact Iff.rfl
  | call request rest ih =>
    refine forall₂_congr fun met _ => forall₄_congr fun env answer reached _ => ?_
    exact exists_congr fun learnt => and_congr_right fun _ => ih answer

theorem keeps_pure (a : α) :
    (pure a : Program α).Keeps accord known scene post ↔ post (.ok a) known scene := Iff.rfl

theorem keeps_ofExcept (outcome : Except ServiceError α) :
    (ofExcept outcome).Keeps accord known scene post ↔ post outcome known scene := Iff.rfl

/-- One call: interference first, and then the call itself. -/
theorem keeps_ask (request : Call α) :
    (ask request).Keeps accord known scene post ↔
      ∀ met, accord.rely known scene met → ∀ env answer reached,
        request.Moves env met answer reached →
          ∃ learnt, accord.grants request known met learnt reached ∧
            post (.ok answer) learnt reached := Iff.rfl

/-! ### The calls that a program can make at all -/

/-- Whatever is answered to them, all calls of the program are of the allowed kind. -/
def Only (allowed : {β : Type} → Call β → Prop) (program : Program α) : Prop :=
  match program with
  | .done _ => True
  | .call request next => allowed request ∧ ∀ answer, (next answer).Only allowed

variable {allowed : {β : Type} → Call β → Prop}

theorem only_mono {wider : {β : Type} → Call β → Prop} {program : Program α}
    (h : program.Only allowed) (himp : ∀ {β : Type} (call : Call β), allowed call → wider call) :
    program.Only wider := by
  induction program with
  | done outcome => trivial
  | call request next ih => exact ⟨himp request h.1, fun answer => ih answer (h.2 answer)⟩

theorem only_bind {program : Program β} {next : β → Program α} (hfirst : program.Only allowed)
    (hnext : ∀ b, (next b).Only allowed) : (program >>= next).Only allowed := by
  induction program with
  | done outcome =>
    cases outcome with
    | ok b => exact hnext b
    | error e => trivial
  | call request rest ih => exact ⟨hfirst.1, fun answer => ih answer (hfirst.2 answer)⟩

theorem only_attempt {program : Program α} (h : program.Only allowed) :
    program.attempt.Only allowed := by
  induction program with
  | done outcome => trivial
  | call request rest ih => exact ⟨h.1, fun answer => ih answer (h.2 answer)⟩

/-- What follows a value that may be missing. -/
theorem only_ofExcept {outcome : Except ServiceError β} {next : β → Program α}
    (hnext : ∀ b, outcome = .ok b → (next b).Only allowed) :
    (ofExcept outcome >>= next).Only allowed := by
  cases outcome with
  | ok b => exact hnext b rfl
  | error e => trivial

theorem only_ask {request : Call α} (h : allowed request) : (ask request).Only allowed :=
  ⟨h, fun _ => trivial⟩

theorem only_storeOr {operation : Store.Operation (Except StoreError α)}
    (h : allowed (.store operation)) : (storeOr operation).Only allowed := by
  apply only_bind (only_ask h)
  intro answer
  cases answer with
  | ok a => trivial
  | error e => trivial

theorem only_require {operation : Store.Operation (Option α)} {missing : ServiceError}
    (h : allowed (.store operation)) : (require operation missing).Only allowed := by
  apply only_bind (only_ask h)
  intro answer
  cases answer with
  | some a => trivial
  | none => trivial

theorem only_newId (h : allowed (.reserve 1)) : newId.Only allowed :=
  only_bind (only_ask h) fun _ => trivial

theorem only_blobExists {key : String} (h : allowed (.blobExists key)) :
    (blobExists key).Only allowed := by
  apply only_bind (only_ask h)
  intro answer
  cases answer with
  | ok present => trivial
  | error e => trivial

theorem only_blobUrl {key : String} {lifetime : Nat} (h : allowed (.blobUrl key lifetime)) :
    (blobUrl key lifetime).Only allowed := by
  apply only_bind (only_ask h)
  intro answer
  cases answer with
  | ok url => trivial
  | error e => trivial

theorem only_sendRequest {request : EngineRequest}
    (h : allowed (.publish request.queue request.toJson)) :
    (sendRequest request).Only allowed := by
  apply only_bind (only_ask h)
  intro answer
  cases answer with
  | ok id => trivial
  | error e => trivial

/-- A program whose calls are all granted as long as something is kept of the scene, and keep
it, keeps the accord. -/
theorem keeps_of_only {kept : Scene → Prop} {program : Program α}
    (honly : program.Only allowed) (hkept : kept scene)
    (hrely : ∀ since met, kept since → accord.rely known since met → kept met)
    (hgrants : ∀ {β : Type} (call : Call β) env (met : Scene) (answer : β) reached,
      allowed call → kept met → call.Moves env met answer reached →
        accord.grants call known met known reached ∧ kept reached) :
    program.Keeps accord known scene fun _ learnt reached => learnt = known ∧ kept reached := by
  induction program generalizing scene with
  | done outcome => exact ⟨rfl, hkept⟩
  | call request next ih =>
    intro met hmet env answer reached hmoves
    obtain ⟨hgrant, hnext⟩ :=
      hgrants request env met answer reached honly.1 (hrely scene met hkept hmet) hmoves
    exact ⟨known, hgrant, ih answer (honly.2 answer) hnext⟩

end Program

end ScanFlow
