import AgentHarness.Application.Creations

/-!
What a creation may ask of the stores, and what it knows while it holds its session's lock.
-/

namespace AgentHarness.Creation

open Interaction Program RunService

/-- `adding` has stored a Run that is not on the queue yet; `answered` has its Run. -/
inductive Phase where
  | start
  | unrecorded
  | unanswered
  | adding (runId : String)
  | answered (runId : String)
  | reading (run : Run)

structure Progress where
  inside : Bool := false
  phase : Phase := .start

def Admits (request : CreationRequest) (known : Progress) : CreationOp → Prop
  | .enter session => known = {} ∧ ∃ asked, request = .create asked ∧ session = asked.session
  | .leave session => known.inside = true ∧ (∀ runId, known.phase ≠ .adding runId) ∧
      ∃ asked, request = .create asked ∧ session = asked.session
  | .findByIdempotencyKey tenantId sessionId idempotencyKey =>
    known = { inside := true } ∧ ∃ asked, request = .create asked ∧
      tenantId = asked.tenantId ∧ sessionId = asked.sessionId ∧
      idempotencyKey = asked.idempotencyKey
  | .listForSessions asked _ =>
    known = { inside := true, phase := .unrecorded } ∧ request = .create asked
  | .add run => known = { inside := true, phase := .unanswered } ∧
      ∃ asked, request = .create asked ∧ run.idempotency = asked.key
  | .enqueue task => ∃ asked runId, known = { inside := true, phase := .adding runId } ∧
      request = .create asked ∧ task.key = (asked.tenantId, runId)
  | .compareAndSet _ current _ => known.phase = .reading current
  | .getRun _ _ => ∀ asked, request ≠ .create asked
  | _ => True

def after (known : Progress) : (op : CreationOp) → Except CreationError op.Answer → Progress
  | .enter _, _ => { known with inside := true }
  | .leave _, _ => { known with inside := false }
  | .findByIdempotencyKey _ _ _, .ok none => { known with phase := .unrecorded }
  | .findByIdempotencyKey _ _ _, .ok (some existing) =>
    { known with phase := .answered existing.runId }
  | .listForSessions asked _, .ok listed =>
    match asked.duplicate listed with
    | none => { known with phase := .unanswered }
    | some duplicate => { known with phase := .answered duplicate.runId }
  | .add run, .ok _ => { known with phase := .adding run.runId }
  | .enqueue task, _ => { known with phase := .answered task.runId }
  | .getRun _ _, .ok current => { known with phase := .reading current }
  | _, _ => known

def Foreseen : (op : CreationOp) → Except CreationError op.Answer → Prop
  | .enter _, .error _ | .leave _, .error _ | .appendQueued _ _, .error _ => False
  | _, _ => True

def contract (request : CreationRequest) :
  Contract CreationOp CreationOp.Answer CreationError Progress where
  allowed := Admits request
  learns known op answer later := Foreseen op answer ∧ later = after known op answer

def Returned (known : Progress) (result : Option RunCreation) : Prop :=
  ∀ creation ∈ result, known.phase = .answered creation.run.runId

section

variable {service : RunService} {request : CreateRequest} {known : Progress}

def Settled (known : Progress) : Prop := known.inside = true ∧ ∀ runId, known.phase ≠ .adding runId

theorem wp_leave {post : Progress → Unit → Prop} {fail : Progress → CreationError → Prop}
  (settled : Settled known) (later : post { known with inside := false } ()) :
  (CreationPort.call (.leave request.session)).wp (contract (.create request)) post fail
    known := by
  rw [wp_perform]
  refine ⟨⟨settled.1, settled.2, request, rfl, rfl⟩, ?_, ?_⟩
  · rintro _ last ⟨_, same⟩
    rw [same]
    exact later
  rintro _ _ ⟨impossible, _⟩
  exact impossible.elim

theorem wp_idle {op : CreationOp} {post : Progress → op.Answer → Prop}
  (admits : Admits (.create request) known op) (quiet : ∀ answer, after known op answer = known)
  (settled : Settled known) (later : ∀ value, post known value) :
  (CreationPort.call op).wp (contract (.create request)) post (fun last _ => Settled last)
    known := by
  rw [wp_perform]
  refine ⟨admits, ?_, ?_⟩
  · rintro value last ⟨_, same⟩
    rw [same, quiet]
    exact later value
  rintro _ last ⟨_, same⟩
  rw [same, quiet]
  exact settled

theorem wp_store {run : Run} (own : run.idempotency = request.key) :
  (service.store run).wp (contract (.create request))
    (fun later _ => later = { inside := true, phase := .adding run.runId })
    (fun later _ => Settled later) { inside := true, phase := .unanswered } := by
  have settled : Settled { inside := true, phase := .unanswered } := ⟨rfl, fun _ => nofun⟩
  unfold store
  rw [wp_catching, wp_perform]
  refine ⟨⟨rfl, request, rfl, own⟩, ?_, ?_⟩
  · rintro _ later ⟨_, same⟩
    exact same
  rintro error later ⟨_, same⟩
  have kept : later = { inside := true, phase := .unanswered } := same
  rw [kept]
  by_cases admission : service.admission = true
  · rw [if_pos admission, wp_bind]
    exact wp_idle trivial (fun _ => rfl) settled fun _ => settled
  rw [if_neg admission]
  exact settled

theorem wp_createNew (listed : List Run) :
  (service.createNew request listed).wp (contract (.create request))
    (fun later creation => later = { inside := true, phase := .answered creation.run.runId })
    (fun later _ => Settled later) { inside := true, phase := .unanswered } := by
  have settled : Settled { inside := true, phase := .unanswered } := ⟨rfl, fun _ => nofun⟩
  unfold createNew
  rw [wp_do]
  refine wp_idle trivial (fun _ => rfl) settled fun timestamp => ?_
  rw [wp_do]
  refine wp_idle trivial (fun _ => rfl) settled fun runId => ?_
  rw [wp_do]
  have admitted : ∀ run : Run, (service.requireAdmission run).wp (contract (.create request))
      (fun later _ => later = { inside := true, phase := .unanswered })
      (fun later _ => Settled later) { inside := true, phase := .unanswered } := by
    intro run
    unfold requireAdmission
    by_cases admission : service.admission = true
    · rw [if_pos admission]
      exact wp_idle trivial (fun _ => rfl) settled fun _ => rfl
    rw [if_neg admission]
    rfl
  refine wp_mono (admitted _) ?_ fun _ _ => id
  rintro _ _ rfl
  rw [wp_do]
  refine wp_mono (wp_store rfl) ?_ fun _ _ => id
  rintro _ _ rfl
  rw [wp_do_perform]
  refine ⟨trivial, ?_, fun _ _ learned => learned.1.elim⟩
  rintro _ appended ⟨_, same⟩
  rw [same, wp_do_perform]
  refine ⟨⟨request, runId, rfl, rfl, rfl⟩, ?_, ?_⟩
  · rintro _ later ⟨_, same⟩
    exact same
  rintro _ later ⟨_, same⟩
  rw [same]
  exact ⟨rfl, fun _ => nofun⟩

theorem wp_createLocked : (service.createLocked request).wp (contract (.create request))
  (fun later creation => later = { inside := true, phase := .answered creation.run.runId })
  (fun later _ => Settled later) { inside := true } := by
  have settled : ∀ phase, (∀ runId, phase ≠ .adding runId) →
      Settled { inside := true, phase } := fun _ free => ⟨rfl, free⟩
  unfold createLocked
  rw [wp_do]
  refine wp_idle trivial (fun _ => rfl) (settled .start fun _ => nofun) fun _ => ?_
  rw [wp_do_perform]
  refine ⟨⟨rfl, request, rfl, rfl, rfl, rfl⟩, ?_, ?_⟩
  · rintro existing later ⟨_, same⟩
    cases existing with
    | some existing => exact same
    | none =>
      have unrecorded : later = { inside := true, phase := .unrecorded } := same
      rw [unrecorded]
      rw [wp_do_perform]
      refine ⟨⟨rfl, rfl⟩, ?_, ?_⟩
      · rintro listed last ⟨_, told⟩
        have heard : last = after { inside := true, phase := .unrecorded }
            (.listForSessions request 200) (.ok listed) := told
        rw [heard]
        cases answered : request.duplicate listed with
        | some duplicate =>
          dsimp only [after]
          rw [answered]
          rfl
        | none =>
          dsimp only [after]
          rw [answered]
          exact wp_createNew listed
      rintro _ last ⟨_, told⟩
      rw [told]
      exact settled .unrecorded fun _ => nofun
  rintro _ later ⟨_, same⟩
  rw [same]
  exact settled .start fun _ => nofun

theorem wp_createWithResult : (service.createWithResult request).wp (contract (.create request))
    (fun later creation => later.phase = .answered creation.run.runId)
    (fun _ _ => True) {} := by
  unfold createWithResult
  rw [wp_do_perform]
  refine ⟨⟨rfl, request, rfl, rfl⟩, ?_, fun _ _ _ => trivial⟩
  rintro _ entered ⟨_, same⟩
  have inside : entered = { inside := true } := same
  rw [inside, wp_ensuring]
  refine wp_mono wp_createLocked ?_ ?_
  · rintro _ creation rfl
    exact wp_leave ⟨rfl, fun _ => nofun⟩ rfl
  intro later error settled
  exact wp_leave settled trivial

theorem wp_serve (request : CreationRequest) :
  (request.serve service).wp (contract request) Returned (fun _ _ => True) {} := by
  have quiet : ∀ {op : CreationOp} {known : Progress}, (∀ other, Admits request other op) →
    ((CreationPort.call op).bind fun _ => done none).wp (contract request) Returned
      (fun _ _ => True) known := by
    intro op known free
    rw [wp_bind, wp_perform]
    exact ⟨free known, fun _ _ _ _ nothing => (nomatch nothing), fun _ _ _ => trivial⟩
  cases request with
  | create request =>
    unfold CreationRequest.serve
    rw [wp_bind]
    refine wp_mono wp_createWithResult ?_ fun _ _ _ => trivial
    intro later creation answered other same
    cases same
    exact answered
  | transition tenantId runId status =>
    unfold CreationRequest.serve
    rw [wp_do_perform]
    refine ⟨fun _ => nofun, ?_, fun _ _ _ => trivial⟩
    rintro current later ⟨_, same⟩
    rw [same, wp_do_perform]
    exact ⟨rfl, fun _ _ _ _ nothing => (nomatch nothing), fun _ _ _ => trivial⟩
  | dequeue | acknowledge task | retry task => exact quiet fun _ => trivial

end

end AgentHarness.Creation
