import AgentHarness.Application.Approvals
import AgentHarness.Application.Runs
import AgentHarness.Storage.RunStore

/-!
What a decision that fails leaves behind.
-/

namespace AgentHarness

open Collections Interaction Program Ports Function ApprovalService Pool Bool

namespace Decisions

def Untouched {α : Type} (platform : RunPlatform) (actor : Nat)
  (pool : Pool RunOp RunOp.Answer Failure Nat RunStore α) (schedule : List (Nat × RunInput)) :
  Prop :=
  ∀ before input after, schedule = before ++ (actor, input) :: after →
    let earlier := (pool.run platform.component before).state
    let later := (pool.run platform.component (before ++ [(actor, input)])).state
    later.run = earlier.run ∧ later.approvals = earlier.approvals

/-- Once the actor has written the approval or the Run, none of its calls fails, the Run
it reads is still waiting, and is still the one it read when it is written. -/
def Unhindered (store : RunStore) (op : RunOp) (input : RunInput) : Prop :=
  (op.isLocal = true ∨ input.fault = .none) ∧
    match op with
    | .getRun .carried => store.run.status = .waitingApproval
    | .compareAndSet _ expected updated => store.accepts expected updated
    | _ => True

/-- The actor does not expire an approval that is pending, and the answer to its first
write reaches it. -/
def Answered (store : RunStore) (op : RunOp) (input : RunInput) : Prop :=
  match op with
  | .compareAndSetApproval expected updated =>
    (∃ stored, store.approvals.get? updated.approvalId = some stored ∧ stored.status = expected) →
      updated.status ≠ .expired ∧ ∀ outage, input.fault ≠ .after outage
  | .compareAndSet _ expected updated =>
    store.accepts expected updated → ∀ outage, input.fault ≠ .after outage
  | _ => True

def Undisturbed (decider : Nat) (store : RunStore) (actor : Nat) (op : RunOp)
  (input : RunInput) : Prop :=
  actor = decider →
    if store.history.touched decider then Unhindered store op input
    else Answered store op input

def mayRefuse : RunOp → Bool
  | .addApproval _ | .getApproval _ | .compareAndSetApproval _ _ => true
  | _ => false

def contract : Contract RunOp RunOp.Answer Failure Bool where
  allowed _ op :=
    match op with
    | .addApproval _ => False
    | _ => True
  learns touched op answer later :=
    match op, answer with
    | .compareAndSetApproval _ updated, .ok changed =>
      if changed then later = true ∧ (touched = false → updated.status ≠ .expired)
      else later = touched
    | .compareAndSet _ _ _, .ok changed =>
      if changed then later = true else later = touched ∧ touched = false
    | .getRun .carried, .ok run =>
      later = touched ∧ (touched = true → run.status = .waitingApproval)
    | op, .error _ => later = touched ∧ (touched = true → mayRefuse op = true)
    | _, .ok _ => later = touched

section

variable {α : Type} {touched : Bool}

abbrev Safe (touched : Bool) (program : RunProgram α) : Prop :=
  program.wp contract (fun _ _ => True) (fun later _ => later = false) touched

theorem safe_call {op : RunOp} (quiet : mayRefuse op = false)
  (other : ∀ site expected updated, op ≠ .compareAndSet site expected updated)
  {post : Bool → op.Answer → Prop} (answered : ∀ value, post touched value) :
  (perform op fun answer => answer).wp contract post (fun later _ => later = false)
    touched := by
  have allowed : contract.allowed touched op := by
    cases op with
    | addApproval => cases quiet
    | _ => trivial
  rw [wp_perform]
  refine ⟨allowed, ?_, ?_⟩
  · intro value later learned
    cases op with
    | compareAndSet site expected updated => exact absurd rfl (other site expected updated)
    | addApproval | getApproval | compareAndSetApproval => cases quiet
    | getRun read =>
      cases read with
      | observed =>
        cases learned
        exact answered value
      | carried =>
        cases learned.1
        exact answered value
    | _ =>
      cases learned
      exact answered value
  intro error later learned
  have refused : later = touched ∧ (touched = true → mayRefuse op = true) := by
    cases op with
    | compareAndSetApproval | addApproval => cases quiet
    | getRun read => cases read <;> exact learned
    | _ => exact learned
  obtain ⟨rfl, refuses⟩ := refused
  cases later with
  | false => rfl
  | true => exact absurd (quiet.symm.trans (refuses rfl)) Bool.noConfusion

theorem safe_move (site : WriteSite) {run : Run} {target : RunStatus}
  (movable : touched = true → RunStatus.Allowed run.status target) :
  (ApprovalService.move site run target).wp contract (fun later _ => later = true)
    (fun later _ => later = false) touched := by
  have permitted : touched = true → transition run.status target = .ok target := by
    intro written
    have allowed := movable written
    refine if_neg fun refused => ?_
    rcases refused with terminal | forbidden
    · exact RunStatus.not_allowed_of_terminal terminal allowed
    exact forbidden allowed
  unfold ApprovalService.move advance
  cases passed : transition run.status target with
  | error error =>
    cases touched with
    | false => exact rfl
    | true => cases (permitted rfl).symm.trans passed
  | ok status =>
    simp only [ensure, bind_eq, done_bind, wp_bind]
    refine safe_call rfl (fun _ _ _ => RunOp.noConfusion) fun updatedAt => ?_
    rw [wp_perform]
    refine ⟨trivial, fun changed later learned => ?_, fun error later learned => ?_⟩
    · cases changed with
      | true =>
        cases learned
        rw [if_pos rfl, wp_bind]
        exact safe_call rfl (fun _ _ _ => RunOp.noConfusion) fun _ => rfl
      | false => exact learned.1.trans learned.2
    obtain ⟨rfl, refuses⟩ := learned
    cases later with
    | false => rfl
    | true => cases refuses rfl

theorem safe_resumedElsewhere (error : Failure) :
  Safe false (ApprovalService.resumedElsewhere error) := by
  unfold ApprovalService.resumedElsewhere
  split
  · simp only [wp_do]
    refine safe_call rfl (fun _ _ _ => RunOp.noConfusion) fun refreshed => ?_
    split
    · exact rfl
    trivial
  exact rfl

theorem safe_ensureInlineRunResumed : Safe false ApprovalService.ensureInlineRunResumed := by
  unfold ApprovalService.ensureInlineRunResumed Safe
  simp only [wp_do]
  refine safe_call rfl (fun _ _ _ => RunOp.noConfusion) fun run => ?_
  split
  · trivial
  rw [wp_catching, wp_bind]
  refine wp_mono (safe_move .approvalResume nofun)
    (fun _ _ _ => trivial) ?_
  intro later error untouched
  rw [untouched]
  exact safe_resumedElsewhere error

variable (service : ApprovalService)

theorem safe_enqueueResumedRun : Safe touched service.enqueueResumedRun := by
  unfold ApprovalService.enqueueResumedRun
  split
  · trivial
  simp only [bind_eq, Safe, wp_bind]
  refine safe_call rfl (fun _ _ _ => RunOp.noConfusion) fun _ => ?_
  exact safe_call rfl (fun _ _ _ => RunOp.noConfusion) fun _ => trivial

section

variable (current : ApprovalRequest)

include current

theorem safe_redecide : Safe false (service.redecide current) := by
  unfold redecide Safe
  split
  · split
    · rw [wp_bind]
      exact wp_mono safe_ensureInlineRunResumed (fun _ _ _ => trivial) fun _ _ => id
    rw [wp_bind]
    exact wp_mono (safe_enqueueResumedRun service) (fun _ _ _ => trivial) fun _ _ => id
  trivial

theorem safe_expire : (expire current).wp contract (fun later _ => later = false)
  (fun later _ => later = false) false := by
  unfold expire
  simp only [wp_do, wp_perform]
  refine ⟨trivial, fun changed later learned => ?_, fun error later learned => learned.1⟩
  cases changed with
  | true => exact absurd rfl (learned.2 rfl)
  | false =>
    cases learned
    rw [if_neg Bool.false_ne_true, wp_perform]
    exact ⟨trivial, fun _ _ => id, fun _ _ same => same.1⟩

variable {run : Run}

theorem safe_approve (waiting : run.status = .waitingApproval) :
  Safe true (service.approve current run) := by
  unfold approve Safe
  simp only [wp_do]
  refine wp_mono (safe_move .approvalResume fun _ => by rw [waiting]; decide) ?_
    (fun _ _ => id)
  intro later updated _
  split
  · trivial
  exact safe_enqueueResumedRun service

theorem safe_reject (waiting : run.status = .waitingApproval) :
  Safe true (ApprovalService.reject current run) := by
  have moved : Safe true ((ApprovalService.move .approvalRejection run .rejected).bind
    fun _ => done ()) := by
    rw [Safe, wp_bind]
    exact wp_mono (safe_move .approvalRejection fun _ => by rw [waiting]; decide)
      (fun _ _ _ => trivial) fun _ _ => id
  unfold ApprovalService.reject ApprovalService.toolResultUnless Safe
  split
  · exact moved
  simp only [wp_do]
  refine safe_call rfl (fun _ _ _ => RunOp.noConfusion) fun _ => ?_
  rw [← wp_bind]
  exact moved

theorem safe_decidePending (decision : ApprovalStatus) :
  Safe false (service.decidePending current decision) := by
  unfold decidePending Safe
  simp only [wp_do, wp_perform]
  refine ⟨trivial, fun changed later learned => ?_, fun error later learned => learned.1⟩
  cases changed with
  | false => exact learned
  | true =>
    obtain ⟨rfl, _⟩ := learned
    rw [if_pos rfl]
    simp only [wp_do, wp_perform]
    refine ⟨trivial, fun run later learned => ?_, fun error later learned => ?_⟩
    · obtain ⟨rfl, waiting⟩ := learned
      have carried : Safe true (service.carryOut current run decision) := by
        unfold carryOut
        split
        · exact safe_approve service current (waiting rfl)
        exact safe_reject current (waiting rfl)
      refine ⟨trivial, fun _ later learned => ?_, fun error later learned => ?_⟩
      · cases learned
        refine wp_mono carried (fun now _ _ => ?_) fun _ _ => id
        refine ⟨trivial, fun _ _ _ => trivial, fun error last learned => ?_⟩
        obtain ⟨rfl, refuses⟩ := learned
        cases last with
        | false => rfl
        | true => cases refuses rfl
      exact absurd (learned.2 rfl) false_ne_true
    exact absurd (learned.2 rfl) false_ne_true

end

theorem safe_decide (approvalId : String) (decision : ApprovalStatus) :
  Safe false (service.decide approvalId decision) := by
  unfold ApprovalService.decide Safe
  split
  · exact rfl
  simp only [wp_do, wp_perform]
  refine ⟨trivial, fun current later learned => ?_, fun error later learned => learned.1⟩
  cases learned
  split
  · exact safe_redecide service current
  split
  · exact rfl
  rw [wp_do]
  refine safe_call rfl (fun _ _ _ => RunOp.noConfusion) fun decidedAt => ?_
  split
  · rw [wp_do]
    exact wp_mono (safe_expire current) (fun _ _ => id) fun _ _ => id
  exact safe_decidePending service current decision

end

section

variable {platform : RunPlatform}

theorem touch_mono (history : RunHistory) {writer actor : Nat}
  (before : history.touched actor = true) : (history.touch writer).touched actor = true := by
  by_cases same : actor = writer
  · subst actor
    exact update_self _ _ _
  exact (update_of_ne same _ _).trans before

theorem answer_touched (actor : Nat) (input : RunInput) (store : RunStore) (op : RunOp) :
  let later := (platform.answer actor input store op).2
  (later.history.touched = store.history.touched ∧ later.run = store.run ∧
      later.approvals = store.approvals) ∨
    later.history.touched = (store.history.touch actor).touched := by
  cases op with
  | compareAndSet site expected updated =>
    simp only [RunPlatform.answer]
    split
    · exact .inr rfl
    exact .inl ⟨rfl, rfl, rfl⟩
  | addApproval approval =>
    simp only [RunPlatform.answer]
    split
    · exact .inl ⟨rfl, rfl, rfl⟩
    exact .inr rfl
  | getApproval approvalId =>
    simp only [RunPlatform.answer]
    split <;> exact .inl ⟨rfl, rfl, rfl⟩
  | compareAndSetApproval expected updated =>
    simp only [RunPlatform.answer]
    split
    · exact .inl ⟨rfl, rfl, rfl⟩
    split
    · exact .inr rfl
    exact .inl ⟨rfl, rfl, rfl⟩
  | tryClaimIncident owner claimedAt leaseExpiresAt =>
    simp only [RunPlatform.answer]
    split <;> exact .inl ⟨rfl, rfl, rfl⟩
  | _ => exact .inl ⟨rfl, rfl, rfl⟩

theorem respond_touched (platform : RunPlatform) (actor : Nat) (input : RunInput)
  (store : RunStore) (op : RunOp) :
  let later := (platform.respond actor input store op).2
  (later.history.touched = store.history.touched ∧ later.run = store.run ∧
      later.approvals = store.approvals) ∨
    later.history.touched = (store.history.touch actor).touched := by
  rcases platform.respond_state actor input store op with unchanged | changed
  · rw [unchanged]
    exact .inl ⟨rfl, rfl, rfl⟩
  rw [changed]
  exact answer_touched actor input store op

theorem step_touched (platform : RunPlatform) {α : Type}
  (pool : Pool RunOp RunOp.Answer Failure Nat RunStore α) (actor : Nat) (input : RunInput) :
  let later := (pool.step platform.component actor input).state
  (later.history.touched = pool.state.history.touched ∧ later.run = pool.state.run ∧
      later.approvals = pool.state.approvals) ∨
    later.history.touched = (pool.state.history.touch actor).touched := by
  rcases call_or_idle platform.component pool actor with ⟨op, next, calls⟩ | idle
  · rw [step_call calls]
    exact respond_touched platform actor input pool.state op
  rw [idle]
  exact .inl ⟨rfl, rfl, rfl⟩

variable {actor : Nat}

theorem touched_stays {α : Type}
  (pool : Pool RunOp RunOp.Answer Failure Nat RunStore α) (schedule : List (Nat × RunInput))
  (touched : pool.state.history.touched actor = true) :
  (pool.run platform.component schedule).state.history.touched actor = true := by
  induction schedule generalizing pool with
  | nil => exact touched
  | cons move rest ih =>
    refine ih _ ?_
    rcases step_touched platform pool move.1 move.2 with ⟨same, _⟩ | marked
    · rw [same]
      exact touched
    rw [marked]
    exact touch_mono _ touched

theorem untouched_of_unmarked {α : Type}
  {pool : Pool RunOp RunOp.Answer Failure Nat RunStore α} {schedule : List (Nat × RunInput)}
  (unmarked : (pool.run platform.component schedule).state.history.touched actor = false) :
  Untouched platform actor pool schedule := by
  rintro before input after rfl
  rw [run_append]
  rw [run_append] at unmarked
  generalize pool.run platform.component before = earlier at unmarked ⊢
  rcases step_touched platform earlier actor input with ⟨_, same⟩ | marked
  · exact same
  have touched : (earlier.step platform.component actor input).state.history.touched actor =
    true := by
    rw [marked]
    exact update_self _ _ _
  exact absurd ((touched_stays _ after touched).symm.trans unmarked) Bool.noConfusion

variable {op : RunOp} {store : RunStore} {input : RunInput} {decider : Nat}

theorem untouched_of_fault
  (guarded : if store.history.touched decider then Unhindered store op input
    else Answered store op input) (far : ¬ op.isLocal = true) (struck : input.fault ≠ .none) :
  store.history.touched decider = false := by
  cases touched : store.history.touched decider with
  | false => rfl
  | true =>
    rw [touched] at guarded
    rcases guarded.1 with near | calm
    · exact absurd near far
    exact absurd calm struck

theorem learns_failure {touched later : Bool} {error : Failure}
  (untouched : touched = false) (still : later = false) :
  contract.learns touched op (.error error) later := by
  subst touched later
  have learned : false = false ∧ (false = true → mayRefuse op = true) :=
    ⟨rfl, nofun⟩
  cases op with
  | getRun read => cases read <;> exact learned
  | _ => exact learned

theorem learns_touched (undisturbed : Undisturbed decider store decider op input)
  (allowed : contract.allowed (store.history.touched decider) op) :
  contract.learns (store.history.touched decider) op
    (platform.respond decider input store op).1
    ((platform.respond decider input store op).2.history.touched decider) := by
  have guarded := undisturbed rfl
  have marked : ∀ history : RunHistory, (history.touch decider).touched decider = true :=
    fun history => update_self _ _ _
  unfold RunPlatform.respond
  split
  · rename_i near
    cases op with
    | clock | generateId | registerWaiter | hasWaiter | resolveWaiter | readWaiter | dropWaiter
    | rememberReceipt | readReceipt | popReceipt | waitIntervals | executeRuntime => exact rfl
    | _ => cases near
  rename_i far
  split
  · cases op with
    | getRun read =>
      cases read with
      | observed => exact rfl
      | carried =>
        refine ⟨rfl, fun touched => ?_⟩
        rw [touched] at guarded
        exact guarded.2
    | compareAndSet site expected updated =>
      simp only [RunPlatform.answer]
      split
      · exact marked _
      rename_i refused
      refine ⟨rfl, ?_⟩
      cases touched : store.history.touched decider with
      | false => rfl
      | true =>
        rw [touched] at guarded
        exact absurd guarded.2 refused
    | addApproval approval => cases allowed
    | getApproval approvalId =>
      simp only [RunPlatform.answer]
      split
      · exact ⟨rfl, fun _ => rfl⟩
      exact rfl
    | compareAndSetApproval expected updated =>
      simp only [RunPlatform.answer]
      split
      · exact ⟨rfl, fun _ => rfl⟩
      rename_i stored found
      split
      · rename_i fits
        refine ⟨marked _, fun untouched => ?_⟩
        rw [untouched] at guarded
        exact (guarded ⟨stored, found, fits⟩).1
      exact rfl
    | tryClaimIncident owner claimedAt leaseExpiresAt =>
      simp only [RunPlatform.answer]
      split <;> exact rfl
    | _ => exact rfl
  · rename_i outage struck
    have untouched := untouched_of_fault guarded far fun calm => by cases struck.symm.trans calm
    exact learns_failure untouched untouched
  rename_i outage struck
  have untouched := untouched_of_fault guarded far fun calm => by cases struck.symm.trans calm
  rw [untouched] at guarded
  refine learns_failure untouched ?_
  cases op with
  | compareAndSet site expected updated =>
    simp only [RunPlatform.answer]
    split
    · rename_i accepted
      exact absurd struck (guarded accepted outage)
    exact untouched
  | addApproval approval => cases allowed
  | getApproval approvalId =>
    simp only [RunPlatform.answer]
    split <;> exact untouched
  | compareAndSetApproval expected updated =>
    simp only [RunPlatform.answer]
    split
    · exact untouched
    rename_i stored found
    split
    · rename_i fits
      exact absurd struck ((guarded ⟨stored, found, fits⟩).2 outage)
    exact untouched
  | tryClaimIncident owner claimedAt leaseExpiresAt =>
    simp only [RunPlatform.answer]
    split <;> exact untouched
  | _ => exact untouched

end

section

variable {platform : RunPlatform} {decider : Nat}

def contracts (decider actor : Nat) : Contract RunOp RunOp.Answer Failure Bool :=
  if actor = decider then contract else unrestricted

theorem adheres (platform : RunPlatform) (decider : Nat) :
  Pool.Adheres platform.component (contracts decider)
    (fun store known => known decider = store.history.touched decider) (Undisturbed decider) := by
  intro store known actor op input held undisturbed allowed
  by_cases same : actor = decider
  · subst actor
    rw [contracts, if_pos rfl] at allowed ⊢
    rw [held] at allowed ⊢
    exact ⟨_, learns_touched undisturbed allowed, update_self _ _ _⟩
  rw [contracts, if_neg same]
  refine ⟨known actor, trivial, ?_⟩
  rw [update_eq_self]
  rcases respond_touched platform actor input store op with ⟨kept, _⟩ | marked
  · exact held.trans (congrFun kept decider).symm
  exact held.trans
    ((congrFun marked decider).trans (update_of_ne (Ne.symm same) _ _)).symm

/-- Whatever the others do, a decision that fails has changed neither the Run nor an
approval, as long as it expires no pending approval, the Run it moves is and stays waiting,
and no call fails once it has written. -/
theorem failed_decision_untouched {α : Type} (platform : RunPlatform) (service : ApprovalService)
  (approvalId : String) (decision : ApprovalStatus) (decider : Nat)
  (pool : Pool RunOp RunOp.Answer Failure Nat RunStore α) (result : ApprovalRequest → α)
  (calls : pool.thread decider =
    (service.decide approvalId decision).bind fun approval => .done (result approval))
  (fresh : pool.state.history.touched decider = false) (schedule : List (Nat × RunInput))
  (undisturbed : pool.Along platform.component (Undisturbed decider) schedule)
  {error : Failure}
  (fails : (pool.run platform.component schedule).thread decider = .raised error) :
  Untouched platform decider pool schedule := by
  have ready : pool.Ready (contracts decider)
    (fun store known => known decider = store.history.touched decider)
    (fun _ _ _ => True) (fun actor later _ => actor = decider → later = false)
    (pool.state.history.touched) := by
    refine ⟨rfl, fun actor => ?_⟩
    by_cases same : actor = decider
    · subst actor
      rw [contracts, if_pos rfl, calls, fresh, wp_bind]
      exact wp_mono (safe_decide service approvalId decision) (fun _ _ _ => trivial)
        (fun _ _ safe _ => safe)
    rw [contracts, if_neg same]
    exact wp_mono (wp_of_free (fun _ _ => trivial) _ _) (fun _ _ _ => trivial)
      (fun _ _ _ equal => absurd equal same)
  obtain ⟨known, held, threads⟩ := run_ready (adheres platform decider) ready schedule undisturbed
  have ended := threads decider
  rw [fails] at ended
  exact untouched_of_unmarked (held.symm.trans (ended rfl))

end

section

def sameProcess : RunPlatform where
  generatedId kind _ := kind
  task := "run-1"

def approveAndCancel : RunPool where
  state :=
    { run := { status := .waitingApproval, fencingToken := 3 }
      approvals := Dict.empty.set "approval-1"
        { approvalId := "approval-1", toolCallId := "call-1", status := .pending,
          expiresAt := 900, createdAt := 0 } }
  thread
    | 0 => (ApprovalService.decide {} "approval-1" .approved).bind fun _ => .done ()
    | _ => (RunService.cancel { task := "run-1" }).bind fun _ => .done ()

def cancelledFirst : List (Nat × RunInput) :=
  List.replicate 7 (1, ({} : RunInput)) ++ List.replicate 5 (0, ({} : RunInput))

theorem decision_recorded_for_cancelled_run : ∃ platform pool schedule error, pool.thread 0 =
  (ApprovalService.decide {} "approval-1" .approved).bind (fun _ => .done ()) ∧
  (Pool.run platform.component pool schedule).thread 0 = .raised error ∧
  ¬ Untouched platform 0 pool schedule := by
  refine ⟨sameProcess, approveAndCancel, cancelledFirst,
    .invalidRunTransition .cancelled .running, rfl, rfl, ?_⟩
  intro untouched
  have kept := untouched (cancelledFirst.take 9) {} (cancelledFirst.drop 10) rfl
  exact absurd (congrArg (fun approvals => (approvals.get? "approval-1").map (·.status)) kept.2)
    (by decide)

def unrecorded : List (Nat × RunInput) :=
  [(0, {}), (0, {}), (0, { fault := .before (.other "ConnectionError") })]

theorem unrecorded_decision_untouched : Untouched sameProcess 0 approveAndCancel unrecorded := by
  have fails : (approveAndCancel.run sameProcess.component unrecorded).thread 0 =
    .raised (.outage (.other "ConnectionError")) := rfl
  refine failed_decision_untouched sameProcess {} "approval-1" .approved 0 approveAndCancel
    (fun _ => ()) rfl rfl unrecorded ⟨?_, ?_, ?_, trivial⟩ fails
  · intro op next calls
    cases calls
    exact fun _ => trivial
  · intro op next calls
    cases calls
    exact fun _ => trivial
  intro op next calls
  cases calls
  exact fun _ _ => ⟨by decide, fun _ struck => by cases struck⟩

end

end Decisions

end AgentHarness
