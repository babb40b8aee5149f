import AgentHarness.Lifecycle.Service

/-!
Any number of actors of one data lifecycle: service calls and controller passes,
over the repository and the records that the adapters delete.
-/

namespace AgentHarness.Lifecycle

open Interaction Program Function LifecyclePort

structure LifecycleStore where
  repository : InMemoryDataLifecycleRepository := {}
  database : Database := {}
  generated : Nat := 0
  surveyed : Nat → Option (String × List LegalHold) := fun _ => none

/-- The clock, the count an export reports, what the rest of the platform has written
meanwhile, and an outage that strikes before the call takes effect or after it. -/
structure LifecycleInput where
  now : Int := 0
  count : Nat := 0
  elsewhere : Database → Database := id
  outage : Option String := none
  applied : Bool := false

namespace DataLifecycle

variable (lifecycle : DataLifecycle)

def answer (actor : Nat) (input : LifecycleInput) (store : LifecycleStore) : (op : LifecycleOp) →
      Except LifecycleError op.Answer × LifecycleStore
  | .clock => (.ok input.now, store)
  | .generateId kind =>
    (.ok (lifecycle.idGenerator kind store.generated),
      { store with generated := store.generated + 1 })
  | .resolveScopes tenantId scope => (.ok (lifecycle.relatedScopes tenantId scope), store)
  | .getPolicy tenantId => (.ok (store.repository.getPolicy tenantId), store)
  | .addHold hold =>
    let reply := store.repository.addHold hold
    (reply.1, { store with repository := reply.2 })
  | .getHold tenantId holdId => (store.repository.getHold tenantId holdId, store)
  | .updateHold hold =>
    let reply := store.repository.updateHold hold
    (reply.1, { store with repository := reply.2 })
  | .listHolds tenantId =>
    let holds := store.repository.listHolds tenantId
    (.ok holds, { store with surveyed := update store.surveyed actor (some (tenantId, holds)) })
  | .addJob job =>
    let reply := store.repository.addJob job
    (reply.1, { store with repository := reply.2 })
  | .findJobByIdempotency tenantId idempotencyKey =>
    (.ok (store.repository.findJobByIdempotency tenantId idempotencyKey), store)
  | .getJob tenantId jobId => (store.repository.getJob tenantId jobId, store)
  | .listRunnable limit => (.ok (store.repository.listRunnable limit), store)
  | .compareAndSet expected job =>
    let reply := store.repository.compareAndSet expected job
    (.ok reply.1,
      { store with
        repository := reply.2
        surveyed := if expected = .queued then update store.surveyed actor none
          else store.surveyed })
  | .adapterExport _ _ => (.ok input.count, store)
  | .adapterDelete adapter job =>
    match lifecycle.backend adapter with
    | none => (.ok 0, store)
    | some backend =>
      match backend.delete job store.database with
      | .error error => (.error error, store)
      | .ok (count, database) => (.ok count, { store with database })
  | .putExport _ _ | .record _ _ => (.ok (), store)

def respond (actor : Nat) (input : LifecycleInput) (store : LifecycleStore) (op : LifecycleOp) :
  Except LifecycleError op.Answer × LifecycleStore :=
  let reply := lifecycle.answer actor input store op
  let reached := if input.outage.isNone || input.applied then reply.2 else store
  (match input.outage with
    | none => reply.1
    | some type => .error (.outage type),
    { reached with database := input.elsewhere reached.database })

def component :
  Component LifecycleOp LifecycleOp.Answer LifecycleError Nat LifecycleStore LifecycleInput where
  respond := lifecycle.respond

end DataLifecycle

inductive LifecycleRequest where
  | createHold (tenantId userId : String) (scope : LifecycleScope) (reason : String)
  | releaseHold (tenantId userId holdId : String)
  | createJob (tenantId userId : String) (request : CreateLifecycleJobRequest)
  | retryJob (tenantId jobId : String)
  | processOnce

namespace DataLifecycle

def serve (lifecycle : DataLifecycle) : LifecycleRequest → LifecycleProgram Unit
  | .createHold tenantId userId scope reason =>
    (createHold tenantId userId scope reason).bind fun _ => done ()
  | .releaseHold tenantId userId holdId =>
    (releaseHold tenantId userId holdId).bind fun _ => done ()
  | .createJob tenantId userId request =>
    (lifecycle.createJob tenantId userId request).bind fun _ => done ()
  | .retryJob tenantId jobId => (retryJob tenantId jobId).bind fun _ => done ()
  | .processOnce => (DataLifecycleController.processOnce lifecycle).bind fun _ => done ()

def actor (lifecycle : DataLifecycle) (requests : List LifecycleRequest) : LifecycleProgram Unit :=
  each requests fun request => (lifecycle.serve request).catching (fun _ => done ())

def pool (lifecycle : DataLifecycle) (requests : Nat → List LifecycleRequest) :
  Pool LifecycleOp LifecycleOp.Answer LifecycleError Nat LifecycleStore Unit where
  state := {}
  thread actor := lifecycle.actor (requests actor)

abbrev Survey := Option (String × List LegalHold)

def SoundJob (job : DataLifecycleJob) : Prop :=
  job.kind = .retention → job.scope.kind = .tenant ∧ job.scope.subjectId = job.tenantId ∧
    job.retentionCutoffs.isSome

def contract (lifecycle : DataLifecycle) :
  Contract LifecycleOp LifecycleOp.Answer LifecycleError Survey where
  allowed known op :=
    match op with
    | .updateHold hold => hold.active = false
    | .addJob job | .compareAndSet _ job => SoundJob job
    | .adapterDelete _ job => SoundJob job ∧ ∃ holds, known = some (job.tenantId, holds) ∧
        blockingHold holds (lifecycle.relatedScopes job.tenantId job.scope) = none
    | _ => True
  learns known op answer later :=
    match op, answer with
    | _, .error _ => later = none
    | .listHolds tenantId, .ok holds => later = some (tenantId, holds)
    | .resolveScopes tenantId scope, .ok related =>
      related = lifecycle.relatedScopes tenantId scope ∧ later = known
    | .getJob _ _, .ok job => SoundJob job ∧ later = known
    | .listRunnable _, .ok jobs => (∀ job ∈ jobs, SoundJob job) ∧ later = known
    | .compareAndSet .queued _, .ok _ => later = none
    | _, .ok _ => later = known

variable {lifecycle : DataLifecycle} {known : Survey}

section

variable {α β : Type} {post : α → Prop}

variable (lifecycle) in
/-- The program keeps the contract whatever its actor has listed, and returns only
values that satisfy the postcondition. -/
def Yields (program : LifecycleProgram α) (post : α → Prop) : Prop :=
  ∀ known, program.wp lifecycle.contract (fun _ value => post value) (fun _ _ => True) known

variable (lifecycle) in
abbrev Harmless (program : LifecycleProgram α) : Prop := lifecycle.Yields program fun _ => True

theorem Yields.harmless {program : LifecycleProgram α} (yields : lifecycle.Yields program post) :
  lifecycle.Harmless program :=
  fun known => wp_mono (yields known) (fun _ _ _ => trivial) fun _ _ _ => trivial

variable {op : LifecycleOp}

theorem yields_call {read : op.Answer → α} (free : ∀ known, lifecycle.contract.allowed known op)
  (answers : ∀ known value later,
    lifecycle.contract.learns known op (.ok value) later → post (read value)) :
  lifecycle.Yields (perform op read) post := by
  intro known
  rw [wp_perform]
  exact ⟨free known, fun value later learned => answers known value later learned,
    fun _ _ _ => trivial⟩

theorem harmless_call {read : op.Answer → α} (free : ∀ known, lifecycle.contract.allowed known op) :
  lifecycle.Harmless (perform op read) :=
  yields_call free fun _ _ _ _ => trivial

theorem yields_done {value : α} (holds : post value) :
  lifecycle.Yields (done value : LifecycleProgram α) post :=
  fun _ => holds

theorem harmless_done (value : α) : lifecycle.Harmless (done value : LifecycleProgram α) :=
  yields_done trivial

theorem yields_raised (error : LifecycleError) :
  lifecycle.Yields (raised error : LifecycleProgram α) post :=
  fun _ => trivial

variable {next : β → LifecycleProgram α} {first : LifecycleProgram β}

theorem yields_bind {between : β → Prop} (before : lifecycle.Yields first between)
  (after : ∀ value, between value → lifecycle.Yields (next value) post) :
  lifecycle.Yields (first.bind next) post := by
  intro known
  rw [wp_bind]
  exact wp_mono (before known) (fun later value holds => after value holds later)
    (fun _ _ _ => trivial)

theorem harmless_bind
  (before : lifecycle.Harmless first) (after : ∀ value, lifecycle.Yields (next value) post) :
  lifecycle.Yields (first.bind next) post :=
  yields_bind before fun value _ => after value

theorem yields_catching {body : LifecycleProgram α} {handler : LifecycleError → LifecycleProgram α}
  (before : lifecycle.Yields body post) (after : ∀ error, lifecycle.Yields (handler error) post) :
  lifecycle.Yields (body.catching handler) post := by
  intro known
  rw [wp_catching]
  exact wp_mono (before known) (fun _ _ => id) fun later error _ => after error later

end

variable (tenantId : String)

theorem validateScope_yields (scope : LifecycleScope) :
  lifecycle.Yields (validateScope tenantId scope)
    (fun _ => scope.kind = .tenant → scope.subjectId = tenantId) := by
  unfold validateScope
  split
  · exact yields_raised _
  rename_i matching
  exact yields_done fun kind => Classical.not_not.mp (fun other => matching ⟨kind, other⟩)

theorem findBlockingHold_harmless (scope : LifecycleScope) :
  lifecycle.Harmless (findBlockingHold tenantId scope) :=
  harmless_bind (harmless_call fun _ => trivial) fun _ =>
    harmless_bind (harmless_call fun _ => trivial) fun _ => harmless_done _

theorem createHold_harmless (userId : String) (scope : LifecycleScope) (reason : String) :
  lifecycle.Harmless (createHold tenantId userId scope reason) :=
  harmless_bind (validateScope_yields tenantId scope).harmless fun _ =>
    harmless_bind (harmless_call fun _ => trivial) fun _ =>
      harmless_bind (harmless_call fun _ => trivial) fun _ =>
        harmless_bind (harmless_call fun _ => trivial) fun _ => harmless_done _

theorem releaseHold_harmless (userId holdId : String) :
  lifecycle.Harmless (releaseHold tenantId userId holdId) := by
  refine harmless_bind (harmless_call fun _ => trivial) fun current => ?_
  split
  · exact harmless_done _
  exact harmless_bind (harmless_call fun _ => rfl) fun _ =>
    harmless_bind (harmless_call fun _ => trivial) fun _ => harmless_done _

theorem heldBack_harmless (kind : LifecycleJobKind) (tenantId : String)
  (scope : LifecycleScope) : lifecycle.Harmless (heldBack kind tenantId scope) := by
  unfold heldBack
  split
  · exact harmless_done _
  exact findBlockingHold_harmless tenantId scope

theorem retentionCutoffs_yields (kind : LifecycleJobKind) (tenantId : String) (now : Int) :
  lifecycle.Yields (retentionCutoffs kind tenantId now)
    (fun cutoffs => kind = .retention → cutoffs.isSome) := by
  unfold retentionCutoffs
  split
  · exact harmless_bind (harmless_call fun _ => trivial) fun _ => yields_done fun _ => rfl
  exact yields_done fun retention => absurd retention ‹_›

theorem createJob_harmless (userId : String) (request : CreateLifecycleJobRequest) :
  lifecycle.Harmless (lifecycle.createJob tenantId userId request) := by
  unfold createJob
  split
  · exact yields_raised _
  rename_i valid
  refine yields_bind (validateScope_yields tenantId request.scope) fun _ matching =>
    harmless_bind (harmless_call fun _ => trivial) fun existing => ?_
  cases existing with
  | some existing =>
    dsimp only
    split
    · exact yields_raised _
    exact harmless_done _
  | none =>
    refine harmless_bind (heldBack_harmless request.kind tenantId request.scope)
      fun blocking => ?_
    cases blocking with
    | some hold => exact harmless_bind (harmless_call fun _ => trivial) fun _ => yields_raised _
    | none =>
      refine harmless_bind (harmless_call fun _ => trivial) fun now =>
        yields_bind (retentionCutoffs_yields request.kind tenantId now)
          fun cutoffs present => harmless_bind (harmless_call fun _ => trivial)
            fun jobId => harmless_bind (harmless_call fun _ => ?_)
              fun stored => harmless_bind (harmless_call fun _ => trivial)
                fun _ => harmless_done _
      intro retention
      have tenantScope : request.scope.kind = .tenant := by
        simpa [CreateLifecycleJobRequest.valid, show request.kind = .retention from retention]
          using valid
      exact ⟨tenantScope, matching tenantScope, present retention⟩

theorem retryJob_harmless (jobId : String) : lifecycle.Harmless (retryJob tenantId jobId) := by
  have found : lifecycle.Yields (getJob tenantId jobId) SoundJob :=
    yields_call (fun _ => trivial) fun _ _ _ learned => learned.1
  refine yields_bind found fun current sound => ?_
  split
  · exact yields_raised _
  refine harmless_bind (heldBack_harmless current.kind tenantId current.scope)
    fun blocking => ?_
  cases blocking with
  | some hold => exact yields_raised _
  | none =>
    refine harmless_bind (harmless_call fun _ => sound) fun stored => ?_
    split
    · exact yields_raised _
    exact harmless_bind (harmless_call fun _ => trivial) fun _ => harmless_done _

end DataLifecycle

namespace DataLifecycleController

open DataLifecycle LifecyclePort

variable {lifecycle : DataLifecycle} {known : Survey} {job : DataLifecycleJob}

variable (lifecycle) in
def Cleared (known : Survey) (job : DataLifecycleJob) : Prop :=
  SoundJob job ∧ (job.kind = .export ∨ ∃ holds, known = some (job.tenantId, holds) ∧
    blockingHold holds (lifecycle.relatedScopes job.tenantId job.scope) = none)

variable (replacement : LifecycleAdapterResult)

theorem replaceAdapter_yields (sound : SoundJob job) :
  lifecycle.Yields (replaceAdapter job replacement) SoundJob := by
  refine harmless_bind (harmless_call fun _ => sound) fun stored => ?_
  split
  · exact yields_raised _
  exact yields_done sound

theorem replaceAdapter_cleared
  (cleared : Cleared lifecycle known job) : (replaceAdapter job replacement).wp lifecycle.contract
    (fun later updated => Cleared lifecycle later updated) (fun _ _ => True) known := by
  simp only [replaceAdapter, wp_do, wp_perform]
  refine ⟨cleared.1, fun stored later learned => ?_, fun _ _ _ => trivial⟩
  split
  · trivial
  have same : later = known := learned
  rw [same]
  exact cleared

theorem runAdapter_cleared (adapter : String) (cleared : Cleared lifecycle known job) :
  (runAdapter job adapter).wp lifecycle.contract
    (fun later result => ∀ count, result = .ok count → Cleared lifecycle later job)
    (fun _ _ => True) known := by
  unfold runAdapter
  simp only [wp_catching, wp_bind]
  split
  · rw [wp_perform]
    refine ⟨trivial, fun count later learned => ?_, nofun⟩
    have same : later = known := learned
    rw [same]
    exact fun _ _ => cleared
  rename_i notExport
  rw [wp_perform]
  refine ⟨⟨cleared.1, cleared.2.resolve_left notExport⟩, fun count later learned => ?_,
    nofun⟩
  have same : later = known := learned
  rw [same]
  exact fun _ _ => cleared

theorem runAdapters_cleared (items : List LifecycleAdapterResult)
  (cleared : Cleared lifecycle known job) :
  (runAdapters lifecycle items job).wp lifecycle.contract (fun _ updated => SoundJob updated)
    (fun _ _ => True) known := by
  induction items generalizing known job with
  | nil => exact cleared.1
  | cons item rest ih =>
    unfold runAdapters
    split
    · exact ih cleared
    split
    · trivial
    simp only [wp_do]
    refine wp_mono (replaceAdapter_cleared _ cleared) ?_ fun _ _ _ => trivial
    intro later running kept
    refine wp_mono (runAdapter_cleared item.adapter kept) ?_ fun _ _ _ => trivial
    intro last result answered
    cases result with
    | error error =>
      -- The failure may have cost the survey, but only an export goes on from here.
      refine (wp_bind _ _).mpr
        (wp_mono (replaceAdapter_yields _ kept.1 last) ?_ fun _ _ _ => trivial)
      intro final updated sound
      split
      · exact ih ⟨sound, .inl ‹_›⟩
      exact sound
    | ok count =>
      refine (wp_bind _ _).mpr
        (wp_mono (replaceAdapter_cleared _ (answered count rfl)) ?_ fun _ _ _ => trivial)
      intro final updated kept
      exact ih kept

theorem markHoldFailure_yields (holdId : String) (sound : SoundJob job) :
  lifecycle.Yields (markHoldFailure job holdId) SoundJob := by
  unfold markHoldFailure
  split
  · exact yields_raised _
  exact replaceAdapter_yields _ sound

theorem storeExport_yields (sound : SoundJob job) :
  lifecycle.Yields (storeExport job) SoundJob := by
  unfold storeExport
  split
  · exact yields_done sound
  exact yields_catching
    (harmless_bind (harmless_call fun _ => trivial) fun _ => yields_done sound)
    fun _ => yields_done sound

theorem finish_harmless (sound : SoundJob job) : lifecycle.Harmless (finish job) := by
  refine yields_bind (storeExport_yields sound) fun stored kept =>
    harmless_bind (harmless_call fun _ => kept) fun recorded => ?_
  split
  · exact yields_raised _
  exact harmless_done _

theorem heldBack_clears (sound : SoundJob job) (known : Survey) :
  (heldBack job.kind job.tenantId job.scope).wp lifecycle.contract
    (fun later blocking => blocking = none → Cleared lifecycle later job) (fun _ _ => True)
    known := by
  unfold heldBack
  split
  · rename_i isExport
    exact fun _ => ⟨sound, .inl isExport⟩
  simp only [findBlockingHold, resolveScopes, listHolds, bind_eq, wp_bind, wp_perform]
  refine ⟨trivial, fun related later resolved => ?_, fun _ _ _ => trivial⟩
  refine ⟨trivial, fun holds last listed clear => ?_, fun _ _ _ => trivial⟩
  exact ⟨sound, .inr ⟨holds, listed, resolved.1 ▸ clear⟩⟩

theorem processOnce_harmless : lifecycle.Harmless (processOnce lifecycle) := by
  have runnable : lifecycle.Yields (listRunnable 1) (fun jobs => ∀ job ∈ jobs, SoundJob job) :=
    yields_call (fun _ => trivial) fun _ _ _ learned => learned.1
  refine yields_bind runnable fun jobs sound => ?_
  cases jobs with
  | nil => exact harmless_done _
  | cons queued rest =>
    have soundQueued : SoundJob queued := sound queued List.mem_cons_self
    refine harmless_bind (harmless_call fun _ => soundQueued) fun claimed => ?_
    split
    · exact harmless_done _
    intro known
    have soundRunning : SoundJob { queued with
        status := .running, fencingToken := queued.fencingToken + 1 } := soundQueued
    refine (wp_bind _ _).mpr
      (wp_mono (heldBack_clears soundRunning known) ?_ fun _ _ _ => trivial)
    intro later blocking clears
    cases blocking with
    | some hold =>
      exact yields_bind (markHoldFailure_yields hold.holdId soundRunning)
        (fun marked sound => finish_harmless sound) later
    | none =>
      refine (wp_bind _ _).mpr
        (wp_mono (runAdapters_cleared _ (clears rfl)) ?_ fun _ _ _ => trivial)
      intro last processed sound
      exact finish_harmless sound last

end DataLifecycleController

namespace DataLifecycle

variable {lifecycle : DataLifecycle}

theorem serve_harmless (request : LifecycleRequest) :
  lifecycle.Harmless (lifecycle.serve request) := by
  cases request with
  | createHold tenantId userId scope reason =>
    exact harmless_bind (createHold_harmless tenantId userId scope reason)
      fun _ => harmless_done _
  | releaseHold tenantId userId holdId =>
    exact harmless_bind (releaseHold_harmless tenantId userId holdId) fun _ => harmless_done _
  | createJob tenantId userId request =>
    exact harmless_bind (createJob_harmless tenantId userId request) fun _ => harmless_done _
  | retryJob tenantId jobId =>
    exact harmless_bind (retryJob_harmless tenantId jobId) fun _ => harmless_done _
  | processOnce =>
    exact harmless_bind DataLifecycleController.processOnce_harmless fun _ => harmless_done _

theorem actor_harmless (requests : List LifecycleRequest) :
  lifecycle.Harmless (lifecycle.actor requests) := by
  induction requests with
  | nil => exact harmless_done _
  | cons request rest ih =>
    exact harmless_bind
      (yields_catching (serve_harmless request) fun _ => harmless_done _) fun _ => ih

end DataLifecycle

end AgentHarness.Lifecycle
