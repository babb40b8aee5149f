import AgentHarness.Deployments.Launchpad
import AgentHarness.Deployments.Records

/-!
What a promotion, a rollback and a controller know of the queue and of the quotas.
-/

namespace AgentHarness.Deployments.Launching

open Interaction Program DeploymentOp List DeploymentService DeploymentController

structure Slip where
  owed : Option QuotaKey := none
  read : List Deployment := []
  ended : List DeploymentTask := []
  launched : List DeploymentTask := []

namespace Slip

def seeing (slip : Slip) (deployment : Deployment) : Slip :=
  { slip with
    read := deployment :: slip.read
    ended := if deployment.status.isTerminal then deployment.task :: slip.ended else slip.ended }

def after (slip : Slip) : (op : DeploymentOp) → Except DeploymentError op.Answer → Slip
  | .quota (.reserve key), .ok _ => { slip with owed := some key }
  | .quota (.commit _), _ => { slip with owed := none }
  | .quota (.release _), _ => { slip with owed := none }
  | .findByIdempotency _ _ _, .ok (some deployment) =>
    { slip with
      read := deployment :: slip.read, launched := deployment.task :: slip.launched }
  | .getDeployment _, .ok deployment => slip.seeing deployment
  | .addDeployment deployment, .ok _ => { slip with read := deployment :: slip.read }
  | .compareAndSetDeployment _ updated, .ok changed => if changed then slip.seeing updated else slip
  | .enqueue task, .ok _ => { slip with launched := task :: slip.launched }
  | _, _ => slip

structure Extends (slip later : Slip) : Prop where
  owed : later.owed = slip.owed
  read : ∀ deployment ∈ slip.read, deployment ∈ later.read
  ended : ∀ task ∈ slip.ended, task ∈ later.ended
  launched : ∀ task ∈ slip.launched, task ∈ later.launched

theorem Extends.refl (slip : Slip) : slip.Extends slip :=
  ⟨rfl, fun _ => id, fun _ => id, fun _ => id⟩

theorem Extends.trans {slip middle later : Slip} (first : slip.Extends middle)
  (second : middle.Extends later) : slip.Extends later where
  owed := second.owed.trans first.owed
  read deployment held := second.read deployment (first.read deployment held)
  ended task held := second.ended task (first.ended task held)
  launched task held := second.launched task (first.launched task held)

theorem extends_seeing (slip : Slip) (deployment : Deployment) :
  slip.Extends (slip.seeing deployment) where
  owed := rfl
  read _ held := mem_cons_of_mem _ held
  ended task held := by
    simp only [seeing]
    split
    · exact mem_cons_of_mem _ held
    exact held
  launched _ held := held

end Slip

def Writes (slip : Slip) (expected : DeploymentStatus) (updated : Deployment) : Prop :=
  expected.isTerminal = false ∧ ∃ current ∈ slip.read, updated.plan = current.plan

def Allows (service : DeploymentService) (slip : Slip) : DeploymentOp → Prop
  | .quota (.reserve _) => slip.owed = none
  | .quota (.commit key) =>
    slip.owed = some key ∧ ∃ deployment ∈ slip.read, deployment.quotaKey = key
  | .quota (.release key) => slip.owed = some key
  | .addDeployment deployment =>
    deployment.status.isTerminal = false ∧ (deployment.action = .promote → service.quotas = true →
        slip.owed = some deployment.quotaKey)
  | .compareAndSetDeployment expected updated => Writes slip expected updated
  | .enqueue task => ∃ deployment ∈ slip.read, deployment.task = task
  | .acknowledge task => task ∈ slip.ended
  | _ => True

def Foreseen (slip : Slip) : (op : DeploymentOp) → Except DeploymentError op.Answer → Prop
  | .enqueue _, .error _ => slip.owed = none
  | .audit _, .error _ => slip.owed = none
  | .findByIdempotency _ _ _, .error _ => slip.owed = none
  | .findByIdempotency tenantId ownerUserId key, .ok (some deployment) =>
    deployment.quotaKey = ⟨tenantId, ownerUserId, key⟩
  | .getDeployment task, .ok deployment => deployment.task = task
  | .getEnvironment key, .ok environment => environment.key = key
  | .generateId _, .error _ => False
  | _, _ => True

def launchContract (service : DeploymentService) :
  Contract DeploymentOp DeploymentOp.Answer DeploymentError Slip where
  allowed := Allows service
  learns slip op answer later := later = slip.after op answer ∧ Foreseen slip op answer

section

variable {service : DeploymentService} {slip : Slip} {α β : Type}

def isSteady : DeploymentOp → Bool
  | .quota _ | .addDeployment _ | .compareAndSetDeployment _ _ | .enqueue _ | .acknowledge _ => false
  | _ => true

def Steady (service : DeploymentService) (program : DeploymentProgram α) : Prop :=
  ∀ slip : Slip, program.wp (launchContract service) (fun later _ => slip.Extends later)
    (fun later _ => slip.Extends later) slip

variable {op : DeploymentOp} {key : QuotaKey}

theorem extends_after (steady : isSteady op = true)
  (answer : Except DeploymentError op.Answer) : slip.Extends (slip.after op answer) := by
  cases op with
  | quota _ | addDeployment _ | compareAndSetDeployment _ _ | enqueue _ | acknowledge _ =>
    cases steady
  | getDeployment task =>
    cases answer with
    | ok deployment => exact Slip.extends_seeing slip deployment
    | error error => exact Slip.Extends.refl slip
  | findByIdempotency tenantId ownerUserId key =>
    cases answer with
    | error error => exact Slip.Extends.refl slip
    | ok found =>
      cases found with
      | none => exact Slip.Extends.refl slip
      | some deployment =>
        exact
          { owed := rfl, read := fun _ held => mem_cons_of_mem _ held
            ended := fun _ => id
            launched := fun _ held => mem_cons_of_mem _ held }
  | _ => exact Slip.Extends.refl slip

theorem allows_steady (steady : isSteady op = true) : Allows service slip op := by
  cases op with
  | quota _ | addDeployment _ | compareAndSetDeployment _ _ | enqueue _ | acknowledge _ =>
    cases steady
  | _ => trivial

theorem steady_ask (steady : isSteady op = true) : Steady service (ask op) := by
  intro slip
  rw [wp_perform]
  refine ⟨allows_steady steady, ?_, ?_⟩
  · intro value later learned
    rw [learned.1]
    exact extends_after steady _
  intro error later learned
  rw [learned.1]
  exact extends_after steady _

theorem steady_done (value : α) : Steady service (done value : DeploymentProgram α) :=
  fun slip => Slip.Extends.refl slip

theorem steady_raised (error : DeploymentError) :
  Steady service (raised error : DeploymentProgram α) :=
  fun slip => Slip.Extends.refl slip

variable {next : α → DeploymentProgram β} {first : DeploymentProgram α}

theorem steady_bind (head : Steady service first) (tail : ∀ value, Steady service (next value)) :
  Steady service (first.bind next) := by
  intro slip
  rw [wp_bind]
  apply wp_mono (head slip)
  · intro middle value extended
    apply wp_mono (tail value middle)
    · exact fun _ _ more => extended.trans more
    exact fun _ _ more => extended.trans more
  exact fun _ _ => id

variable {program : DeploymentProgram α}

theorem steady_catching
  {handler : DeploymentError → DeploymentProgram α} (body : Steady service program)
  (handled : ∀ error, Steady service (handler error)) :
  Steady service (program.catching handler) := by
  intro slip
  rw [wp_catching]
  apply wp_mono (body slip)
  · exact fun _ _ => id
  intro middle error extended
  apply wp_mono (handled error middle)
  · exact fun _ _ more => extended.trans more
  exact fun _ _ more => extended.trans more

theorem steady_ensure (outcome : Except DeploymentError α) : Steady service (ensure outcome) := by
  cases outcome with
  | ok value => exact steady_done value
  | error error => exact steady_raised error

theorem steady_auditIf (action : String) : Steady service (service.auditIf action) := by
  unfold auditIf
  split
  · exact steady_ask rfl
  exact steady_done ()

theorem steady_knowledge (references : List String) :
  Steady service (validateKnowledgeReferences references) := by
  unfold validateKnowledgeReferences
  split
  · exact steady_done ()
  exact steady_ask rfl

theorem steady_createEnvironment (key : EnvironmentKey) :
  Steady service (createEnvironment key) := by
  apply steady_bind (steady_ask rfl)
  intro catalog
  apply steady_bind (steady_ensure _)
  intro policy
  apply steady_catching
  · exact steady_bind (steady_ask rfl) fun _ => steady_done _
  intro error
  cases error with
  | conflict message => exact steady_ask rfl
  | notFound _ | valueError _ | outage => exact steady_raised _

theorem steady_environment (key : EnvironmentKey) :
  Steady service (DeploymentService.environment key) := by
  apply steady_catching (steady_ask rfl)
  intro error
  cases error with
  | notFound message => exact steady_createEnvironment key
  | conflict _ | valueError _ | outage => exact steady_raised _

theorem steady_snapshotForUser (tenantId ownerUserId snapshotId : String) :
  Steady service (snapshotForUser tenantId ownerUserId snapshotId) := by
  apply steady_bind (steady_ask rfl)
  intro snapshot
  split
  · exact steady_raised _
  exact steady_done _

theorem steady_view (task : DeploymentTask) (ownerUserId : String) :
  Steady service (view task ownerUserId) := by
  apply steady_bind (steady_ask rfl)
  intro deployment
  split
  · exact steady_raised _
  apply steady_bind (steady_snapshotForUser _ _ _)
  intro snapshot
  exact steady_bind (steady_environment _) fun _ => steady_done ()

theorem steady_samePromote (existing : Deployment) (request : PromoteRequest) :
  Steady service (samePromote existing request) := by
  apply steady_bind (steady_snapshotForUser _ _ _)
  intro target
  exact steady_bind (steady_ensure _) fun _ => steady_view _ _

theorem steady_sameRollback (key : EnvironmentKey) (existing : Deployment)
  (request : RollbackRequest) :
  Steady service (sameRollback key existing request) := by
  apply steady_bind (steady_snapshotForUser _ _ _)
  intro target
  exact steady_bind (steady_ensure _) fun _ => steady_view _ _

theorem steady_checkQuality (key : VersionKey) : Steady service (service.checkQuality key) := by
  unfold checkQuality
  split
  · exact steady_ask rfl
  exact steady_done ()

theorem steady_checkPreview (version : AgentVersion) (previewId : Option String) :
  Steady service (service.checkPreview version previewId) := by
  unfold checkPreview
  split
  · exact steady_done ()
  apply steady_bind (steady_ensure _)
  intro _
  exact steady_bind (steady_ask rfl) fun _ => steady_ensure _

theorem steady_each {items : List β} {action : β → DeploymentProgram Unit}
  (round : ∀ item, Steady service (action item)) : Steady service (each items action) := by
  induction items with
  | nil => exact steady_done ()
  | cons item rest ih => exact steady_bind (round item) fun _ => ih

theorem steady_replaceEnvironmentPolicy (key : EnvironmentKey)
  (request : ReplaceEnvironmentPolicyRequest) :
  Steady service (service.replaceEnvironmentPolicy key request) := by
  apply steady_bind (steady_environment key)
  intro current
  apply steady_bind (steady_ensure _)
  intro _
  apply steady_bind (steady_ask rfl)
  intro catalog
  apply steady_bind (steady_ensure _)
  intro profile
  apply steady_bind (steady_knowledge _)
  intro _
  apply steady_bind (steady_ensure _)
  intro _
  apply steady_bind
  · apply steady_each
    intro route
    apply steady_bind (steady_snapshotForUser _ _ _)
    intro snapshot
    exact steady_bind (steady_ask rfl) fun _ => steady_ensure _
  intro _
  apply steady_bind (steady_ask rfl)
  intro changed
  apply steady_bind (steady_ensure _)
  intro _
  exact steady_bind (steady_auditIf _) fun _ => steady_done _

def Launched (key : QuotaKey) (slip : Slip) : Prop :=
  slip.owed = none ∧
    ∃ deployment ∈ slip.read, deployment.quotaKey = key ∧ deployment.task ∈ slip.launched

abbrev Free : Slip → DeploymentError → Prop := fun later _ => later.owed = none

theorem Launched.extend {later : Slip} (launched : Launched key slip)
  (extended : slip.Extends later) : Launched key later := by
  obtain ⟨free, deployment, held, named, enqueued⟩ := launched
  exact ⟨extended.owed.trans free, deployment, extended.read _ held, named,
    extended.launched _ enqueued⟩

theorem wp_steady {post : Slip → β → Prop} (steady : Steady service first) (free : slip.owed = none)
  (rest : ∀ later value, later.owed = none →
    (next value).wp (launchContract service) post Free later) :
  (first >>= next).wp (launchContract service) post Free slip := by
  rw [wp_do]
  apply wp_mono (steady slip)
  · exact fun later value extended => rest later value (extended.owed.trans free)
  exact fun later error extended => extended.owed.trans free

theorem wp_launched (steady : Steady service program) (launched : Launched key slip) :
  program.wp (launchContract service) (fun later _ => Launched key later) Free slip := by
  apply wp_mono (steady slip)
  · exact fun later _ extended => launched.extend extended
  exact fun later _ extended => extended.owed.trans launched.1

def debt (service : DeploymentService) (key : QuotaKey) : Option QuotaKey :=
  if service.quotas then some key else none

theorem wp_reserve (free : slip.owed = none) :
  (service.quotaIf (.reserve key)).wp (launchContract service)
    (fun later _ => later = { slip with owed := debt service key }) Free slip := by
  unfold quotaIf debt
  split
  · rw [wp_perform]
    refine ⟨free, fun _ later learned => learned.1, ?_⟩
    intro error later learned
    rw [learned.1]
    exact free
  rw [wp_done, ← free]

theorem wp_release (owes : slip.owed = debt service key) :
  (service.quotaIf (.release key)).wp (launchContract service)
    (fun later _ => later.owed = none) Free slip := by
  unfold quotaIf
  split
  case isTrue quotas =>
    rw [wp_perform]
    refine ⟨owes.trans (if_pos quotas), ?_, ?_⟩
    · intro _ later learned
      rw [learned.1]
      rfl
    intro error later learned
    rw [learned.1]
    rfl
  case isFalse quotas =>
    rw [wp_done, owes]
    exact if_neg quotas

variable {deployment : Deployment}

theorem wp_commit (owes : slip.owed = debt service key)
  (held : deployment ∈ slip.read) (named : deployment.quotaKey = key) :
  (service.quotaIf (.commit key)).wp (launchContract service)
    (fun later _ => later = { slip with owed := none }) Free slip := by
  unfold quotaIf
  split
  case isTrue quotas =>
    rw [wp_perform]
    refine ⟨⟨owes.trans (if_pos quotas), deployment, held, named⟩, fun _ _ learned => learned.1, ?_⟩
    intro error later learned
    rw [learned.1]
    rfl
  case isFalse quotas =>
    have free : slip.owed = none := owes.trans (if_neg quotas)
    rw [wp_done, ← free]

variable {post : Slip → α → Prop}

theorem wp_giveUp (owes : slip.owed = debt service key) (error : DeploymentError) :
  ((service.quotaIf (.release key)).bind fun _ => raised error).wp (launchContract service)
    post Free slip := by
  rw [wp_bind]
  exact wp_mono (wp_release owes) (fun _ _ => id) fun _ _ => id

theorem wp_auditIf (action : String) :
  (service.auditIf action).wp (launchContract service) (fun later _ => later = slip) Free
    slip := by
  unfold auditIf
  split
  · rw [wp_perform]
    refine ⟨trivial, fun _ later learned => learned.1, ?_⟩
    intro error later learned
    rw [learned.1]
    exact learned.2
  exact rfl

theorem wp_enqueue (held : deployment ∈ slip.read) :
  (ask (.enqueue deployment.task)).wp (launchContract service)
    (fun later _ => later = { slip with launched := deployment.task :: slip.launched }) Free
    slip := by
  rw [wp_perform]
  refine ⟨⟨deployment, held, rfl⟩, fun _ later learned => learned.1, ?_⟩
  intro error later learned
  rw [learned.1]
  exact learned.2

theorem wp_generateId {kind : String} {next : String → DeploymentProgram α}
  (rest : ∀ name, (next name).wp (launchContract service) post Free slip) :
  ((ask (.generateId kind)).bind next).wp (launchContract service) post Free slip := by
  rw [wp_bind, wp_perform]
  refine ⟨trivial, ?_, fun _ _ learned => learned.2.elim⟩
  intro name later learned
  rw [learned.1]
  exact rest name

theorem wp_storedMeanwhile (deployment : Deployment) (request : PromoteRequest)
  (error : DeploymentError) (named : deployment.idempotencyKey = request.idempotencyKey)
  (owes : slip.owed = debt service deployment.quotaKey) :
  (service.storedMeanwhile deployment request error).wp (launchContract service)
    (fun later stored => stored = false ∧ Launched deployment.quotaKey later) Free slip := by
  unfold storedMeanwhile
  rw [wp_do_perform]
  refine ⟨trivial, ?_, ?_⟩
  · intro found later learned
    cases found with
    | none =>
      have unchanged : later = slip := learned.1
      rw [unchanged]
      exact wp_giveUp owes error
    | some concurrent =>
      have key : concurrent.quotaKey = deployment.quotaKey := by
        have answered : concurrent.quotaKey =
          ⟨deployment.tenantId, deployment.requestedBy, request.idempotencyKey⟩ := learned.2
        rw [answered, ← named]
        rfl
      have noted : later = { slip with
          read := concurrent :: slip.read
          launched := concurrent.task :: slip.launched } := learned.1
      rw [noted]
      rw [wp_do]
      apply wp_mono (wp_commit (by exact owes) mem_cons_self key) ?_ fun _ _ => id
      intro last _ settled
      have launched : Launched deployment.quotaKey last := by
        rw [settled]
        exact ⟨rfl, concurrent, mem_cons_self, key, mem_cons_self⟩
      rw [wp_do]
      apply wp_mono (wp_launched (steady_samePromote concurrent request) launched)
      · exact fun _ _ kept => ⟨rfl, kept⟩
      exact fun _ _ => id
  intro failure later learned
  rw [learned.1]
  exact learned.2

theorem wp_storePromotion (deployment : Deployment) (request : PromoteRequest)
  (queued : deployment.status.isTerminal = false)
  (named : deployment.idempotencyKey = request.idempotencyKey)
  (owes : slip.owed = debt service deployment.quotaKey) :
  (service.storePromotion deployment request).wp (launchContract service)
    (fun later stored => (stored = true ∧ later = { slip with read := deployment :: slip.read }) ∨
    (stored = false ∧ Launched deployment.quotaKey later)) Free slip := by
  unfold storePromotion
  rw [wp_bind, wp_catching, wp_bind, wp_perform]
  refine ⟨⟨queued, fun _ quotas => owes.trans (if_pos quotas)⟩, ?_, ?_⟩
  · intro _ later learned
    exact .inl ⟨rfl, learned.1⟩
  intro failure later learned
  have unchanged : later = slip := learned.1
  rw [unchanged, wp_done]
  cases failure with
  | conflict message =>
    apply wp_mono (wp_storedMeanwhile deployment request (.conflict message) named owes)
    · exact fun _ _ kept => .inr kept
    exact fun _ _ => id
  | notFound _ | valueError _ | outage => exact wp_giveUp owes _

theorem wp_launch (environment : Environment) (request : PromoteRequest)
  (profile : ExecutionProfileMetadata) (gatePassed : Bool) (free : slip.owed = none) :
  (service.launch environment request profile gatePassed).wp (launchContract service)
    (fun later _ => Launched
    ⟨environment.key.tenantId, environment.key.ownerUserId, request.idempotencyKey⟩ later)
    Free slip := by
  unfold launch
  rw [bind_eq]
  apply wp_generateId
  intro snapshotId
  rw [wp_do]
  apply wp_mono (wp_reserve free) ?_ fun _ _ => id
  intro reserved _ owing
  have owes : reserved.owed = debt service
    ⟨environment.key.tenantId, environment.key.ownerUserId, request.idempotencyKey⟩ := by
    rw [owing]
  rw [wp_do, wp_catching, wp_perform]
  refine ⟨trivial, ?_, ?_⟩
  · intro _ later learned
    have unchanged : later = reserved := learned.1
    rw [unchanged, bind_eq]
    apply wp_generateId
    intro deploymentId
    rw [wp_do]
    apply wp_mono (wp_storePromotion (promotion environment request snapshotId deploymentId)
      request rfl rfl owes) ?_ fun _ _ => id
    intro last stored outcome
    rcases outcome with ⟨mine, noted⟩ | ⟨others, launched⟩
    · rw [mine, if_pos rfl, noted, wp_do]
      apply wp_mono (wp_enqueue mem_cons_self) ?_ fun _ _ => id
      intro enqueued _ known
      rw [wp_do]
      apply wp_mono (wp_auditIf _) ?_ fun _ _ => id
      intro audited _ same
      rw [same, known]
      have named :
        (promotion environment request snapshotId deploymentId).quotaKey =
          ⟨environment.key.tenantId, environment.key.ownerUserId, request.idempotencyKey⟩ := rfl
      apply wp_mono (wp_commit (by exact owes) mem_cons_self named) ?_
        (fun _ _ => id)
      intro settled _ result
      rw [result]
      exact ⟨rfl, _, mem_cons_self, rfl, mem_cons_self⟩
    rw [others, if_neg Bool.false_ne_true]
    exact launched
  intro failure later learned
  have unchanged : later = reserved := learned.1
  rw [unchanged]
  exact wp_giveUp owes failure

theorem wp_environmentOf (key : EnvironmentKey) (free : slip.owed = none) :
  (DeploymentService.environment key).wp (launchContract service)
    (fun later environment => later.owed = none ∧ environment.key = key) Free slip := by
  unfold DeploymentService.environment
  rw [wp_catching, wp_perform]
  refine ⟨trivial, ?_, ?_⟩
  · intro environment later learned
    rw [learned.1]
    exact ⟨free, learned.2⟩
  intro error later learned
  have unchanged : later = slip := learned.1
  rw [unchanged]
  cases error with
  | conflict _ | valueError _ | outage => exact free
  | notFound message =>
    apply wp_steady (steady_ask rfl) free
    intro second catalog free
    apply wp_steady (steady_ensure _) free
    intro third policy free
    rw [wp_catching, wp_bind, wp_perform]
    refine ⟨trivial, ?_, ?_⟩
    · intro _ later learned
      rw [learned.1]
      exact ⟨free, rfl⟩
    intro error later learned
    have unchanged : later = third := learned.1
    rw [unchanged]
    cases error with
    | notFound _ | valueError _ | outage => exact free
    | conflict message =>
      rw [wp_perform]
      refine ⟨trivial, ?_, ?_⟩
      · intro environment later learned
        rw [learned.1]
        exact ⟨free, learned.2⟩
      intro error later learned
      rw [learned.1]
      exact free

theorem wp_findByIdempotency {tenantId userId idempotencyKey : String}
  {next : Option Deployment → DeploymentProgram Unit} (free : slip.owed = none)
  (recorded : ∀ existing, Steady service (next (some existing)))
  (anew : (next none).wp (launchContract service)
    (fun later _ => Launched ⟨tenantId, userId, idempotencyKey⟩ later) Free slip) :
  (Program.bind (ask (.findByIdempotency tenantId userId idempotencyKey)) next).wp
    (launchContract service)
    (fun later _ => Launched ⟨tenantId, userId, idempotencyKey⟩ later) Free slip := by
  rw [wp_bind, wp_perform]
  refine ⟨trivial, ?_, ?_⟩
  · intro found later learned
    cases found with
    | some existing =>
      have launched : Launched ⟨tenantId, userId, idempotencyKey⟩ later := by
        rw [learned.1]
        exact ⟨free, existing, mem_cons_self, learned.2, mem_cons_self⟩
      exact wp_launched (recorded existing) launched
    | none =>
      have unchanged : later = slip := learned.1
      rw [unchanged]
      exact anew
  intro failure later learned
  rw [learned.1]
  exact free

theorem wp_promoteAnew (tenantId userId : String) (request : PromoteRequest)
  (free : slip.owed = none) :
  (service.promoteAnew tenantId userId request).wp (launchContract service)
    (fun later _ => Launched ⟨tenantId, userId, request.idempotencyKey⟩ later) Free slip := by
  unfold promoteAnew
  rw [wp_do]
  apply wp_mono (wp_environmentOf _ free) ?_ fun _ _ => id
  rintro first environment ⟨free, aimed⟩
  apply wp_steady (steady_ensure _) free
  intro second _ free
  apply wp_steady (steady_ask rfl) free
  intro third version free
  apply wp_steady (steady_ensure _) free
  intro fourth _ free
  apply wp_steady (steady_ask rfl) free
  intro fifth gatePassed free
  apply wp_steady (steady_checkQuality _) free
  intro sixth _ free
  apply wp_steady (steady_checkPreview _ _) free
  intro seventh _ free
  apply wp_steady (steady_ask rfl) free
  intro eighth catalog free
  apply wp_steady (steady_ensure _) free
  intro ninth policyProfile free
  apply wp_steady (steady_knowledge _) free
  intro tenth _ free
  apply wp_steady (steady_ensure _) free
  intro eleventh profile free
  apply wp_steady (steady_ensure _) free
  intro twelfth _ free
  apply wp_steady (steady_ensure _) free
  intro last _ free
  have launches := @wp_launch service last environment request profile gatePassed free
  rw [aimed] at launches
  exact launches

theorem wp_promote (tenantId userId : String) (request : PromoteRequest) (free : slip.owed = none) :
  (service.promote tenantId userId request).wp (launchContract service)
    (fun later _ => Launched ⟨tenantId, userId, request.idempotencyKey⟩ later) Free slip := by
  unfold DeploymentService.promote
  rw [bind_eq]
  exact wp_findByIdempotency free (fun existing => steady_samePromote existing request)
    (wp_promoteAnew tenantId userId request free)

theorem wp_rollbackAnew (key : EnvironmentKey) (request : RollbackRequest)
  (free : slip.owed = none) : (service.rollbackAnew key request).wp (launchContract service)
    (fun later _ => Launched ⟨key.tenantId, key.ownerUserId, request.idempotencyKey⟩ later) Free
    slip := by
  apply wp_steady (steady_environment key) free
  intro first environment free
  apply wp_steady (steady_ensure _) free
  intro second _ free
  apply wp_steady (steady_snapshotForUser _ _ _) free
  intro third snapshot free
  apply wp_steady (steady_ensure _) free
  intro fourth _ free
  rw [bind_eq]
  apply wp_generateId
  intro deploymentId
  rw [wp_do_perform]
  refine ⟨⟨rfl, fun promoted => (nomatch promoted)⟩, ?_, ?_⟩
  · intro _ later learned
    rw [learned.1, wp_do]
    apply wp_mono (wp_enqueue mem_cons_self) ?_ fun _ _ => id
    intro enqueued _ known
    rw [known]
    apply wp_mono (wp_auditIf _) ?_ fun _ _ => id
    intro audited _ same
    rw [same]
    exact ⟨free, _, mem_cons_self, rfl, mem_cons_self⟩
  intro failure later learned
  rw [learned.1]
  exact free

theorem wp_rollback (key : EnvironmentKey) (request : RollbackRequest) (free : slip.owed = none) :
  (service.rollback key request).wp (launchContract service)
    (fun later _ => Launched ⟨key.tenantId, key.ownerUserId, request.idempotencyKey⟩ later) Free
    slip := by
  unfold DeploymentService.rollback
  rw [bind_eq]
  exact wp_findByIdempotency free (fun existing => steady_sameRollback key existing request)
    (wp_rollbackAnew key request free)

def Seen (task : DeploymentTask) (later : Slip) (result : Deployment) : Prop :=
  later.owed = none ∧ result.task = task ∧ (result.status.isTerminal = true → task ∈ later.ended)

theorem seen_seeing {task : DeploymentTask} (free : slip.owed = none)
  (named : deployment.task = task) : Seen task (slip.seeing deployment) deployment := by
  refine ⟨free, named, ?_⟩
  intro terminal
  rw [Slip.seeing, if_pos terminal, named]
  exact mem_cons_self

structure Reconciles (task : DeploymentTask) (current : Deployment) (slip : Slip) : Prop where
  free : slip.owed = none
  read : current ∈ slip.read
  named : current.task = task
  going : current.status.isTerminal = false

theorem Reconciles.extend {task : DeploymentTask} {current : Deployment} {later : Slip}
  (reconciles : Reconciles task current slip) (extended : slip.Extends later) :
  Reconciles task current later where
  free := extended.owed.trans reconciles.free
  read := extended.read current reconciles.read
  named := reconciles.named
  going := reconciles.going

section

variable {task : DeploymentTask} {current : Deployment}

abbrev Stays (task : DeploymentTask) (current : Deployment) : Slip → DeploymentError → Prop :=
  fun later _ => Reconciles task current later

theorem wp_move (reconciles : Reconciles task current slip) (status : DeploymentStatus)
  (errorCode : Option String) : (move current status errorCode).wp (launchContract service)
    (Seen task) (Stays task current) slip := by
  unfold move
  rw [wp_do_perform]
  refine ⟨⟨reconciles.going, current, reconciles.read, rfl⟩, ?_, ?_⟩
  · intro changed later learned
    cases changed with
    | true =>
      have seen : later = slip.seeing { current with
          status, fencingToken := current.fencingToken + 1
          errorCode } := learned.1
      rw [seen, if_pos rfl]
      exact seen_seeing reconciles.free reconciles.named
    | false =>
      have unchanged : later = slip := learned.1
      rw [unchanged, if_neg Bool.false_ne_true, wp_perform]
      refine ⟨trivial, ?_, ?_⟩
      · intro deployment last learned'
        rw [learned'.1]
        exact seen_seeing reconciles.free (learned'.2.trans reconciles.named)
      intro error last learned'
      rw [learned'.1]
      exact reconciles
  intro error later learned
  rw [learned.1]
  exact reconciles

theorem wp_working {first : DeploymentProgram α} {next : α → DeploymentProgram β}
  {post : Slip → β → Prop} (steady : Steady service first)
  (reconciles : Reconciles task current slip)
  (rest : ∀ later value, Reconciles task current later →
    (next value).wp (launchContract service) post (Stays task current) later) :
  (first.bind next).wp (launchContract service) post (Stays task current) slip := by
  rw [wp_bind]
  apply wp_mono (steady slip)
  · exact fun later value extended => rest later value (reconciles.extend extended)
  exact fun later error extended => reconciles.extend extended

theorem wp_attempt (reconciles : Reconciles task current slip) (snapshot : DeploymentSnapshot) :
  (attempt current snapshot).wp (launchContract service) (Seen task)
    (Stays task current) slip := by
  unfold attempt
  rw [bind_eq]
  apply wp_working (steady_ask rfl) reconciles
  intro first environment reconciles
  split
  · exact wp_move reconciles _ _
  unfold deployTo
  rw [bind_eq]
  apply wp_working (steady_ask rfl) reconciles
  intro second _ reconciles
  split
  · exact wp_move reconciles _ _
  case h_2 target _ =>
    unfold DeploymentController.apply
    rw [bind_eq]
    apply wp_working (steady_ask rfl) reconciles
    intro third changed reconciles
    split
    · exact wp_move reconciles _ _
    exact wp_move reconciles _ _

theorem wp_reconcile (free : slip.owed = none) :
  (reconcile task).wp (launchContract service) (Seen task) Free slip := by
  unfold reconcile
  rw [wp_do_perform]
  refine ⟨trivial, ?_, ?_⟩
  · intro current later learned
    have seen : later = slip.seeing current := learned.1
    have named : current.task = task := learned.2
    rw [seen]
    split
    · exact seen_seeing free named
    case isFalse going =>
      have reconciles : Reconciles task current (slip.seeing current) :=
        ⟨free, mem_cons_self, named, Bool.eq_false_iff.mpr going⟩
      split
      · exact wp_mono (wp_move reconciles _ _) (fun _ _ => id)
          (fun _ _ stays => stays.free)
      rw [wp_do_perform]
      refine ⟨trivial, ?_, ?_⟩
      · intro snapshot last learned'
        have unchanged : last = slip.seeing current := learned'.1
        rw [unchanged, wp_catching]
        apply wp_mono (wp_attempt reconciles snapshot) fun _ _ => id
        intro failed error stays
        exact wp_mono (wp_move stays _ _) (fun _ _ => id) fun _ _ left => left.free
      intro error last learned'
      rw [learned'.1]
      exact free
  intro error later learned
  rw [learned.1]
  exact free

theorem wp_processOnce (free : slip.owed = none) :
  DeploymentController.processOnce.wp (launchContract service)
    (fun later _ => later.owed = none) Free slip := by
  unfold DeploymentController.processOnce
  rw [wp_do_perform]
  refine ⟨trivial, ?_, ?_⟩
  · intro offered later learned
    have unchanged : later = slip := learned.1
    rw [unchanged]
    cases offered with
    | none => exact free
    | some task =>
      rw [wp_do, wp_catching]
      apply wp_mono (wp_reconcile free)
      · intro last result seen
        unfold settle
        split
        case isTrue terminal =>
          rw [wp_perform]
          refine ⟨seen.2.2 terminal, ?_, ?_⟩
          · intro _ final learned'
            rw [learned'.1]
            exact seen.1
          intro error final learned'
          rw [learned'.1]
          exact seen.1
        · apply wp_mono (steady_ask rfl last)
          · exact fun _ _ extended => extended.owed.trans seen.1
          exact fun _ _ extended => extended.owed.trans seen.1
      intro last error left
      rw [wp_bind]
      apply wp_mono (steady_ask rfl last)
      · exact fun _ _ extended => extended.owed.trans left
      exact fun _ _ extended => extended.owed.trans left
  intro error later learned
  rw [learned.1]
  exact free

end

def keyOf : DeploymentRequest → Option QuotaKey
  | .promote tenantId userId request => some ⟨tenantId, userId, request.idempotencyKey⟩
  | .rollback key request => some ⟨key.tenantId, key.ownerUserId, request.idempotencyKey⟩
  | _ => none

def Returned (request : DeploymentRequest) (later : Slip) : Prop :=
  later.owed = none ∧ ∀ key ∈ keyOf request, Launched key later

theorem serve_returns (request : DeploymentRequest) (free : slip.owed = none) :
  (service.serve request).wp (launchContract service) (fun later _ => Returned request later) Free
    slip := by
  cases request with
  | replacePolicy key request =>
    apply wp_mono (steady_bind (steady_replaceEnvironmentPolicy key request)
      (fun _ => steady_done ()) slip)
    · exact fun later _ extended => ⟨extended.owed.trans free, fun _ none => (nomatch none)⟩
    exact fun later _ extended => extended.owed.trans free
  | promote tenantId userId request =>
    apply wp_mono (wp_promote tenantId userId request free) ?_ fun _ _ => id
    intro later _ launched
    refine ⟨launched.1, ?_⟩
    intro key named
    cases named
    exact launched
  | rollback key request =>
    apply wp_mono (wp_rollback key request free) ?_ fun _ _ => id
    intro later _ launched
    refine ⟨launched.1, ?_⟩
    intro other named
    cases named
    exact launched
  | processOnce =>
    apply wp_mono (wp_processOnce free) ?_ fun _ _ => id
    exact fun later _ left => ⟨left, fun _ none => (nomatch none)⟩

end

end AgentHarness.Deployments.Launching
