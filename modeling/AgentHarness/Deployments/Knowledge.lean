import AgentHarness.Deployments.Store

/-!
What the service and a controller know when they write.
-/

namespace AgentHarness.Deployments

open Interaction Program DeploymentOp List DeploymentController DeploymentService

variable (platform : DeploymentPlatform)

def Meets (snapshot : DeploymentSnapshot) (policy : EnvironmentResourcePolicy) : Prop :=
  ∃ version, platform.versions snapshot.versionKey = some version ∧
    Satisfies version.snapshot policy snapshot.executionProfile snapshot.executionProfileVersion

structure Known where
  environment : Option Environment := none
  current : Option Deployment := none
  snapshots : List DeploymentSnapshot := []
  applied : Option Deployment := none

namespace Known

def after (known : Known) : (op : DeploymentOp) → Except DeploymentError op.Answer → Known
  | .getEnvironment _, .ok environment => { known with environment := some environment }
  | .addEnvironment environment, .ok _ => { known with environment := some environment }
  | .compareAndSetEnvironment cause _ _, .ok changed =>
    { known with
      environment := none, applied := if changed ∧ cause.isSome then known.current else none }
  | .compareAndSetEnvironment _ _ _, .error _ => { known with environment := none }
  | .getSnapshot _ _, .ok snapshot => { known with snapshots := snapshot :: known.snapshots }
  | .addSnapshot snapshot, .ok _ => { known with snapshots := snapshot :: known.snapshots }
  | .getDeployment _, .ok deployment => { known with current := some deployment }
  | .compareAndSetDeployment _ _, _ => { known with applied := none }
  | _, _ => known

end Known

def Foreseen : (op : DeploymentOp) → Except DeploymentError op.Answer → Prop
  | .getEnvironment key, .ok environment => environment.key = key
  | .getSnapshot tenantId snapshotId, .ok snapshot =>
    snapshot.tenantId = tenantId ∧ snapshot.snapshotId = snapshotId
  | .getDeployment task, .ok deployment => deployment.task = task
  | .getVersion key, .ok version => platform.versions key = some version
  | _, _ => True

structure ReplacesPolicy (platform : DeploymentPlatform) (known : Known) (expectedRevision : Nat)
    (updated : Environment) (current : Environment) : Prop where
  read : known.environment = some current
  expected : expectedRevision = current.revision
  written : updated =
    { current with
      revision := current.revision + 1, policyRevision := current.policyRevision + 1
      resourcePolicy := updated.resourcePolicy }
  validated : ∀ route ∈ current.routes, ∃ snapshot ∈ known.snapshots,
    snapshot.tenantId = current.key.tenantId ∧ snapshot.snapshotId = route.snapshotId ∧
      Meets platform snapshot updated.resourcePolicy
  idle : known.applied = none

structure AppliesRoutes (known : Known) (task : DeploymentTask) (expectedRevision : Nat)
    (updated : Environment) (current : Environment) (deployment : Deployment) : Prop where
  read : known.environment = some current
  deploying : known.current = some deployment
  reconciling : deployment.status = .reconciling
  caused : task = deployment.task
  aimed : current.key = deployment.environmentKey
  expected : expectedRevision = current.revision
  unchanged : current.revision = deployment.expectedEnvironmentRevision
  written : ∃ snapshot ∈ known.snapshots, ∃ target, snapshot.tenantId = deployment.tenantId ∧
      snapshot.snapshotId = deployment.targetSnapshotId ∧
      routesFor deployment snapshot current.healthySnapshotId = some target ∧
      updated =
        { current with
          revision := current.revision + 1, routes := target.1, healthySnapshotId := target.2 }
  idle : known.applied = none

structure Launches (platform : DeploymentPlatform) (known : Known) (deployment : Deployment)
    (current : Environment) (snapshot : DeploymentSnapshot) : Prop where
  read : known.environment = some current
  queued : deployment.status = .queued
  unmoved : deployment.fencingToken = 0
  aimed : current.key = deployment.environmentKey
  unchanged : deployment.expectedEnvironmentRevision = current.revision
  present : snapshot ∈ known.snapshots
  tenant : snapshot.tenantId = deployment.tenantId
  target : snapshot.snapshotId = deployment.targetSnapshotId
  agent : snapshot.agentName = deployment.agentName
  environment : snapshot.environment = deployment.environment
  owner : snapshot.createdBy = deployment.requestedBy
  promoted : deployment.action = .promote → Meets platform snapshot current.resourcePolicy
  verified : deployment.action = .rollback → snapshot.evalGatePassed = true
  whole : deployment.action = .rollback → deployment.canaryPercent = Percent.full

structure Moves (known : Known) (expected : DeploymentStatus) (updated : Deployment)
    (current : Deployment) : Prop where
  read : known.current = some current
  expected : expected = current.status
  written : updated =
    { current with
      status := updated.status, fencingToken := current.fencingToken + 1
      errorCode := updated.errorCode }
  forward : current.status = .queued ∧ updated.status = .reconciling ∧ known.applied = none ∨
    current.status = .reconciling ∧ updated.status = .failed ∧ known.applied = none ∨
    current.status = .reconciling ∧ updated.status = .succeeded ∧ known.applied = some current

def Unoccupied (known : Known) (op : DeploymentOp) : Prop :=
  known.applied = none ∨ ∃ expected updated, op = .compareAndSetDeployment expected updated ∧
      updated.status = .succeeded

def contract : Contract DeploymentOp DeploymentOp.Answer DeploymentError Known where
  allowed known op :=
    Unoccupied known op ∧
    match op with
    | .addEnvironment environment =>
      environment.revision = 0 ∧ environment.routes = [] ∧ environment.healthySnapshotId = none
    | .compareAndSetEnvironment none expectedRevision updated =>
      ∃ current, ReplacesPolicy platform known expectedRevision updated current
    | .compareAndSetEnvironment (some task) expectedRevision updated =>
      ∃ current deployment, AppliesRoutes known task expectedRevision updated current deployment
    | .addDeployment deployment =>
      ∃ current snapshot, Launches platform known deployment current snapshot
    | .compareAndSetDeployment expected updated => ∃ current, Moves known expected updated current
    | _ => True
  learns known op answer later := later = known.after op answer ∧ Foreseen platform op answer

section

variable {platform : DeploymentPlatform} {known : Known} {α β : Type}

def Plain (platform : DeploymentPlatform) (program : DeploymentProgram α) : Prop :=
  ∀ known : Known, known.applied = none → program.wp (contract platform) (fun later _ => later = known)
    (fun later _ => later = known) known

def isPlain : DeploymentOp → Bool
  | .getVersion _ | .findByIdempotency _ _ _ | .catalog _ | .validateKnowledge _
  | .requirePromotionAllowed _ | .qualityGate _ | .getPreview _ | .generateId _ | .quota _
  | .audit _ | .deploy _ | .enqueue _ | .dequeue | .acknowledge _ | .retry _ => true
  | _ => false

theorem plain_ask {op : DeploymentOp} (plain : isPlain op = true) : Plain platform (ask op) := by
  intro known idle
  rw [wp_perform]
  cases op with
  | getEnvironment | addEnvironment | compareAndSetEnvironment | addSnapshot | getSnapshot
  | addDeployment | getDeployment | compareAndSetDeployment => cases plain
  | _ => exact ⟨⟨.inl idle, trivial⟩, fun _ _ learned => learned.1, fun _ _ learned => learned.1⟩

theorem plain_done (value : α) : Plain platform (done value : DeploymentProgram α) := fun _ _ => rfl

theorem plain_raised (error : DeploymentError) :
  Plain platform (raised error : DeploymentProgram α) :=
  fun _ _ => rfl

variable {next : α → DeploymentProgram β} {first : DeploymentProgram α}

theorem plain_bind (head : Plain platform first) (tail : ∀ value, Plain platform (next value)) :
  Plain platform (first.bind next) := by
  intro known idle
  rw [wp_bind]
  refine wp_mono (head known idle) ?_ fun _ _ => id
  rintro later value rfl
  exact tail value later idle

theorem plain_ensure (outcome : Except DeploymentError α) : Plain platform (ensure outcome) := by
  cases outcome with
  | ok value => exact plain_done value
  | error error => exact plain_raised error

variable (service : DeploymentService)

theorem plain_auditIf (action : String) : Plain platform (service.auditIf action) := by
  unfold auditIf
  split
  · exact plain_ask rfl
  exact plain_done ()

theorem plain_quotaIf (step : QuotaStep) : Plain platform (service.quotaIf step) := by
  unfold quotaIf
  split
  · exact plain_ask rfl
  exact plain_done ()

theorem plain_checkQuality (key : VersionKey) : Plain platform (service.checkQuality key) := by
  unfold checkQuality
  split
  · exact plain_ask rfl
  exact plain_done ()

theorem plain_checkPreview (version : AgentVersion) (previewId : Option String) :
  Plain platform (service.checkPreview version previewId) := by
  unfold checkPreview
  split
  · exact plain_done ()
  exact plain_bind (plain_ensure _) fun _ => plain_bind (plain_ask rfl) (fun _ => plain_ensure _)

theorem plain_knowledge (references : List String) :
  Plain platform (validateKnowledgeReferences references) := by
  unfold validateKnowledgeReferences
  split
  · exact plain_done ()
  exact plain_ask rfl

variable {fail : Known → DeploymentError → Prop}

theorem wp_after_plain {post : Known → β → Prop}
  (plain : Plain platform first) (idle : known.applied = none) (failed : ∀ error, fail known error)
  (rest : ∀ value, (next value).wp (contract platform) post fail known) :
  (first.bind next).wp (contract platform) post fail known := by
  rw [wp_bind]
  refine wp_mono (plain known idle) ?_ ?_
  · rintro later value rfl
    exact rest value
  rintro later error rfl
  exact failed error

theorem wp_ensure {outcome : Except DeploymentError α} {post : Known → α → Prop}
  (failed : ∀ error, fail known error) (passed : ∀ value, outcome = .ok value → post known value) :
  (ensure outcome).wp (contract platform) post fail known := by
  cases outcome with
  | ok value => exact passed value rfl
  | error error => exact failed error

abbrev Fails : Known → DeploymentError → Prop := fun later _ => later.applied = none

variable (key : EnvironmentKey)

theorem wp_createEnvironment (idle : known.applied = none) :
  (createEnvironment key).wp (contract platform)
    (fun later environment =>
    later = { known with environment := some environment } ∧ environment.key = key)
    Fails known := by
  refine wp_after_plain (plain_ask rfl) idle (fun _ => idle) fun catalog => ?_
  refine wp_after_plain (plain_ensure _) idle (fun _ => idle) fun policy => ?_
  rw [wp_catching, wp_bind, wp_perform]
  refine ⟨⟨.inl idle, rfl, rfl, rfl⟩, ?_, ?_⟩
  · intro _ later learned
    exact ⟨learned.1, rfl⟩
  rintro error later ⟨rfl, _⟩
  cases error with
  | conflict message =>
    rw [wp_perform]
    refine ⟨⟨.inl idle, trivial⟩, fun environment later learned => ⟨learned.1, learned.2⟩, ?_⟩
    rintro error later ⟨rfl, _⟩
    exact idle
  | notFound | valueError | outage => exact idle

theorem wp_environment (idle : known.applied = none) :
  (DeploymentService.environment key).wp (contract platform)
    (fun later environment =>
    later = { known with environment := some environment } ∧ environment.key = key)
    Fails known := by
  unfold DeploymentService.environment
  rw [wp_catching, wp_perform]
  refine ⟨⟨.inl idle, trivial⟩, fun environment later learned => ⟨learned.1, learned.2⟩, ?_⟩
  rintro error later ⟨rfl, _⟩
  cases error with
  | notFound message => exact wp_createEnvironment key idle
  | conflict | valueError | outage => exact idle

theorem wp_snapshotForUser (tenantId ownerUserId snapshotId : String)
  (idle : known.applied = none) :
  (snapshotForUser tenantId ownerUserId snapshotId).wp (contract platform)
    (fun later snapshot =>
    later = { known with snapshots := snapshot :: known.snapshots } ∧
    snapshot.tenantId = tenantId ∧ snapshot.snapshotId = snapshotId ∧
    snapshot.createdBy = ownerUserId)
    Fails known := by
  unfold snapshotForUser
  rw [wp_do_perform]
  refine ⟨⟨.inl idle, trivial⟩, ?_, ?_⟩
  · rintro snapshot later ⟨rfl, tenant, named⟩
    split
    · exact idle
    rename_i own
    exact ⟨rfl, tenant, named, not_not.mp own⟩
  rintro error later ⟨rfl, _⟩
  exact idle

structure Known.Extends (known later : Known) : Prop where
  environment : later.environment = known.environment
  snapshots : known.snapshots ⊆ later.snapshots
  idle : later.applied = none

variable (policy : EnvironmentResourcePolicy)

theorem wp_validateRoute (route : DeploymentRoute)
  (idle : known.applied = none) : (validateRoute key policy route).wp (contract platform)
    (fun later _ => known.Extends later ∧ ∃ snapshot ∈ later.snapshots,
    snapshot.tenantId = key.tenantId ∧ snapshot.snapshotId = route.snapshotId ∧
    Meets platform snapshot policy)
    Fails known := by
  unfold validateRoute
  rw [wp_do]
  refine wp_mono (wp_snapshotForUser _ _ _ idle) ?_ fun _ _ => id
  rintro later snapshot ⟨rfl, tenant, named, _⟩
  rw [wp_do_perform]
  refine ⟨⟨.inl idle, trivial⟩, ?_, ?_⟩
  · rintro version later ⟨rfl, published⟩
    refine wp_ensure (fun _ => idle) fun _ accepted => ?_
    refine ⟨⟨rfl, subset_cons_self _ _, idle⟩, snapshot, mem_cons_self, tenant, named,
      version, published, validateAgentPolicy_ok.mp accepted⟩
  rintro error later ⟨rfl, _⟩
  exact idle

theorem wp_validateRoutes (routes : List DeploymentRoute)
  (idle : known.applied = none) : (each routes (validateRoute key policy)).wp (contract platform)
    (fun later _ => known.Extends later ∧ ∀ route ∈ routes, ∃ snapshot ∈ later.snapshots,
    snapshot.tenantId = key.tenantId ∧ snapshot.snapshotId = route.snapshotId ∧
    Meets platform snapshot policy)
    Fails known := by
  induction routes generalizing known with
  | nil => exact ⟨⟨rfl, List.Subset.refl _, idle⟩, fun _ member => nomatch member⟩
  | cons route rest ih =>
    rw [each, wp_bind]
    refine wp_mono (wp_validateRoute key policy route idle) ?_ fun _ _ => id
    rintro now _ ⟨extended, found⟩
    refine wp_mono (ih extended.idle) ?_ fun _ _ => id
    rintro later _ ⟨further, others⟩
    refine ⟨⟨further.environment.trans extended.environment,
      List.Subset.trans extended.snapshots further.snapshots, further.idle⟩, ?_⟩
    intro other member
    rcases mem_cons.mp member with rfl | later
    · obtain ⟨snapshot, present, about⟩ := found
      exact ⟨snapshot, further.snapshots present, about⟩
    exact others other later

variable (key : EnvironmentKey)

theorem wp_replaceEnvironmentPolicy
  (request : ReplaceEnvironmentPolicyRequest) (idle : known.applied = none) :
  (service.replaceEnvironmentPolicy key request).wp (contract platform)
    (fun later _ => later.applied = none) Fails known := by
  unfold replaceEnvironmentPolicy
  rw [wp_do]
  refine wp_mono (wp_environment key idle) ?_ fun _ _ => id
  rintro later current ⟨rfl, named⟩
  refine wp_after_plain (plain_ensure _) idle (fun _ => idle) fun _ => ?_
  refine wp_after_plain (plain_ask rfl) idle (fun _ => idle) fun catalog => ?_
  refine wp_after_plain (plain_ensure _) idle (fun _ => idle) fun profile => ?_
  refine wp_after_plain (plain_knowledge _) idle (fun _ => idle) fun _ => ?_
  refine wp_after_plain (plain_ensure _) idle (fun _ => idle) fun _ => ?_
  rw [wp_do]
  refine wp_mono (wp_validateRoutes key request.policy current.routes idle) ?_
    (fun _ _ => id)
  rintro later _ ⟨extended, validated⟩
  rw [wp_do_perform]
  refine ⟨⟨.inl extended.idle, current, extended.environment, rfl, rfl, ?_, extended.idle⟩, ?_, ?_⟩
  · rw [named]
    exact validated
  · rintro changed later ⟨rfl, _⟩
    have released : (later.after (.compareAndSetEnvironment none current.revision
        { current with
          revision := current.revision + 1, policyRevision := current.policyRevision + 1
          resourcePolicy := request.policy }) (.ok changed)).applied = none := by
      simp [Known.after]
    refine wp_after_plain (plain_ensure _) released (fun _ => released) fun _ => ?_
    exact wp_after_plain (plain_auditIf _ _) released (fun _ => released) fun _ => released
  rintro error later ⟨rfl, _⟩
  exact extended.idle

variable (task : DeploymentTask)

theorem wp_view (ownerUserId : String) (idle : known.applied = none) :
  (view task ownerUserId).wp (contract platform)
    (fun later _ => later.applied = none) Fails known := by
  unfold view
  rw [wp_do_perform]
  refine ⟨⟨.inl idle, trivial⟩, ?_, ?_⟩
  · rintro deployment later ⟨rfl, _⟩
    split
    · exact idle
    rw [wp_do]
    refine wp_mono (wp_snapshotForUser _ _ _ idle) ?_ fun _ _ => id
    rintro later snapshot ⟨rfl, _⟩
    rw [wp_do]
    refine wp_mono (wp_environment _ idle) ?_ fun _ _ => id
    rintro later environment ⟨rfl, _⟩
    exact idle
  rintro error later ⟨rfl, _⟩
  exact idle

theorem wp_samePromote (existing : Deployment) (request : PromoteRequest)
  (idle : known.applied = none) : (samePromote existing request).wp (contract platform)
    (fun later _ => later.applied = none) Fails known := by
  unfold samePromote
  rw [wp_do]
  refine wp_mono (wp_snapshotForUser _ _ _ idle) ?_ fun _ _ => id
  rintro later target ⟨rfl, _⟩
  exact wp_after_plain (plain_ensure _) idle (fun _ => idle) fun _ => wp_view _ _ idle

theorem wp_storedMeanwhile (deployment : Deployment) (request : PromoteRequest)
  (error : DeploymentError) (idle : known.applied = none) :
  (service.storedMeanwhile deployment request error).wp (contract platform)
    (fun later _ => later.applied = none) Fails known := by
  refine wp_after_plain (plain_ask rfl) idle (fun _ => idle) fun found => ?_
  cases found with
  | none => exact wp_after_plain (plain_quotaIf _ _) idle (fun _ => idle) fun _ => idle
  | some concurrent =>
    refine wp_after_plain (plain_quotaIf _ _) idle (fun _ => idle) fun _ => ?_
    rw [wp_do]
    exact wp_mono (wp_samePromote concurrent request idle) (fun _ _ => id)
      (fun _ _ => id)

theorem wp_storePromotion {deployment : Deployment} (request : PromoteRequest)
  (idle : known.applied = none)
  (launches : ∃ current snapshot, Launches platform known deployment current snapshot) :
  (service.storePromotion deployment request).wp (contract platform)
    (fun later _ => later.applied = none) Fails known := by
  unfold storePromotion
  rw [wp_bind, wp_catching, wp_bind, wp_perform]
  refine ⟨⟨.inl idle, launches⟩, ?_, ?_⟩
  · rintro _ later ⟨rfl, _⟩
    exact idle
  rintro error later ⟨rfl, _⟩
  cases error with
  | conflict message => exact wp_storedMeanwhile service deployment request _ idle
  | notFound | valueError | outage =>
    exact wp_after_plain (plain_quotaIf _ _) idle (fun _ => idle) fun _ => idle

variable {profile : ExecutionProfileMetadata} {environment : Environment}

theorem wp_launch (service : DeploymentService) {request : PromoteRequest} {version : AgentVersion}
  (gatePassed : Bool) (idle : known.applied = none) (read : known.environment = some environment)
  (agent : environment.key.agentName = request.agentName)
  (name : environment.key.name = request.environment) (published : platform.versions
    { tenantId := environment.key.tenantId, ownerUserId := environment.key.ownerUserId
      agentName := request.agentName, agentVersion := request.agentVersion } = some version)
  (satisfies : Satisfies version.snapshot environment.resourcePolicy request.executionProfile
    profile.version) :
  (service.launch environment request profile gatePassed).wp (contract platform)
    (fun later _ => later.applied = none) Fails known := by
  refine wp_after_plain (plain_ask rfl) idle (fun _ => idle) fun snapshotId => ?_
  refine wp_after_plain (plain_quotaIf _ _) idle (fun _ => idle) fun _ => ?_
  rw [wp_do, wp_catching, wp_perform]
  refine ⟨⟨.inl idle, trivial⟩, ?_, ?_⟩
  · rintro _ later ⟨rfl, _⟩
    refine wp_after_plain (plain_ask rfl) idle (fun _ => idle) fun deploymentId => ?_
    rw [wp_do]
    refine wp_mono (wp_storePromotion service request idle ⟨environment,
      promotedSnapshot environment request profile gatePassed snapshotId, ?_⟩) ?_
      (fun _ _ => id)
    · exact
        { read, queued := rfl, unmoved := rfl
          aimed := by
            unfold Deployment.environmentKey promotion
            rw [← agent, ← name]
          unchanged := rfl, present := mem_cons_self, tenant := rfl, target := rfl, agent := rfl
          environment := rfl, owner := rfl, promoted := fun _ => ⟨version, published, satisfies⟩
          verified := nofun, whole := nofun }
    intro later stored settled
    cases stored with
    | false => exact settled
    | true =>
      refine wp_after_plain (plain_ask rfl) settled (fun _ => settled) fun _ => ?_
      refine wp_after_plain (plain_auditIf _ _) settled (fun _ => settled) fun _ => ?_
      exact wp_mono (plain_quotaIf service _ later settled)
        (fun _ _ same => same ▸ settled) fun _ _ same => same ▸ settled
  rintro error later ⟨rfl, _⟩
  exact wp_after_plain (plain_quotaIf _ _) idle (fun _ => idle) fun _ => idle

theorem executionProfile_named {catalog : CapabilityCatalogRecord} {profileId : String}
  (found : executionProfile catalog profileId = .ok profile) : profile.profileId = profileId := by
  unfold executionProfile at found
  split at found
  · cases found
  rename_i candidate named
  split at found
  · cases found
    have passed := find?_some named
    exact of_decide_eq_true passed
  cases found

theorem wp_promoteAnew (tenantId userId : String) (request : PromoteRequest)
  (idle : known.applied = none) :
  (service.promoteAnew tenantId userId request).wp (contract platform)
    (fun later _ => later.applied = none) Fails known := by
  unfold promoteAnew
  rw [wp_do]
  refine wp_mono (wp_environment _ idle) ?_ fun _ _ => id
  rintro later environment ⟨rfl, named⟩
  refine wp_after_plain (plain_ensure _) idle (fun _ => idle) fun _ => ?_
  rw [wp_do_perform]
  refine ⟨⟨.inl idle, trivial⟩, ?_, ?_⟩
  · rintro version later ⟨rfl, published⟩
    refine wp_after_plain (plain_ensure _) idle (fun _ => idle) fun _ => ?_
    refine wp_after_plain (plain_ask rfl) idle (fun _ => idle) fun gatePassed => ?_
    refine wp_after_plain (plain_checkQuality _ _) idle (fun _ => idle) fun _ => ?_
    refine wp_after_plain (plain_checkPreview _ _ _) idle (fun _ => idle) fun _ => ?_
    refine wp_after_plain (plain_ask rfl) idle (fun _ => idle) fun catalog => ?_
    refine wp_after_plain (plain_ensure _) idle (fun _ => idle) fun policyProfile => ?_
    refine wp_after_plain (plain_knowledge _) idle (fun _ => idle) fun _ => ?_
    rw [wp_do]
    refine wp_ensure (fun _ => idle) fun profile found => ?_
    refine wp_after_plain (plain_ensure _) idle (fun _ => idle) fun _ => ?_
    rw [wp_do]
    refine wp_ensure (fun _ => idle) fun _ accepted => ?_
    have satisfies := validateAgentPolicy_ok.mp accepted
    rw [executionProfile_named found] at satisfies
    refine wp_launch service gatePassed idle rfl (congrArg EnvironmentKey.agentName named)
      (congrArg EnvironmentKey.name named) ?_ satisfies
    rw [named]
    exact published
  rintro error later ⟨rfl, _⟩
  exact idle

theorem wp_promote (tenantId userId : String) (request : PromoteRequest)
  (idle : known.applied = none) : (service.promote tenantId userId request).wp (contract platform)
    (fun later _ => later.applied = none) Fails known := by
  refine wp_after_plain (plain_ask rfl) idle (fun _ => idle) fun found => ?_
  cases found with
  | none => exact wp_promoteAnew service tenantId userId request idle
  | some existing => exact wp_samePromote existing request idle

theorem wp_sameRollback (existing : Deployment) (request : RollbackRequest)
  (idle : known.applied = none) : (sameRollback key existing request).wp (contract platform)
    (fun later _ => later.applied = none) Fails known := by
  unfold sameRollback
  rw [wp_do]
  refine wp_mono (wp_snapshotForUser _ _ _ idle) ?_ fun _ _ => id
  rintro later target ⟨rfl, _⟩
  exact wp_after_plain (plain_ensure _) idle (fun _ => idle) fun _ => wp_view _ _ idle

theorem wp_rollbackAnew (request : RollbackRequest)
  (idle : known.applied = none) : (service.rollbackAnew key request).wp (contract platform)
    (fun later _ => later.applied = none) Fails known := by
  unfold rollbackAnew
  rw [wp_do]
  refine wp_mono (wp_environment key idle) ?_ fun _ _ => id
  rintro later environment ⟨rfl, named⟩
  refine wp_after_plain (plain_ensure _) idle (fun _ => idle) fun _ => ?_
  rw [wp_do]
  refine wp_mono (wp_snapshotForUser _ _ _ idle) ?_ fun _ _ => id
  rintro later snapshot ⟨rfl, tenant, _, owner⟩
  rw [wp_do]
  refine wp_ensure (fun _ => idle) fun _ accepted => ?_
  have fits := refuseIf_ok.mp accepted
  simp only [not_or, not_not] at fits
  refine wp_after_plain (plain_ask rfl) idle (fun _ => idle) fun deploymentId => ?_
  rw [wp_do_perform]
  refine ⟨⟨.inl idle, environment, snapshot, ?_⟩, ?_, ?_⟩
  · exact
      { read := rfl, queued := rfl, unmoved := rfl, aimed := named, unchanged := rfl
        present := mem_cons_self, tenant, target := rfl, agent := fits.1, environment := fits.2.1
        owner, promoted := nofun, verified := fun _ => fits.2.2
        whole := fun _ => rfl }
  · rintro _ later ⟨rfl, _⟩
    refine wp_after_plain (plain_ask rfl) idle (fun _ => idle) fun _ => ?_
    exact wp_mono (plain_auditIf service _ _ idle) (fun _ _ same => same ▸ idle)
      (fun _ _ same => same ▸ idle)
  rintro error later ⟨rfl, _⟩
  exact idle

theorem wp_rollback (request : RollbackRequest)
  (idle : known.applied = none) : (service.rollback key request).wp (contract platform)
    (fun later _ => later.applied = none) Fails known := by
  refine wp_after_plain (plain_ask rfl) idle (fun _ => idle) fun found => ?_
  cases found with
  | none => exact wp_rollbackAnew service key request idle
  | some existing => exact wp_sameRollback key existing request idle

abbrev Interrupted (current : Deployment) : Known → DeploymentError → Prop :=
  fun later _ => later.applied = none ∧ later.current = some current

variable {current : Deployment}

theorem wp_move {status : DeploymentStatus} (errorCode : Option String)
  (read : known.current = some current)
  (forward : current.status = .queued ∧ status = .reconciling ∧ known.applied = none ∨
    current.status = .reconciling ∧ status = .failed ∧ known.applied = none ∨
    current.status = .reconciling ∧ status = .succeeded ∧ known.applied = some current) :
  (move current status errorCode).wp (contract platform)
    (fun later _ => later.applied = none) (Interrupted current) known := by
  have unoccupied : Unoccupied known (.compareAndSetDeployment current.status
      { current with status, fencingToken := current.fencingToken + 1, errorCode }) := by
    rcases forward with ⟨_, _, idle⟩ | ⟨_, _, idle⟩ | ⟨_, succeeded, _⟩
    · exact .inl idle
    · exact .inl idle
    exact .inr ⟨_, _, rfl, succeeded⟩
  unfold move
  rw [wp_do_perform]
  refine ⟨⟨unoccupied, current, read, rfl, rfl, forward⟩, ?_, ?_⟩
  · rintro changed later ⟨rfl, _⟩
    split
    · exact rfl
    rw [wp_perform]
    refine ⟨⟨.inl rfl, trivial⟩, ?_, ?_⟩
    · rintro deployment later ⟨rfl, _⟩
      exact rfl
    rintro error later ⟨rfl, _⟩
    exact ⟨rfl, read⟩
  rintro error later ⟨rfl, _⟩
  exact ⟨rfl, read⟩

theorem wp_fail (errorCode : String) (read : known.current = some current)
  (reconciling : current.status = .reconciling) (idle : known.applied = none) :
  (move current .failed (some errorCode)).wp (contract platform)
    (fun later _ => later.applied = none) (Interrupted current) known :=
  wp_move _ read (.inr (.inl ⟨reconciling, rfl, idle⟩))

variable {snapshot : DeploymentSnapshot}

theorem wp_apply {target : List DeploymentRoute × Option String} (idle : known.applied = none)
  (read : known.current = some current) (reconciling : current.status = .reconciling)
  (seen : known.environment = some environment) (aimed : environment.key = current.environmentKey)
  (unchanged : environment.revision = current.expectedEnvironmentRevision)
  (present : snapshot ∈ known.snapshots) (tenant : snapshot.tenantId = current.tenantId)
  (named : snapshot.snapshotId = current.targetSnapshotId)
  (routed : routesFor current snapshot environment.healthySnapshotId = some target) :
  (apply current environment target).wp (contract platform)
    (fun later _ => later.applied = none) (Interrupted current) known := by
  unfold apply
  rw [wp_do_perform]
  refine ⟨⟨.inl idle, environment, current, ?_⟩, ?_, ?_⟩
  · exact
      { read := seen, deploying := read, reconciling, caused := rfl, aimed, expected := rfl
        unchanged, written := ⟨snapshot, present, target, tenant, named, routed, rfl⟩, idle }
  · rintro changed later ⟨rfl, _⟩
    cases changed with
    | true =>
      refine wp_move none read (.inr (.inr ⟨reconciling, rfl, ?_⟩))
      exact read
    | false => exact wp_fail _ read reconciling rfl
  rintro error later ⟨rfl, _⟩
  exact ⟨idle, read⟩

theorem wp_attempt (idle : known.applied = none)
  (read : known.current = some current) (reconciling : current.status = .reconciling)
  (present : snapshot ∈ known.snapshots) (tenant : snapshot.tenantId = current.tenantId)
  (named : snapshot.snapshotId = current.targetSnapshotId) :
  (attempt current snapshot).wp (contract platform)
    (fun later _ => later.applied = none) (Interrupted current) known := by
  unfold attempt
  rw [wp_do_perform]
  refine ⟨⟨.inl idle, trivial⟩, ?_, ?_⟩
  · rintro environment later ⟨rfl, aimed⟩
    split
    · exact wp_fail _ read reconciling idle
    rename_i unchanged
    refine wp_after_plain (plain_ask rfl) idle (fun _ => ⟨idle, read⟩) fun _ => ?_
    split
    · exact wp_fail _ read reconciling idle
    rename_i target routed
    exact wp_apply idle read reconciling rfl aimed (not_not.mp unchanged) present tenant named
      routed
  rintro error later ⟨rfl, _⟩
  exact ⟨idle, read⟩

theorem wp_reconcile (idle : known.applied = none) : (reconcile task).wp (contract platform)
  (fun later _ => later.applied = none) Fails known := by
  unfold reconcile
  rw [wp_do_perform]
  refine ⟨⟨.inl idle, trivial⟩, ?_, ?_⟩
  · rintro current later ⟨rfl, about⟩
    split
    · exact idle
    rename_i active
    split
    · rename_i queued
      exact wp_mono (wp_move none rfl (.inl ⟨queued, rfl, idle⟩)) (fun _ _ => id)
        (fun _ _ failed => failed.1)
    rename_i started
    have reconciling : current.status = .reconciling := by
      cases status : current.status with
      | queued => exact absurd status started
      | reconciling => rfl
      | succeeded | failed => exact absurd (by rw [status]; decide) active
    rw [wp_do_perform]
    refine ⟨⟨.inl idle, trivial⟩, ?_, ?_⟩
    · rintro snapshot later ⟨rfl, tenant, named⟩
      rw [wp_catching]
      refine wp_mono (wp_attempt idle rfl reconciling mem_cons_self
        (tenant.trans (congrArg DeploymentTask.tenantId about).symm) named)
        (fun _ _ => id) ?_
      rintro later error ⟨idle, read⟩
      exact wp_mono (wp_fail _ read reconciling idle) (fun _ _ => id)
        (fun _ _ failed => failed.1)
    rintro error later ⟨rfl, _⟩
    exact idle
  rintro error later ⟨rfl, _⟩
  exact idle

theorem plain_settle (result : Deployment) : Plain platform (settle task result) := by
  unfold settle
  split
  · exact plain_ask rfl
  exact plain_ask rfl

theorem wp_processOnce (idle : known.applied = none) :
  DeploymentController.processOnce.wp (contract platform)
    (fun later _ => later.applied = none) Fails known := by
  refine wp_after_plain (plain_ask rfl) idle (fun _ => idle) fun delivery => ?_
  cases delivery with
  | none => exact idle
  | some task =>
    rw [wp_do, wp_catching]
    refine wp_mono (wp_reconcile task idle) ?_ ?_
    · intro later result idle
      exact wp_mono (plain_settle task result later idle) (fun _ _ same => same ▸ idle)
        (fun _ _ same => same ▸ idle)
    intro later error idle
    exact wp_after_plain (plain_ask rfl) idle (fun _ => idle) fun _ => idle

theorem wp_serve (request : DeploymentRequest) (idle : known.applied = none) :
  (service.serve request).wp (contract platform) (fun later _ => later.applied = none) Fails
    known := by
  cases request with
  | replacePolicy key request =>
    rw [serve, wp_bind]
    exact wp_replaceEnvironmentPolicy service key request idle
  | promote tenantId userId request => exact wp_promote service tenantId userId request idle
  | rollback key request => exact wp_rollback service key request idle
  | processOnce => exact wp_processOnce idle

theorem wp_actor (platform : DeploymentPlatform) (service : DeploymentService)
  (requests : List DeploymentRequest) :
  (service.actor requests).wp (contract platform) (fun later _ => later.applied = none)
    Fails {} := by
  refine wp_each rfl fun request _ now idle => ?_
  rw [wp_catching]
  exact wp_mono (wp_serve service request idle) (fun _ _ => id) fun _ _ => id

end

end AgentHarness.Deployments
