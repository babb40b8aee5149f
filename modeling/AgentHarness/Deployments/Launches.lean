import AgentHarness.Deployments.Launching
import AgentHarness.Deployments.Routing

/-!
Every deployment that a call returns is on its way, and every stored promotion is paid for once,
as long as no call is interrupted between its reservation and its last write, and none meets a
deployment that is stored and not enqueued or a reservation that was given back.
-/

namespace AgentHarness.Deployments.Launching

open Collections Interaction Dict Function List DeploymentPlatform Option
open Quota (ReservationState)

def isOpen (state : ReservationState) : Bool := state = .active || state = .committed

def Open (pad : Launchpad) (key : QuotaKey) : Prop :=
  ∃ state, pad.quotas.get? key = some state ∧ isOpen state = true

structure Fits (service : DeploymentService) (pad : Launchpad) : Prop where
  single : ∀ task deployment task' deployment', pad.store.deployments.get? task = some deployment →
      pad.store.deployments.get? task' = some deployment' →
        deployment.quotaKey = deployment'.quotaKey → task = task'
  launched : ∀ task ∈ pad.launched, (pad.store.deployments.get? task).isSome = true
  moving : ∀ task deployment, task ∈ pad.launched →
    pad.store.deployments.get? task = some deployment → deployment.status.isTerminal = false →
      task ∈ pad.pending ∨ task ∈ pad.held
  covered : service.quotas = true → ∀ task deployment,
    pad.store.deployments.get? task = some deployment → deployment.action = .promote →
      Open pad deployment.quotaKey
  active : ∀ key, pad.quotas.get? key = some .active → ∃ actor, (actor, key) ∈ pad.unsettled
  committed : ∀ key, pad.quotas.get? key = some .committed →
    ∃ task deployment, pad.store.deployments.get? task = some deployment ∧ deployment.quotaKey = key
  unsettled : ∀ actor key, (actor, key) ∈ pad.unsettled → Open pad key
  charged : ∀ key, pad.charged.count key = if pad.quotas.get? key = some .committed then 1 else 0

structure Recalls (pad : Launchpad) (actor : Nat) (slip : Slip) : Prop where
  owed : ∀ key, (actor, key) ∈ pad.unsettled ↔ slip.owed = some key
  read : ∀ deployment ∈ slip.read, ∃ stored,
    pad.store.deployments.get? deployment.task = some stored ∧ stored.plan = deployment.plan
  ended : ∀ task ∈ slip.ended, ∃ stored,
    pad.store.deployments.get? task = some stored ∧ stored.status.isTerminal = true
  launched : ∀ task ∈ slip.launched, task ∈ pad.launched

structure Orderly (service : DeploymentService) (pad : Launchpad) (slips : Nat → Slip) : Prop where
  keyed : Keyed pad.store
  fits : Fits service pad
  recalls : ∀ actor, Recalls pad actor (slips actor)

def TakesEffect (input : DeploymentInput) : Prop :=
  match input.fault with
  | .before _ => False
  | _ => True

def Answered (input : DeploymentInput) : Prop :=
  match input.fault with
  | .none => True
  | _ => False

def Undisturbed (pad : Launchpad) (actor : Nat) (input : DeploymentInput) : Prop :=
  (∀ entry ∈ pad.unsettled, entry.1 ≠ actor) ∨ Answered input

/-- A reservation is answered with one that was not given back; it is given back only while it is
nobody else's and nothing is stored under its key. A call that owes a quota is not interrupted,
and a call that finds a deployment finds its task enqueued. -/
def Careful (pad : Launchpad) (actor : Nat) (op : DeploymentOp) (input : DeploymentInput) : Prop :=
  match op with
  | .quota (.reserve key) =>
    (TakesEffect input → Answered input) ∧ ∀ state ∈ pad.quotas.get? key, isOpen state = true
  | .quota (.release key) =>
    TakesEffect input ∧ (∀ deployment ∈ pad.store.deployments.values, deployment.quotaKey ≠ key) ∧
        ∀ entry ∈ pad.unsettled, entry.2 = key → entry.1 = actor
  | .quota (.commit _) => TakesEffect input
  | .enqueue _ | .audit _ => Undisturbed pad actor input
  | .findByIdempotency tenantId ownerUserId key =>
    Undisturbed pad actor input ∧ ∀ deployment ∈ pad.store.requestedUnder tenantId ownerUserId key,
        deployment.task ∈ pad.launched
  | _ => True

section

variable {service : DeploymentService} {platform : DeploymentPlatform} {pad later : Launchpad}
  {actor : Nat} {slip : Slip}

theorem kept_of_plan {first second : Deployment} (planned : first.plan = second.plan) :
  first.task = second.task ∧ first.quotaKey = second.quotaKey ∧ first.action = second.action := by
  have task : first.plan.task = second.plan.task := by rw [planned]
  have key : first.plan.quotaKey = second.plan.quotaKey := by rw [planned]
  have action : first.plan.action = second.plan.action := by rw [planned]
  exact ⟨task, key, action⟩

variable {deployment updated : Deployment} {task : DeploymentTask} {expected : DeploymentStatus}
  {key other : QuotaKey} {next : ReservationState} {input : DeploymentInput} {op : DeploymentOp}

theorem quotaKey_of_requestedUnder {tenantId ownerUserId key : String}
  (found : pad.store.requestedUnder tenantId ownerUserId key = some deployment) :
  deployment.quotaKey = ⟨tenantId, ownerUserId, key⟩ ∧
    ∃ task, pad.store.deployments.get? task = some deployment := by
  have fitting := find?_some (show List.find? _ _ = some deployment from found)
  obtain ⟨tenant, owner, named⟩ := of_decide_eq_true fitting
  have member : deployment ∈ pad.store.deployments.values := mem_of_find?_eq_some found
  subst tenant owner named
  exact ⟨rfl, mem_values.mp member⟩

theorem unrequested {other : Deployment}
  (missing : pad.store.requestedUnder deployment.tenantId deployment.requestedBy
    deployment.idempotencyKey = none) (stored : pad.store.deployments.get? task = some other) :
  other.quotaKey ≠ deployment.quotaKey := by
  intro same
  have member : other ∈ pad.store.deployments.values := mem_values.mpr ⟨task, stored⟩
  have differs := find?_eq_none.mp missing other member
  apply differs
  have tenant : other.tenantId = deployment.tenantId := congrArg QuotaKey.tenantId same
  have owner : other.requestedBy = deployment.requestedBy := congrArg QuotaKey.userId same
  have key : other.idempotencyKey = deployment.idempotencyKey :=
    congrArg QuotaKey.idempotencyKey same
  exact decide_eq_true ⟨tenant, owner, key⟩

/-- Deployments are only added, and change nothing but their status; one that has ended stays so. -/
structure Advances (pad later : Launchpad) : Prop where
  stored : ∀ task deployment, pad.store.deployments.get? task = some deployment →
    ∃ stored, later.store.deployments.get? task = some stored ∧ stored.plan = deployment.plan ∧
      (deployment.status.isTerminal = true → stored.status.isTerminal = true)
  launched : ∀ task ∈ pad.launched, task ∈ later.launched

theorem Advances.of_same (deployments : later.store.deployments = pad.store.deployments)
  (launched : ∀ task ∈ pad.launched, task ∈ later.launched) : Advances pad later where
  stored _ deployment found := ⟨deployment, deployments ▸ found, rfl, fun ended => ended⟩
  launched

theorem Recalls.advance (recalls : Recalls pad actor slip) (advances : Advances pad later)
  {owed : Option QuotaKey} (owes : ∀ key, (actor, key) ∈ later.unsettled ↔ owed = some key) :
  Recalls later actor { slip with owed } where
  owed := owes
  read deployment known := by
    obtain ⟨before, found, planned⟩ := recalls.read deployment known
    obtain ⟨stored, kept, same, _⟩ := advances.stored _ _ found
    exact ⟨stored, kept, same.trans planned⟩
  ended task known := by
    obtain ⟨before, found, terminal⟩ := recalls.ended task known
    obtain ⟨stored, kept, _, stays⟩ := advances.stored _ _ found
    exact ⟨stored, kept, stays terminal⟩
  launched task known := advances.launched task (recalls.launched task known)

structure SameQuotas (pad later : Launchpad) : Prop where
  quotas : later.quotas = pad.quotas
  charged : later.charged = pad.charged
  unsettled : later.unsettled = pad.unsettled

theorem SameQuotas.open_iff (same : SameQuotas pad later) (key : QuotaKey) :
  Open later key ↔ Open pad key := by
  rw [Open, Open, same.quotas]

theorem Fits.requeue (fits : Fits service pad) (same : SameQuotas pad later)
  (deployments : later.store.deployments = pad.store.deployments)
  (launched : ∀ task ∈ later.launched, task ∈ pad.launched ∨
    task ∈ later.pending ∧ (pad.store.deployments.get? task).isSome = true)
  (queued : ∀ task deployment, pad.store.deployments.get? task = some deployment →
    deployment.status.isTerminal = false → task ∈ pad.pending ∨ task ∈ pad.held →
    task ∈ later.pending ∨ task ∈ later.held) :
  Fits service later where
  single := by rw [deployments]; exact fits.single
  launched task held := by
    rw [deployments]
    rcases launched task held with before | ⟨_, stored⟩
    · exact fits.launched task before
    exact stored
  moving task deployment held found going := by
    rw [deployments] at found
    rcases launched task held with before | ⟨pending, _⟩
    · exact queued task deployment found going (fits.moving task deployment before found going)
    exact .inl pending
  covered := by
    intro quotas task deployment found promoted
    rw [same.open_iff]
    exact fits.covered quotas task deployment (deployments ▸ found) promoted
  active := by rw [same.quotas, same.unsettled]; exact fits.active
  committed := by rw [same.quotas, deployments]; exact fits.committed
  unsettled owner key held := by
    rw [same.open_iff]
    exact fits.unsettled owner key (same.unsettled ▸ held)
  charged := by rw [same.quotas, same.charged]; exact fits.charged

theorem Fits.same (fits : Fits service pad) (same : SameQuotas pad later)
  (deployments : later.store.deployments = pad.store.deployments)
  (launched : later.launched = pad.launched) (pending : later.pending = pad.pending)
  (held : later.held = pad.held) : Fits service later := by
  apply fits.requeue same deployments
  · intro task known
    exact .inl (launched ▸ known)
  intro task deployment _ _ queued
  rw [pending, held]
  exact queued

theorem Fits.rewrite (fits : Fits service pad) (same : SameQuotas pad later)
  (launched : later.launched = pad.launched) (pending : later.pending = pad.pending)
  (held : later.held = pad.held) (advances : Advances pad later)
  (traced : ∀ task deployment, later.store.deployments.get? task = some deployment →
    ∃ before, pad.store.deployments.get? task = some before ∧ before.plan = deployment.plan ∧
    (deployment.status.isTerminal = false → before.status.isTerminal = false)) :
  Fits service later where
  single task deployment task' deployment' found found' shared := by
    obtain ⟨before, stored, planned, _⟩ := traced task deployment found
    obtain ⟨before', stored', planned', _⟩ := traced task' deployment' found'
    apply fits.single task before task' before' stored stored'
    rw [(kept_of_plan planned).2.1, (kept_of_plan planned').2.1, shared]
  launched task known := by
    rw [launched] at known
    obtain ⟨deployment, found⟩ := isSome_iff_exists.mp (fits.launched task known)
    obtain ⟨stored, kept, _⟩ := advances.stored task deployment found
    rw [kept]
    rfl
  moving task deployment known found going := by
    obtain ⟨before, stored, _, went⟩ := traced task deployment found
    rw [launched] at known
    rw [pending, held]
    exact fits.moving task before known stored (went going)
  covered := by
    intro quotas task deployment found promoted
    obtain ⟨before, stored, planned, _⟩ := traced task deployment found
    obtain ⟨_, key, action⟩ := kept_of_plan planned
    rw [same.open_iff, ← key]
    exact fits.covered quotas task before stored (action.trans promoted)
  active := by rw [same.quotas, same.unsettled]; exact fits.active
  committed key charged := by
    rw [same.quotas] at charged
    obtain ⟨task, deployment, found, named⟩ := fits.committed key charged
    obtain ⟨stored, kept, planned, _⟩ := advances.stored task deployment found
    exact ⟨task, stored, kept, (kept_of_plan planned).2.1.trans named⟩
  unsettled owner key known := by
    rw [same.open_iff]
    exact fits.unsettled owner key (same.unsettled ▸ known)
  charged := by rw [same.quotas, same.charged]; exact fits.charged

def withDeployment (pad : Launchpad) (deployment : Deployment) : Launchpad :=
  { pad with
    store := { pad.store with
      deployments := pad.store.deployments.set deployment.task deployment } }

theorem advances_move (recalls : Recalls pad actor slip) (writes : Writes slip expected updated)
  (accepted : pad.store.acceptsDeployment expected updated) :
  Advances pad (withDeployment pad updated) ∧
    ∃ before, pad.store.deployments.get? updated.task = some before ∧
    before.plan = updated.plan ∧ before.status.isTerminal = false := by
  obtain ⟨going, current, known, planned⟩ := writes
  obtain ⟨before, stored, status, _⟩ := accepted
  obtain ⟨remembered, found, same⟩ := recalls.read current known
  rw [← (kept_of_plan planned).1, stored] at found
  cases found
  rw [← status] at going
  have plan : before.plan = updated.plan := same.trans planned.symm
  refine ⟨⟨?_, fun _ => id⟩, before, stored, plan, going⟩
  intro task deployment found
  by_cases here : task = updated.task
  · subst task
    rw [stored] at found
    cases found
    refine ⟨updated, get?_set_self _ _ _, plan.symm, ?_⟩
    intro ended
    rw [going] at ended
    cases ended
  exact ⟨deployment, (get?_set_other _ _ here).trans found, rfl, id⟩

theorem fits_move (fits : Fits service pad) (recalls : Recalls pad actor slip)
  (writes : Writes slip expected updated)
  (accepted : pad.store.acceptsDeployment expected updated) :
  Fits service (withDeployment pad updated) := by
  obtain ⟨advances, before, stored, plan, going⟩ := advances_move recalls writes accepted
  refine fits.rewrite ⟨rfl, rfl, rfl⟩ rfl rfl rfl advances ?_
  intro task deployment found
  by_cases here : task = updated.task
  · subst task
    rw [withDeployment, get?_set_self] at found
    cases found
    exact ⟨before, stored, plan, fun _ => going⟩
  rw [withDeployment, get?_set_other _ _ here] at found
  exact ⟨deployment, found, rfl, id⟩

theorem advances_add (free : pad.store.deployments.get? deployment.task = none) :
  Advances pad (withDeployment pad deployment) where
  stored task other found := by
    have distinct : task ≠ deployment.task := by
      intro same
      rw [same, free] at found
      cases found
    exact ⟨other, (get?_set_other _ _ distinct).trans found, rfl, id⟩
  launched _ held := held

theorem fits_add (fits : Fits service pad) (recalls : Recalls pad actor slip)
  (free : pad.store.deployments.get? deployment.task = none)
  (missing : pad.store.requestedUnder deployment.tenantId deployment.requestedBy
    deployment.idempotencyKey = none)
  (owes : deployment.action = .promote → service.quotas = true →
    slip.owed = some deployment.quotaKey) : Fits service (withDeployment pad deployment) := by
  have stored : ∀ task other,
    (withDeployment pad deployment).store.deployments.get? task = some other →
      (task = deployment.task ∧ other = deployment) ∨
        (task ≠ deployment.task ∧ pad.store.deployments.get? task = some other) := by
    intro task other found
    by_cases here : task = deployment.task
    · rw [here, withDeployment, get?_set_self] at found
      exact .inl ⟨here, (some.inj found).symm⟩
    rw [withDeployment, get?_set_other _ _ here] at found
    exact .inr ⟨here, found⟩
  have advances := advances_add free
  constructor
  case single =>
    intro task other task' other' found found' shared
    rcases stored task other found with ⟨rfl, rfl⟩ | ⟨_, before⟩
    · rcases stored task' other' found' with ⟨rfl, _⟩ | ⟨_, before'⟩
      · rfl
      exact absurd shared.symm (unrequested missing before')
    rcases stored task' other' found' with ⟨rfl, rfl⟩ | ⟨_, before'⟩
    · exact absurd shared (unrequested missing before)
    exact fits.single task other task' other' before before' shared
  case launched =>
    intro task known
    obtain ⟨other, found⟩ := isSome_iff_exists.mp (fits.launched task known)
    obtain ⟨_, kept, _⟩ := advances.stored task other found
    rw [kept]
    rfl
  case moving =>
    intro task other known found going
    rcases stored task other found with ⟨rfl, _⟩ | ⟨_, before⟩
    · have there := fits.launched _ known
      rw [free] at there
      cases there
    exact fits.moving task other known before going
  case covered =>
    intro quotas task other found promoted
    rcases stored task other found with ⟨_, rfl⟩ | ⟨_, before⟩
    · exact fits.unsettled actor _ ((recalls.owed _).mpr (owes promoted quotas))
    exact fits.covered quotas task other before promoted
  case active => exact fits.active
  case committed =>
    intro key charged
    obtain ⟨task, other, found, named⟩ := fits.committed key charged
    obtain ⟨kept, there, planned, _⟩ := advances.stored task other found
    exact ⟨task, kept, there, (kept_of_plan planned).2.1.trans named⟩
  case unsettled => exact fits.unsettled
  case charged => exact fits.charged

theorem Fits.requote (fits : Fits service pad) (store : later.store = pad.store)
  (launched : later.launched = pad.launched) (pending : later.pending = pad.pending)
  (held : later.held = pad.held)
  (covered : ∀ task deployment, pad.store.deployments.get? task = some deployment →
    Open pad deployment.quotaKey → Open later deployment.quotaKey)
  (active : ∀ key, later.quotas.get? key = some .active → ∃ owner, (owner, key) ∈ later.unsettled)
  (committed : ∀ key, later.quotas.get? key = some .committed →
    ∃ task deployment, pad.store.deployments.get? task = some deployment ∧
      deployment.quotaKey = key)
  (unsettled : ∀ owner key, (owner, key) ∈ later.unsettled → Open later key)
  (charged : ∀ key, later.charged.count key =
    if later.quotas.get? key = some .committed then 1 else 0) : Fits service later where
  single := by rw [store]; exact fits.single
  launched := by rw [store, launched]; exact fits.launched
  moving := by rw [store, launched, pending, held]; exact fits.moving
  covered := by
    intro quotas task deployment found promoted
    rw [store] at found
    exact covered task deployment found (fits.covered quotas task deployment found promoted)
  active
  committed := by rw [store]; exact committed
  unsettled
  charged

variable {owner : Nat}

theorem mem_settled : (owner, other) ∈ pad.settled actor key ↔
  (owner, other) ∈ pad.unsettled ∧ (owner ≠ actor ∨ other ≠ key) := by
  rw [Launchpad.settled, mem_filter, decide_eq_true_eq, ne_eq, Prod.mk.injEq, not_and_or]

theorem before_set {quotas : Dict QuotaKey ReservationState} {state : ReservationState}
  (distinct : next ≠ state) (found : (quotas.set key next).get? other = some state) :
  other ≠ key ∧ quotas.get? other = some state := by
  by_cases same : other = key
  · rw [same, get?_set_self] at found
    exact absurd (some.inj found) distinct
  rw [get?_set_other _ _ same] at found
  exact ⟨same, found⟩

theorem open_other (quotas : later.quotas = pad.quotas.set key next)
  (distinct : other ≠ key) (opens : Open pad other) : Open later other := by
  obtain ⟨state, found, isOpen⟩ := opens
  refine ⟨state, ?_, isOpen⟩
  rw [quotas, get?_set_other _ _ distinct]
  exact found

theorem charged_uncommitted (fits : Fits service pad)
  (before : pad.quotas.get? key ≠ some .committed) (now : next ≠ .committed) (other : QuotaKey) :
  pad.charged.count other =
    if (pad.quotas.set key next).get? other = some .committed then 1 else 0 := by
  have count := fits.charged other
  by_cases same : other = key
  · rw [same, if_neg before] at count
    rw [same, get?_set_self, if_neg fun charged => now (some.inj charged)]
    exact count
  rw [get?_set_other _ _ same]
  exact count

theorem fits_reserve (fits : Fits service pad)
  (answered : ∀ state ∈ pad.quotas.get? key, isOpen state = true) :
  Fits service (pad.reserve actor key) := by
  unfold Launchpad.reserve
  split
  case h_1 state found =>
    refine fits.requote rfl rfl rfl rfl (fun _ _ _ => id) ?_ ?_ ?_ ?_
    · intro other active
      obtain ⟨owner, known⟩ := fits.active other active
      exact ⟨owner, mem_cons_of_mem _ known⟩
    · exact fits.committed
    · intro owner other known
      rcases mem_cons.mp known with same | before
      · cases same
        exact ⟨state, found, answered state found⟩
      exact fits.unsettled owner other before
    exact fits.charged
  case h_2 free =>
    have opens : ∀ other, Open pad other →
        Open { pad with
          quotas := pad.quotas.set key .active
          unsettled := (actor, key) :: pad.unsettled } other := by
      intro other opened
      apply open_other rfl _ opened
      obtain ⟨state, found, _⟩ := opened
      rintro rfl
      rw [free] at found
      cases found
    refine fits.requote rfl rfl rfl rfl (fun _ _ _ covered => opens _ covered) ?_ ?_ ?_ ?_
    · intro other active
      by_cases same : other = key
      · exact ⟨actor, by rw [same]; exact mem_cons_self⟩
      obtain ⟨owner, known⟩ := fits.active other ((get?_set_other _ _ same).symm.trans active)
      exact ⟨owner, mem_cons_of_mem _ known⟩
    · exact fun other committed => fits.committed other (before_set (by decide) committed).2
    · intro owner other known
      rcases mem_cons.mp known with same | before
      · cases same
        exact ⟨.active, get?_set_self _ _ _, rfl⟩
      exact opens other (fits.unsettled owner other before)
    exact charged_uncommitted fits (by rw [free]; decide) (by decide)

theorem fits_release (fits : Fits service pad)
  (unused : ∀ deployment ∈ pad.store.deployments.values, deployment.quotaKey ≠ key)
  (own : ∀ entry ∈ pad.unsettled, entry.2 = key → entry.1 = actor) :
  Fits service (pad.release actor key) := by
  have others : ∀ owner other, (owner, other) ∈ pad.settled actor key →
    (owner, other) ∈ pad.unsettled ∧ other ≠ key := by
    intro owner other known
    obtain ⟨before, distinct⟩ := mem_settled.mp known
    refine ⟨before, ?_⟩
    rcases distinct with foreign | differs
    · exact fun same => foreign (own _ before same)
    exact differs
  have remains : ∀ owner other, (owner, other) ∈ pad.unsettled → other ≠ key →
    (owner, other) ∈ pad.settled actor key :=
    fun _ _ known differs => mem_settled.mpr ⟨known, .inr differs⟩
  unfold Launchpad.release
  split
  case h_1 active =>
    have opens : ∀ other, other ≠ key → Open pad other →
        Open { pad with
          quotas := pad.quotas.set key .released, unsettled := pad.settled actor key } other :=
      fun _ distinct => open_other rfl distinct
    refine fits.requote rfl rfl rfl rfl ?_ ?_ ?_ ?_ ?_
    · intro task deployment found covered
      exact opens _ (unused deployment (mem_values.mpr ⟨task, found⟩)) covered
    · intro other left
      obtain ⟨distinct, active⟩ := before_set (by decide) left
      obtain ⟨owner, known⟩ := fits.active other active
      exact ⟨owner, remains owner other known distinct⟩
    · exact fun other committed => fits.committed other (before_set (by decide) committed).2
    · intro owner other known
      obtain ⟨before, distinct⟩ := others owner other known
      exact opens other distinct (fits.unsettled owner other before)
    exact charged_uncommitted fits (by rw [active]; decide) (by decide)
  case h_2 idle =>
    refine fits.requote rfl rfl rfl rfl (fun _ _ _ => id) ?_ ?_ ?_ ?_
    · intro other left
      obtain ⟨owner, known⟩ := fits.active other left
      refine ⟨owner, remains owner other known ?_⟩
      rintro rfl
      exact idle left
    · exact fits.committed
    · exact fun owner other known => fits.unsettled owner other (others owner other known).1
    exact fits.charged

variable {key : QuotaKey}

theorem commit_cases (open' : Open pad key) : (pad.quotas.get? key = some .active ∧
    pad.commit actor key = (.ok (), { pad with
      quotas := pad.quotas.set key .committed, charged := key :: pad.charged
      unsettled := pad.settled actor key })) ∨
  (pad.quotas.get? key = some .committed ∧
    pad.commit actor key = (.ok (), { pad with unsettled := pad.settled actor key })) := by
  obtain ⟨state, found, isOpen⟩ := open'
  unfold Launchpad.commit
  rw [found]
  cases state with
  | active => exact .inl ⟨rfl, rfl⟩
  | committed => exact .inr ⟨rfl, rfl⟩
  | released | expired => cases isOpen

theorem fits_commit (fits : Fits service pad) (open' : Open pad key)
  (stored : ∃ task deployment, pad.store.deployments.get? task = some deployment ∧
    deployment.quotaKey = key) : Fits service (pad.commit actor key).2 := by
  have remains : ∀ owner other, (owner, other) ∈ pad.unsettled → other ≠ key →
    (owner, other) ∈ pad.settled actor key :=
    fun _ _ known differs => mem_settled.mpr ⟨known, .inr differs⟩
  rcases @commit_cases pad actor key open' with ⟨active, commits⟩ | ⟨committed, commits⟩
  · rw [commits]
    have opens : ∀ other, Open pad other →
        Open { pad with
          quotas := pad.quotas.set key .committed, charged := key :: pad.charged
          unsettled := pad.settled actor key } other := by
      intro other opened
      by_cases same : other = key
      · exact ⟨.committed, by rw [same]; exact get?_set_self _ _ _, rfl⟩
      exact open_other rfl same opened
    refine fits.requote rfl rfl rfl rfl (fun _ _ _ covered => opens _ covered) ?_ ?_ ?_ ?_
    · intro other left
      obtain ⟨distinct, active⟩ := before_set (by decide) left
      obtain ⟨owner, known⟩ := fits.active other active
      exact ⟨owner, remains owner other known distinct⟩
    · intro other charged
      by_cases same : other = key
      · rw [same]
        exact stored
      exact fits.committed other ((get?_set_other _ _ same).symm.trans charged)
    · exact fun owner other known => opens other (fits.unsettled owner other (mem_settled.mp known).1)
    intro other
    have count := fits.charged other
    by_cases same : other = key
    · rw [same, active, if_neg (by decide)] at count
      rw [same, get?_set_self, if_pos rfl, count_cons_self, count]
    rw [get?_set_other _ _ same, count_cons_of_ne (Ne.symm same)]
    exact count
  rw [commits]
  refine fits.requote rfl rfl rfl rfl (fun _ _ _ => id) ?_ ?_ ?_ ?_
  · intro other left
    obtain ⟨owner, known⟩ := fits.active other left
    refine ⟨owner, remains owner other known ?_⟩
    rintro rfl
    rw [committed] at left
    cases left
  · exact fits.committed
  · exact fun owner other known => fits.unsettled owner other (mem_settled.mp known).1
  exact fits.charged

structure Keeps (service : DeploymentService) (pad : Launchpad) (actor : Nat) (later : Launchpad) :
    Prop where
  keyed : Keyed later.store
  fits : Fits service later
  advances : Advances pad later
  owed : ∀ owner key, owner ≠ actor →
    ((owner, key) ∈ later.unsettled ↔ (owner, key) ∈ pad.unsettled)

theorem Keeps.of_queue (keyed : Keyed pad.store) (fits : Fits service later)
  (store : later.store = pad.store) (launched : ∀ task ∈ pad.launched, task ∈ later.launched)
  (unsettled : later.unsettled = pad.unsettled) : Keeps service pad actor later where
  keyed := by rw [store]; exact keyed
  fits
  advances := Advances.of_same (by rw [store]) launched
  owed _ _ _ := by rw [unsettled]

theorem Keeps.of_store {store : DeploymentStore} (fits : Fits service pad)
  (keyed : Keyed store) (deployments : store.deployments = pad.store.deployments) :
  Keeps service pad actor { pad with store } where
  keyed
  fits := fits.same ⟨rfl, rfl, rfl⟩ deployments rfl rfl rfl
  advances := Advances.of_same deployments (fun _ held => held)
  owed _ _ _ := Iff.rfl

theorem Keeps.unchanged (keyed : Keyed pad.store) (fits : Fits service pad) :
  Keeps service pad actor pad :=
  Keeps.of_store fits keyed rfl

theorem keeps_reserve (keyed : Keyed pad.store) (fits : Fits service pad)
  (answered : ∀ state ∈ pad.quotas.get? key, isOpen state = true) :
  Keeps service pad actor (pad.reserve actor key) where
  keyed := by unfold Launchpad.reserve; split <;> exact keyed
  fits := fits_reserve fits answered
  advances := by
    unfold Launchpad.reserve
    split <;> exact Advances.of_same rfl (fun _ => id)
  owed owner other foreign := by
    have distinct : (owner, other) ≠ (actor, key) := fun same => foreign (congrArg Prod.fst same)
    unfold Launchpad.reserve
    split
    · exact mem_cons.trans (or_iff_right distinct)
    exact mem_cons.trans (or_iff_right distinct)

theorem settled_foreign (foreign : owner ≠ actor) :
  (owner, other) ∈ pad.settled actor key ↔ (owner, other) ∈ pad.unsettled :=
  mem_settled.trans (and_iff_left (.inl foreign))

section

variable (keyed : Keyed pad.store)

include keyed

theorem keeps_release (fits : Fits service pad)
  (unused : ∀ deployment ∈ pad.store.deployments.values, deployment.quotaKey ≠ key)
  (own : ∀ entry ∈ pad.unsettled, entry.2 = key → entry.1 = actor) :
  Keeps service pad actor (pad.release actor key) where
  keyed := by unfold Launchpad.release; split <;> exact keyed
  fits := fits_release fits unused own
  advances := by
    unfold Launchpad.release
    split <;> exact Advances.of_same rfl (fun _ => id)
  owed owner other foreign := by
    unfold Launchpad.release
    split
    · exact settled_foreign foreign
    exact settled_foreign foreign

theorem keeps_commit (fits : Fits service pad) (covered : Open pad key)
  (stored : ∃ task deployment, pad.store.deployments.get? task = some deployment ∧
    deployment.quotaKey = key) : Keeps service pad actor (pad.commit actor key).2 := by
  have kept := @fits_commit service pad actor key fits covered stored
  rcases @commit_cases pad actor key covered with ⟨_, commits⟩ | ⟨_, commits⟩
  · rw [commits] at kept ⊢
    exact ⟨keyed, kept, Advances.of_same rfl fun _ => id,
      fun _ _ foreign => settled_foreign foreign⟩
  rw [commits] at kept ⊢
  exact ⟨keyed, kept, Advances.of_same rfl fun _ => id,
    fun _ _ foreign => settled_foreign foreign⟩

theorem keeps_enqueue (fits : Fits service pad) (recalls : Recalls pad actor slip)
  (known : deployment ∈ slip.read) :
  Keeps service pad actor { pad with
    pending := deployment.task :: pad.pending, launched := deployment.task :: pad.launched } := by
  have requeued : Fits service { pad with
      pending := deployment.task :: pad.pending, launched := deployment.task :: pad.launched } := by
    refine fits.requeue ⟨rfl, rfl, rfl⟩ rfl ?_ ?_
    · intro task held
      rcases mem_cons.mp held with rfl | before
      · obtain ⟨stored, found, _⟩ := recalls.read deployment known
        exact .inr ⟨mem_cons_self, isSome_of_mem found⟩
      exact .inl before
    intro task other _ _ queued
    exact queued.imp_left (mem_cons_of_mem _)
  exact Keeps.of_queue keyed requeued rfl (fun _ held => mem_cons_of_mem _ held) rfl

theorem keeps_dequeue (fits : Fits service pad) (offered : Option DeploymentTask) :
  Keeps service pad actor (pad.dequeue offered).2 := by
  unfold Launchpad.dequeue
  cases offered with
  | none => exact Keeps.unchanged keyed fits
  | some task =>
    dsimp only
    split
    case isFalse => exact Keeps.unchanged keyed fits
    case isTrue =>
      refine Keeps.of_queue keyed ?_ rfl (fun _ => id) rfl
      refine fits.requeue ⟨rfl, rfl, rfl⟩ rfl (fun _ known => .inl known) ?_
      intro other _ _ _ queued
      by_cases same : other = task
      · exact .inr (by rw [same]; exact mem_cons_self)
      rcases queued with pending | held
      · exact .inl (mem_filter.mpr ⟨pending, decide_eq_true same⟩)
      exact .inr (mem_cons_of_mem _ held)

theorem keeps_acknowledge (fits : Fits service pad) (recalls : Recalls pad actor slip)
  (known : task ∈ slip.ended) :
  Keeps service pad actor { pad with held := pad.held.filter (· ≠ task) } := by
  refine Keeps.of_queue keyed ?_ rfl (fun _ => id) rfl
  refine fits.requeue ⟨rfl, rfl, rfl⟩ rfl (fun _ launched => .inl launched) ?_
  intro other deployment found going queued
  have distinct : other ≠ task := by
    rintro rfl
    obtain ⟨stored, there, terminal⟩ := recalls.ended other known
    rw [found] at there
    cases there
    rw [going] at terminal
    cases terminal
  exact queued.imp_right fun held => mem_filter.mpr ⟨held, decide_eq_true distinct⟩

theorem keeps_retry (fits : Fits service pad) (task : DeploymentTask) :
  Keeps service pad actor { pad with
    pending := task :: pad.pending, held := pad.held.filter (· ≠ task) } := by
  refine Keeps.of_queue keyed ?_ rfl (fun _ => id) rfl
  refine fits.requeue ⟨rfl, rfl, rfl⟩ rfl (fun _ launched => .inl launched) ?_
  intro other _ _ _ queued
  by_cases same : other = task
  · exact .inl (by rw [same]; exact mem_cons_self)
  rcases queued with pending | held
  · exact .inl (mem_cons_of_mem _ pending)
  exact .inr (mem_filter.mpr ⟨held, decide_eq_true same⟩)

end

theorem keeps_addDeployment (input : DeploymentInput) (keyed : Keyed pad.store)
  (fits : Fits service pad) (recalls : Recalls pad actor slip)
  (owes : deployment.action = .promote → service.quotas = true →
    slip.owed = some deployment.quotaKey) :
  Keeps service pad actor (platform.launch actor input pad (.addDeployment deployment)).2 := by
  simp only [launch, DeploymentPlatform.answer]
  split
  · exact Keeps.unchanged keyed fits
  case isFalse fresh =>
    obtain ⟨free, missing⟩ := not_or.mp fresh
    rw [Bool.not_eq_true, isSome_eq_false_iff, isNone_iff_eq_none] at free missing
    exact ⟨keyed_deployment keyed deployment, fits_add fits recalls free missing owes,
      advances_add free, fun _ _ _ => Iff.rfl⟩

theorem keeps_compareAndSetDeployment (input : DeploymentInput) (keyed : Keyed pad.store)
  (fits : Fits service pad) (recalls : Recalls pad actor slip)
  (writes : Writes slip expected updated) :
  Keeps service pad actor
    (platform.launch actor input pad (.compareAndSetDeployment expected updated)).2 := by
  simp only [launch, DeploymentPlatform.answer]
  split
  case isTrue accepted =>
    exact ⟨keyed_deployment keyed updated, fits_move fits recalls writes accepted,
      (advances_move recalls writes accepted).1, fun _ _ _ => Iff.rfl⟩
  · exact Keeps.unchanged keyed fits

theorem launch_keeps {op : DeploymentOp} {input : DeploymentInput} (keyed : Keyed pad.store)
  (fits : Fits service pad) (recalls : Recalls pad actor slip)
  (careful : Careful pad actor op input) (allows : Allows service slip op) :
  Keeps service pad actor (platform.launch actor input pad op).2 := by
  cases op with
  | quota step =>
    cases step with
    | reserve key => exact keeps_reserve keyed fits careful.2
    | release key => exact keeps_release keyed fits careful.2.1 careful.2.2
    | commit key =>
      obtain ⟨owes, deployment, known, named⟩ := allows
      have covered : Open pad key := fits.unsettled actor key ((recalls.owed key).mpr owes)
      obtain ⟨stored, found, planned⟩ := recalls.read deployment known
      exact keeps_commit keyed fits covered
        ⟨_, stored, found, (kept_of_plan planned).2.1.trans named⟩
  | enqueue task =>
    obtain ⟨deployment, known, rfl⟩ := allows
    exact keeps_enqueue keyed fits recalls known
  | dequeue => exact keeps_dequeue keyed fits input.task
  | acknowledge task => exact keeps_acknowledge keyed fits recalls allows
  | retry task => exact keeps_retry keyed fits task
  | addDeployment deployment => exact keeps_addDeployment input keyed fits recalls allows.2
  | compareAndSetDeployment expected updated =>
    exact keeps_compareAndSetDeployment input keyed fits recalls allows
  | addEnvironment environment =>
    simp only [launch, DeploymentPlatform.answer]
    split
    · exact Keeps.unchanged keyed fits
    exact Keeps.of_store fits (keyed_environment keyed environment _) rfl
  | compareAndSetEnvironment cause expectedRevision updated =>
    simp only [launch, DeploymentPlatform.answer]
    split
    · exact Keeps.of_store fits (keyed_environment keyed updated _) rfl
    exact Keeps.unchanged keyed fits
  | addSnapshot snapshot =>
    simp only [launch, DeploymentPlatform.answer]
    split
    · split
      · exact Keeps.unchanged keyed fits
      exact Keeps.unchanged keyed fits
    exact Keeps.of_store fits (keyed_snapshot keyed snapshot) rfl
  | generateId kind =>
    exact Keeps.of_store fits ⟨keyed.environments, keyed.snapshots, keyed.deployments⟩ rfl
  | getEnvironment _ | getSnapshot _ _ | getDeployment _ | getVersion _
  | requirePromotionAllowed _ =>
    simp only [launch, DeploymentPlatform.answer]
    split
    · exact Keeps.unchanged keyed fits
    exact Keeps.unchanged keyed fits
  | _ => exact Keeps.unchanged keyed fits

theorem launch_unsettled (op : DeploymentOp) (input : DeploymentInput)
  (unpaid : ∀ step, op ≠ .quota step) :
  (platform.launch actor input pad op).2.unsettled = pad.unsettled := by
  cases op with
  | quota step => exact absurd rfl (unpaid step)
  | dequeue =>
    simp only [launch, Launchpad.dequeue]
    split
    · rfl
    split
    · rfl
    rfl
  | _ => rfl

theorem free_of_disturbed (recalls : Recalls pad actor slip)
  (undisturbed : Undisturbed pad actor input) (disturbed : ¬ Answered input) :
  slip.owed = none := by
  rcases undisturbed with idle | answered
  · cases owes : slip.owed with
    | none => rfl
    | some key => exact absurd rfl (idle _ ((recalls.owed key).mpr owes))
  exact absurd answered disturbed

theorem foreseen_error (recalls : Recalls pad actor slip)
  (careful : Careful pad actor op input) (disturbed : ¬ Answered input)
  (remote : op.isLocal = false) (error : DeploymentError) : Foreseen slip op (.error error) := by
  cases op with
  | enqueue task | audit action => exact free_of_disturbed recalls careful disturbed
  | findByIdempotency tenantId ownerUserId key =>
    exact free_of_disturbed recalls careful.1 disturbed
  | generateId kind => cases remote
  | _ => trivial

theorem after_error (unpaid : ∀ step, op ≠ .quota step) (error : DeploymentError) : slip.after op (.error error) = slip := by
  cases op with
  | quota step => exact absurd rfl (unpaid step)
  | _ => rfl

section

variable (recalls : Recalls pad actor slip)

include recalls

theorem settled_own (owes : slip.owed = some key) (other : QuotaKey) :
  (actor, other) ∈ pad.settled actor key ↔ none = some other := by
  rw [mem_settled, recalls.owed, owes]
  constructor
  · rintro ⟨same, differs⟩
    cases same
    rcases differs with foreign | distinct
    · exact absurd rfl foreign
    exact absurd rfl distinct
  intro owed
  cases owed

theorem Recalls.reads (found : pad.store.deployments.get? deployment.task = some deployment) :
  Recalls pad actor { slip with read := deployment :: slip.read } where
  owed := recalls.owed
  read other known := by
    rcases mem_cons.mp known with rfl | before
    · exact ⟨other, found, rfl⟩
    exact recalls.read other before
  ended := recalls.ended
  launched := recalls.launched

theorem Recalls.enqueues (known : task ∈ pad.launched) :
  Recalls pad actor { slip with launched := task :: slip.launched } where
  owed := recalls.owed
  read := recalls.read
  ended := recalls.ended
  launched other held := by
    rcases mem_cons.mp held with rfl | before
    · exact known
    exact recalls.launched other before

theorem Recalls.sees (found : pad.store.deployments.get? deployment.task = some deployment) :
  Recalls pad actor (slip.seeing deployment) where
  owed := recalls.owed
  read := (recalls.reads found).read
  ended task held := by
    unfold Slip.seeing at held
    split at held
    case isTrue terminal =>
      rcases mem_cons.mp held with rfl | before
      · exact ⟨deployment, found, terminal⟩
      exact recalls.ended task before
    · exact recalls.ended task held
  launched := recalls.launched

end

theorem recalls_quota {step : QuotaStep} (keyed : Keyed pad.store) (fits : Fits service pad)
  (recalls : Recalls pad actor slip) (careful : Careful pad actor (.quota step) input)
  (allows : Allows service slip (.quota step)) (answer : Except DeploymentError Unit)
  (heard : ∀ key, step = .reserve key → answer = .ok ()) :
  Recalls (platform.launch actor input pad (.quota step)).2 actor
    (slip.after (.quota step) answer) := by
  have kept := (@launch_keeps service platform pad actor slip (.quota step) input keyed fits recalls
    careful allows).advances
  cases step with
  | reserve key =>
    rw [heard key rfl]
    apply recalls.advance kept
    intro other
    have unpaid : (actor, other) ∉ pad.unsettled := by
      intro known
      have owes := (recalls.owed other).mp known
      rw [show slip.owed = none from allows] at owes
      cases owes
    simp only [launch, Launchpad.reserve]
    split
    all_goals
      rw [mem_cons, or_iff_left unpaid, Prod.mk.injEq, and_iff_right rfl, eq_comm, some.injEq]
  | release key =>
    have settles := settled_own recalls allows
    apply recalls.advance kept
    intro other
    simp only [launch, Launchpad.release]
    split
    · exact settles other
    exact settles other
  | commit key =>
    have settles := settled_own recalls allows.1
    have covered : Open pad key := fits.unsettled actor key ((recalls.owed key).mpr allows.1)
    apply recalls.advance kept
    intro other
    rw [launch]
    rcases @commit_cases pad actor key covered with ⟨_, commits⟩ | ⟨_, commits⟩
    · rw [commits]
      exact settles other
    rw [commits]
    exact settles other

theorem recalls_unpaid (keyed : Keyed pad.store) (fits : Fits service pad)
  (recalls : Recalls pad actor slip) (careful : Careful pad actor op input)
  (allows : Allows service slip op) (unpaid : ∀ step, op ≠ .quota step) :
  Recalls (platform.launch actor input pad op).2 actor slip := by
  have kept := @launch_keeps service platform pad actor slip op input keyed fits recalls careful
    allows
  apply recalls.advance kept.advances
  intro key
  rw [launch_unsettled op input unpaid]
  exact recalls.owed key

theorem recalls_answered {op : DeploymentOp} {input : DeploymentInput}
  (keyed : Keyed pad.store) (fits : Fits service pad) (recalls : Recalls pad actor slip)
  (careful : Careful pad actor op input) (allows : Allows service slip op) :
  Recalls (platform.launch actor input pad op).2 actor
    (slip.after op (platform.launch actor input pad op).1) ∧
    Foreseen slip op (platform.launch actor input pad op).1 := by
  have base : (∀ step, op ≠ .quota step) →
    Recalls (platform.launch actor input pad op).2 actor slip :=
    recalls_unpaid keyed fits recalls careful allows
  cases op with
  | quota step =>
    refine ⟨recalls_quota keyed fits recalls careful allows _ ?_, trivial⟩
    rintro key rfl
    rfl
  | enqueue task => exact ⟨(base fun _ never => by cases never).enqueues mem_cons_self, trivial⟩
  | addDeployment deployment =>
    have later := base fun _ never => by cases never
    revert later
    simp only [launch, DeploymentPlatform.answer]
    split
    · exact fun later => ⟨later, trivial⟩
    exact fun later => ⟨later.reads (get?_set_self _ _ _), trivial⟩
  | compareAndSetDeployment expected updated =>
    have later := base fun _ never => by cases never
    revert later
    simp only [launch, DeploymentPlatform.answer]
    split
    · exact fun later => ⟨later.sees (get?_set_self _ _ _), trivial⟩
    exact fun later => ⟨later, trivial⟩
  | getDeployment task =>
    simp only [launch, DeploymentPlatform.answer]
    split
    · exact ⟨recalls, trivial⟩
    case h_2 deployment found =>
      have named : deployment.task = task := keyed.deployments task deployment found
      exact ⟨recalls.sees (by rw [named]; exact found), named⟩
  | findByIdempotency tenantId ownerUserId key =>
    simp only [launch, DeploymentPlatform.answer]
    cases found : pad.store.requestedUnder tenantId ownerUserId key with
    | none => exact ⟨recalls, trivial⟩
    | some deployment =>
      obtain ⟨named, task, stored⟩ := quotaKey_of_requestedUnder found
      have filed : deployment.task = task := keyed.deployments task deployment stored
      have there : pad.store.deployments.get? deployment.task = some deployment := by
        rw [filed]
        exact stored
      have enqueued : deployment.task ∈ pad.launched := careful.2 deployment found
      exact ⟨(recalls.reads there).enqueues enqueued, named⟩
  | getEnvironment key =>
    simp only [launch, DeploymentPlatform.answer]
    split
    · exact ⟨recalls, trivial⟩
    case h_2 environment found => exact ⟨recalls, keyed.environments key environment found⟩
  | generateId kind | _ => exact ⟨base (by rintro _ ⟨⟩), trivial⟩

variable {struck : DeploymentError}

theorem after_lost (careful : Careful pad actor op input)
  (fault : input.fault = .before struck) (error : DeploymentError) :
  slip.after op (.error error) = slip := by
  have lost : ¬ TakesEffect input := by
    rw [TakesEffect, fault]
    exact id
  cases op with
  | quota step =>
    cases step with
    | reserve key => rfl
    | release key => exact absurd careful.1 lost
    | commit key => exact absurd careful lost
  | _ => rfl

theorem recalls_interrupted (keyed : Keyed pad.store) (fits : Fits service pad)
  (recalls : Recalls pad actor slip) (careful : Careful pad actor op input)
  (allows : Allows service slip op)
  (fault : input.fault = .after struck) (error : DeploymentError) :
  Recalls (platform.launch actor input pad op).2 actor (slip.after op (.error error)) := by
  by_cases paid : ∃ step, op = .quota step
  · obtain ⟨step, rfl⟩ := paid
    apply recalls_quota keyed fits recalls careful allows
    rintro key rfl
    have effective : TakesEffect input := by
      rw [TakesEffect, fault]
      trivial
    have answered := careful.1 effective
    rw [Answered, fault] at answered
    exact answered.elim
  rw [not_exists] at paid
  rw [after_error paid]
  exact recalls_unpaid keyed fits recalls careful allows paid

end

section

variable {service : DeploymentService} {platform : DeploymentPlatform}

theorem adheres_launch : Pool.Adheres platform.launchComponent (fun _ => launchContract service)
  (Orderly service) Careful := by
  intro pad slips actor op input orderly careful allows
  have keyed := orderly.keyed
  have fits := orderly.fits
  have recalls := orderly.recalls actor
  have kept := @launch_keeps service platform pad actor (slips actor) op input keyed fits recalls
    careful allows
  have others : ∀ other, other ≠ actor →
    Recalls (platform.launch actor input pad op).2 other (slips other) := by
    intro other foreign
    apply (orderly.recalls other).advance kept.advances
    intro key
    rw [kept.owed other key foreign]
    exact (orderly.recalls other).owed key
  have effective : ∀ answer, Recalls (platform.launch actor input pad op).2 actor
    ((slips actor).after op answer) → Orderly service (platform.launch actor input pad op).2
      (update slips actor ((slips actor).after op answer)) := by
    intro answer own
    exact ⟨kept.keyed, kept.fits, Pool.forall_update own others⟩
  rcases platform.respondLaunch_cases actor input pad op with answered | before | after
  · obtain ⟨own, foreseen⟩ := @recalls_answered service platform pad actor (slips actor) op input
      keyed fits recalls careful allows
    refine ⟨_, ⟨rfl, ?_⟩, ?_⟩
    · dsimp only [launchComponent]
      rw [answered]
      exact foreseen
    dsimp only [launchComponent]
    rw [answered]
    exact effective _ own
  case inr.inl =>
    obtain ⟨error, struck, remote, answered⟩ := before
    have disturbed : ¬ Answered input := by
      rw [Answered, struck]
      exact id
    have unheard : (slips actor).after op (.error error) = slips actor :=
      after_lost careful struck error
    refine ⟨slips actor, ⟨?_, ?_⟩, ?_⟩
    · dsimp only [launchComponent]
      rw [answered]
      exact unheard.symm
    · dsimp only [launchComponent]
      rw [answered]
      exact foreseen_error recalls careful disturbed remote error
    dsimp only [launchComponent]
    rw [answered, update_eq_self]
    exact orderly
  case inr.inr =>
    obtain ⟨error, struck, remote, answered⟩ := after
    have disturbed : ¬ Answered input := by
      rw [Answered, struck]
      exact id
    refine ⟨_, ⟨rfl, ?_⟩, ?_⟩
    · dsimp only [launchComponent]
      rw [answered]
      exact foreseen_error recalls careful disturbed remote error
    dsimp only [launchComponent]
    rw [answered]
    exact effective _ (recalls_interrupted keyed fits recalls careful allows struck error)

theorem orderly_initial : Orderly service {} (fun _ => {}) where
  keyed := ⟨fun _ _ => nofun, fun _ _ => nofun, fun _ _ => nofun⟩
  fits :=
    { single := fun _ _ _ _ => nofun
      launched := fun _ => nofun
      moving := fun _ _ => nofun
      covered := fun _ _ _ => nofun
      active := fun _ => nofun
      committed := fun _ => nofun
      unsettled := fun _ _ => nofun
      charged := fun _ => rfl }
  recalls _ :=
    { owed := fun _ => ⟨nofun, nofun⟩
      read := fun _ => nofun
      ended := fun _ => nofun
      launched := fun _ => nofun }

abbrev LaunchReady (service : DeploymentService) (requests : Nat → DeploymentRequest)
  (pool : LaunchPool) (slips : Nat → Slip) : Prop :=
  pool.Ready (fun _ => launchContract service) (Orderly service)
    (fun actor later _ => Returned (requests actor) later) (fun _ => Free) slips

theorem launchPool_ready (requests : Nat → DeploymentRequest) :
  LaunchReady service requests (launchPool service requests) (fun _ => {}) :=
  ⟨orderly_initial, fun actor => serve_returns (requests actor) rfl⟩

def StillPaying (pool : LaunchPool) (key : QuotaKey) : Prop :=
  ∃ actor op next, (actor, key) ∈ pool.state.unsettled ∧ pool.thread actor = .call op next

structure OnItsWay (pad : Launchpad) (key : QuotaKey) : Prop where
  stored : ∃ task deployment, pad.store.deployments.get? task = some deployment ∧
    deployment.quotaKey = key
  queued : ∀ task deployment, pad.store.deployments.get? task = some deployment →
    deployment.quotaKey = key → deployment.status.isTerminal = false →
      task ∈ pad.pending ∨ task ∈ pad.held

variable {key : QuotaKey} {pool : LaunchPool} {requests : Nat → DeploymentRequest}
  {slips : Nat → Slip}

section

variable (ready : LaunchReady service requests pool slips)

include ready

theorem LaunchReady.onItsWay {actor : Nat} (returned : pool.thread actor = .done ())
  (named : keyOf (requests actor) = some key) : OnItsWay pool.state key := by
  obtain ⟨orderly, threads⟩ := ready
  have known := threads actor
  rw [returned] at known
  obtain ⟨_, launched⟩ := known
  obtain ⟨_, deployment, read, under, enqueued⟩ := launched key named
  obtain ⟨stored, found, planned⟩ := (orderly.recalls actor).read deployment read
  have filed : stored.quotaKey = key := (kept_of_plan planned).2.1.trans under
  refine ⟨⟨_, stored, found, filed⟩, ?_⟩
  intro task other found' under' going
  have same : task = deployment.task :=
    orderly.fits.single task other _ stored found' found (under'.trans filed.symm)
  subst same
  exact orderly.fits.moving _ other ((orderly.recalls actor).launched _ enqueued) found' going

theorem LaunchReady.stillPaying {actor : Nat} (known : (actor, key) ∈ pool.state.unsettled) :
  StillPaying pool key := by
  obtain ⟨orderly, threads⟩ := ready
  have owes := ((orderly.recalls actor).owed key).mp known
  have thread := threads actor
  cases calls : pool.thread actor with
  | call op next => exact ⟨actor, op, next, known, calls⟩
  | done value =>
    rw [calls] at thread
    have free : (slips actor).owed = none := thread.1
    rw [owes] at free
    cases free
  | raised error =>
    rw [calls] at thread
    have free : (slips actor).owed = none := thread
    rw [owes] at free
    cases free

/-- What a run leaves of the deployments that were asked for, and of the quotas. -/
structure LaunchedOnce (service : DeploymentService) (requests : Nat → DeploymentRequest)
    (pool : LaunchPool) : Prop where
  returned : ∀ actor key, pool.thread actor = .done () → keyOf (requests actor) = some key →
    OnItsWay pool.state key
  paid : service.quotas = true → ∀ task deployment,
    pool.state.store.deployments.get? task = some deployment → deployment.action = .promote →
      StillPaying pool deployment.quotaKey ∨
        (pool.state.quotas.get? deployment.quotaKey = some .committed ∧
          pool.state.charged.count deployment.quotaKey = 1)
  used : ∀ key, Open pool.state key → StillPaying pool key ∨
    ∃ task deployment, pool.state.store.deployments.get? task = some deployment ∧
      deployment.quotaKey = key

theorem LaunchReady.open_cases (covered : Open pool.state key) :
  StillPaying pool key ∨ pool.state.quotas.get? key = some .committed := by
  obtain ⟨state, found, isOpen⟩ := covered
  cases state with
  | active =>
    obtain ⟨actor, known⟩ := ready.1.fits.active key found
    exact .inl (ready.stillPaying known)
  | committed => exact .inr found
  | released | expired => cases isOpen

end

/-- On every run whose steps go well, a call that returns leaves its deployment in the queue until
it has ended; a stored promotion is charged exactly once, and a quota is taken for a stored
deployment only, as soon as the calls that reserved it have ended. -/
theorem launched_once (platform : DeploymentPlatform) (service : DeploymentService)
  (requests : Nat → DeploymentRequest) (schedule : List (Nat × DeploymentInput))
  (along : (launchPool service requests).Along platform.launchComponent Careful schedule) :
  LaunchedOnce service requests
    ((launchPool service requests).run platform.launchComponent schedule) := by
  obtain ⟨slips, ready⟩ := Pool.run_ready adheres_launch (launchPool_ready requests) schedule along
  have fits := ready.1.fits
  constructor
  case returned =>
    intro actor key returned named
    exact LaunchReady.onItsWay ready returned named
  case paid =>
    intro quotas task deployment found promoted
    rcases LaunchReady.open_cases ready (fits.covered quotas task deployment found promoted) with
      paying | committed
    · exact .inl paying
    refine .inr ⟨committed, ?_⟩
    rw [fits.charged, if_pos committed]
  case used =>
    intro key covered
    rcases LaunchReady.open_cases ready covered with paying | committed
    · exact .inl paying
    exact .inr (fits.committed key committed)

instance (input : DeploymentInput) : Decidable (TakesEffect input) :=
  match struck : input.fault with
  | .before _ => isFalse (by rw [TakesEffect, struck]; exact id)
  | .none | .after _ => isTrue (by rw [TakesEffect, struck]; trivial)

instance (input : DeploymentInput) : Decidable (Answered input) :=
  match struck : input.fault with
  | .none => isTrue (by rw [Answered, struck]; trivial)
  | .before _ | .after _ => isFalse (by rw [Answered, struck]; exact id)

instance (pad : Launchpad) (actor : Nat) (input : DeploymentInput) :
  Decidable (Undisturbed pad actor input) :=
  inferInstanceAs (Decidable (_ ∨ _))

instance (pad : Launchpad) (actor : Nat) (op : DeploymentOp) (input : DeploymentInput) :
  Decidable (Careful pad actor op input) :=
  match op with
  | .quota (.reserve _) => inferInstanceAs (Decidable ((_ → _) ∧ _))
  | .quota (.release _) => inferInstanceAs (Decidable (_ ∧ _ ∧ _))
  | .quota (.commit _) => inferInstanceAs (Decidable (TakesEffect input))
  | .enqueue _ | .audit _ => inferInstanceAs (Decidable (Undisturbed pad actor input))
  | .findByIdempotency _ _ _ => inferInstanceAs (Decidable (_ ∧ _))
  | .getEnvironment _ | .addEnvironment _ | .compareAndSetEnvironment _ _ _ | .addSnapshot _
  | .getSnapshot _ _ | .addDeployment _ | .getDeployment _ | .compareAndSetDeployment _ _
  | .getVersion _ | .catalog _ | .validateKnowledge _ | .requirePromotionAllowed _
  | .qualityGate _ | .getPreview _ | .generateId _ | .deploy _ | .dequeue | .acknowledge _
  | .retry _ => isTrue trivial

def paidService : DeploymentService := { quotas := true }

def promoteTwice : Nat → DeploymentRequest
  | 0 | 1 =>
    .promote "tenant-1" "user-1"
      { agentName := "helper", agentVersion := "1", environment := .test
        expectedEnvironmentRevision := 0, executionProfile := "isolated-default"
        idempotencyKey := "first" }
  | _ => .processOnce

def fair : DeploymentInput where
  catalog := plainCatalog

def inTurn : List (Nat × DeploymentInput) :=
  List.replicate 14 (0, fair) ++ List.replicate 5 (1, fair)

theorem launched_once_in_turn : LaunchedOnce paidService promoteTwice
  ((launchPool paidService promoteTwice).run plainPlatform.launchComponent inTurn) :=
  launched_once plainPlatform paidService promoteTwice inTurn (by decide +kernel)

def queueDown : List (Nat × DeploymentInput) :=
  List.replicate 12 (0, fair) ++
    [(0, { fair with fault := .before (.outage "queue unavailable") })] ++
    List.replicate 5 (1, fair)

/-- The retry is answered with a deployment that nobody will ever work on, and its quota is
neither charged nor given back. -/
theorem retry_returns_stranded :
  let reached := (launchPool paidService promoteTwice).run plainPlatform.launchComponent queueDown
  let key : QuotaKey := ⟨"tenant-1", "user-1", "first"⟩
  reached.thread 0 = .raised (.outage "queue unavailable") ∧ reached.thread 1 = .done () ∧
    keyOf (promoteTwice 1) = some key ∧
    (∃ task deployment, reached.state.store.deployments.get? task = some deployment ∧
      deployment.quotaKey = key ∧ deployment.status = .queued) ∧
    reached.state.pending = [] ∧ reached.state.held = [] ∧
    reached.state.quotas.get? key = some .active ∧ reached.state.charged = [] := by
  refine ⟨rfl, rfl, rfl, ⟨⟨"tenant-1", "deployment+"⟩, _, rfl, ?_⟩, ?_⟩
  · decide +kernel
  decide +kernel

end

end AgentHarness.Deployments.Launching
