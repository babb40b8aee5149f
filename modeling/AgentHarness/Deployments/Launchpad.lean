import AgentHarness.Deployments.Store
import AgentHarness.Quota.Models

/-!
The stores together with the deployment queue and the promotion quotas.

A promotion reserves its quota, stores its snapshot and its deployment, enqueues the task of the
deployment, and commits the quota, each in a step of its own.
-/

namespace AgentHarness.Deployments

open Collections Interaction
open Quota (ReservationState)

structure Launchpad where
  store : DeploymentStore := {}
  pending : List DeploymentTask := []
  held : List DeploymentTask := []
  quotas : Dict QuotaKey ReservationState := Dict.empty
  /-- History: the tasks that were enqueued, the reservations that were charged, and those that a
  call has made and not yet settled, each with the call. -/
  launched : List DeploymentTask := []
  charged : List QuotaKey := []
  unsettled : List (Nat × QuotaKey) := []

namespace Launchpad

variable (pad : Launchpad)

def settled (actor : Nat) (key : QuotaKey) : List (Nat × QuotaKey) :=
  pad.unsettled.filter fun entry => entry ≠ (actor, key)

def reserve (actor : Nat) (key : QuotaKey) : Launchpad :=
  match pad.quotas.get? key with
  | some _ => { pad with unsettled := (actor, key) :: pad.unsettled }
  | none =>
    { pad with
      quotas := pad.quotas.set key .active, unsettled := (actor, key) :: pad.unsettled }

def release (actor : Nat) (key : QuotaKey) : Launchpad :=
  match pad.quotas.get? key with
  | some .active =>
    { pad with
      quotas := pad.quotas.set key .released, unsettled := pad.settled actor key }
  | _ => { pad with unsettled := pad.settled actor key }

def commit (actor : Nat) (key : QuotaKey) : Except DeploymentError Unit × Launchpad :=
  match pad.quotas.get? key with
  | some .active =>
    (.ok (),
      { pad with
        quotas := pad.quotas.set key .committed, charged := key :: pad.charged
        unsettled := pad.settled actor key })
  | some .committed => (.ok (), { pad with unsettled := pad.settled actor key })
  | some _ => (.error (.conflict "quota reservation is not active"), pad)
  | none => (.error (.notFound "quota reservation not found"), pad)

def dequeue (offered : Option DeploymentTask) : Option DeploymentTask × Launchpad :=
  match offered with
  | none => (none, pad)
  | some task =>
    if task ∈ pad.pending ∨ task ∈ pad.held then
      (some task,
        { pad with
          pending := pad.pending.filter (· ≠ task), held := task :: pad.held })
    else (none, pad)

end Launchpad

namespace DeploymentPlatform

variable (platform : DeploymentPlatform)

def launch (actor : Nat) (input : DeploymentInput) (pad : Launchpad) :
    (op : DeploymentOp) → Except DeploymentError op.Answer × Launchpad
  | .quota (.reserve key) => (.ok (), pad.reserve actor key)
  | .quota (.release key) => (.ok (), pad.release actor key)
  | .quota (.commit key) => pad.commit actor key
  | .enqueue task =>
    (.ok (), { pad with pending := task :: pad.pending, launched := task :: pad.launched })
  | .dequeue =>
    let reply := pad.dequeue input.task
    (.ok reply.1, reply.2)
  | .acknowledge task => (.ok (), { pad with held := pad.held.filter (· ≠ task) })
  | .retry task =>
    (.ok (), { pad with pending := task :: pad.pending, held := pad.held.filter (· ≠ task) })
  | op =>
    let reply := platform.answer actor input pad.store op
    (reply.1, { pad with store := reply.2 })

def respondLaunch (actor : Nat) (input : DeploymentInput) (pad : Launchpad) (op : DeploymentOp) :
  Except DeploymentError op.Answer × Launchpad :=
  let reply := platform.launch actor input pad op
  if op.isLocal then reply
  else
    match input.fault with
    | .none => reply
    | .before error => (.error error, pad)
    | .after error => (.error error, reply.2)

def launchComponent :
  Component DeploymentOp DeploymentOp.Answer DeploymentError Nat Launchpad DeploymentInput where
  respond := platform.respondLaunch

theorem respondLaunch_cases (actor : Nat) (input : DeploymentInput) (pad : Launchpad)
  (op : DeploymentOp) :
  platform.respondLaunch actor input pad op = platform.launch actor input pad op ∨
    (∃ error, input.fault = .before error ∧ op.isLocal = false ∧
    platform.respondLaunch actor input pad op = (.error error, pad)) ∨
    ∃ error, input.fault = .after error ∧ op.isLocal = false ∧
    platform.respondLaunch actor input pad op =
    (.error error, (platform.launch actor input pad op).2) := by
  unfold respondLaunch
  split
  · exact .inl rfl
  case isFalse remote =>
    have remote' : op.isLocal = false := Bool.eq_false_iff.mpr remote
    split
    · exact .inl rfl
    · exact .inr (.inl ⟨_, by assumption, remote', rfl⟩)
    exact .inr (.inr ⟨_, by assumption, remote', rfl⟩)

end DeploymentPlatform

abbrev LaunchPool := Pool DeploymentOp DeploymentOp.Answer DeploymentError Nat Launchpad Unit

def launchPool (service : DeploymentService) (requests : Nat → DeploymentRequest) : LaunchPool where
  state := {}
  thread actor := service.serve (requests actor)

end AgentHarness.Deployments
