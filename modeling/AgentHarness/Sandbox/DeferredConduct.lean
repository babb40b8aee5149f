import AgentHarness.Sandbox.Deferred

/-!
What a task may ask of the deferred provider, and what it knows on the way.
-/

namespace AgentHarness.Deferred

open Interaction Program

/-- `looked` to `kept` are the steps to a remote sandbox, the last four of them inside the lock;
`slot`, `named`, `removing` and `releasing` hold a slot for which no lease stands. -/
inductive Phase where
  | idle
  | slot
  | named (sandboxId : String)
  | looked (lease : Lease)
  | inside (lease : Lease)
  | empty (lease : Lease)
  | prepared (lease : Lease) (remote : Remote)
  | kept (lease : Lease) (remote : Remote)
  | holding (lease : Lease) (remote : Remote)
  | marked (lease : Lease) (remote : Remote)
  | collecting (lease : Lease) (remote : Remote)
  | gathered
  | removing (lease : Lease) (remote : Remote)
  | releasing

def Phase.occupied : Phase → Bool
  | .slot | .named _ | .removing _ _ | .releasing => true
  | _ => false

variable (request : DeferredRequest)

def Admits (known : Phase) : DeferredOp → Prop
  | .acquireSlot => known = .idle
  | .releaseSlot => known = .slot ∨ known = .releasing
  | .makePath => known = .slot
  | .storeLease sandboxId => known = .named sandboxId
  | .lookUp sandboxId => known = .idle ∧ ∃ argv, request = .execute sandboxId argv
  | .enter lease => known = .looked lease
  | .leave lease =>
    known = .inside lease ∨ known = .empty lease ∨ ∃ remote, known = .kept lease remote
  | .readRemote lease => known = .inside lease
  | .provisionRemote lease => known = .empty lease
  | .prepareRemote lease remote | .keepRemote lease remote => known = .prepared lease remote
  | .markDirty sandboxId => (∃ argv, request = .execute sandboxId argv) ∧
      ∃ lease remote, known = .holding lease remote
  | .executeRemote lease remote argv => known = .marked lease remote ∨
      known = .holding lease remote ∧ mayMutateWorkspace argv = false
  | .inspect _ => known = .idle
  | .collectRemote lease remote => known = .collecting lease remote
  | .popLease _ => known = .idle
  | .destroyRemote remote =>
    ∃ lease, known = .prepared lease remote ∨ known = .removing lease remote
  | .removePath _ => True

def after (known : Phase) : (op : DeferredOp) → Except DeferredError op.Answer → Phase
  | .acquireSlot, .ok _ => .slot
  | .releaseSlot, _ => .idle
  | .makePath, .ok sandboxId => .named sandboxId
  | .storeLease _, _ => .idle
  | .lookUp _, .ok (lease, none) => .looked lease
  | .lookUp _, .ok (lease, some remote) => .holding lease remote
  | .enter lease, .ok _ => .inside lease
  | .enter _, .error _ => .idle
  | .leave _, _ =>
    match known with
    | .kept lease remote => .holding lease remote
    | _ => .idle
  | .readRemote lease, .ok none => .empty lease
  | .readRemote lease, .ok (some remote) => .kept lease remote
  | .provisionRemote lease, .ok remote => .prepared lease remote
  | .keepRemote lease remote, _ => .kept lease remote
  | .markDirty _, .ok _ =>
    match known with
    | .holding lease remote => .marked lease remote
    | _ => known
  | .executeRemote _ _ _, _ => .idle
  | .inspect _, .ok (lease, some remote, true) => .collecting lease remote
  | .inspect _, .ok _ => .gathered
  | .collectRemote _ _, .ok _ => .gathered
  | .popLease _, .ok (some (lease, some remote)) => .removing lease remote
  | .popLease _, .ok (some (_, none)) => .releasing
  | .destroyRemote _, _ =>
    match known with
    | .prepared lease _ => .inside lease
    | .removing _ _ => .releasing
    | _ => known
  | _, _ => known

def Foreseen : (op : DeferredOp) → Except DeferredError op.Answer → Prop
  | .releaseSlot, .error _ | .storeLease _, .error _ | .leave _, .error _ => False
  | .readRemote _, .error _ | .keepRemote _ _, .error _ => False
  | .popLease _, .error _ | .removePath _, .error _ => False
  | _, _ => True

def contract : Contract DeferredOp DeferredOp.Answer DeferredError Phase where
  allowed := Admits request
  learns known op answer later := Foreseen op answer ∧ later = after known op answer

def Returned (known : Phase) : Prop :=
  known.occupied = false ∧ ∀ sandboxId, request = .collect sandboxId → known = .gathered

def Failed (known : Phase) : Prop := known.occupied = false

section

variable {request : DeferredRequest} {known : Phase} {fail : Phase → DeferredError → Prop}

theorem wp_call {op : DeferredOp} {post : Phase → op.Answer → Prop}
  (admits : Admits request known op) (onValue : ∀ value, post (after known op (.ok value)) value)
  (onError : ∀ error, Foreseen op (.error error) → fail (after known op (.error error)) error) :
  (DeferredPort.call op).wp (contract request) post fail known := by
  rw [wp_perform]
  refine ⟨admits, ?_, ?_⟩
  · rintro value later ⟨_, rfl⟩
    exact onValue value
  rintro error later ⟨foreseen, rfl⟩
  exact onError error foreseen

theorem wp_provision :
  Deferred.provision.wp (contract .provision) (fun later _ => Returned .provision later)
    (fun later _ => Failed later) .idle := by
  unfold Deferred.provision
  rw [wp_do]
  refine wp_call (by rfl) ?_ ?_
  · intro _
    rw [wp_do, wp_catching]
    refine wp_call (by rfl) ?_ ?_
    · intro sandboxId
      exact wp_call rfl (fun _ => ⟨rfl, nofun⟩) nofun
    intro error _
    rw [wp_bind]
    exact wp_call (.inl rfl) (fun _ => rfl) nofun
  exact fun _ _ => rfl

theorem wp_ensureLocked (lease : Lease) : (ensureLocked lease).wp (contract request)
  (fun later remote => later = .kept lease remote)
  (fun later _ => later = .inside lease ∨ later = .empty lease) (.inside lease) := by
  unfold ensureLocked
  rw [wp_do]
  refine wp_call (by rfl) ?_ ?_
  · intro found
    cases found with
    | some remote => rfl
    | none =>
      rw [wp_do]
      refine wp_call (by rfl) ?_ ?_
      · intro provisioned
        rw [wp_do, wp_catching]
        refine wp_call (by rfl) ?_ ?_
        · intro _
          rw [wp_do]
          exact wp_call rfl (fun _ => rfl) nofun
        intro error _
        rw [wp_bind]
        exact wp_call ⟨lease, .inl rfl⟩ (fun _ => .inl rfl) fun _ _ => .inl rfl
      exact fun _ _ => .inr rfl
  nofun

theorem wp_ensureRemote {sandboxId : String} {argv : List String} :
  (ensureRemote sandboxId).wp (contract (.execute sandboxId argv))
    (fun later result => later = .holding result.1 result.2)
    (fun later _ => later = .idle) .idle := by
  unfold ensureRemote
  rw [wp_do]
  refine wp_call (by exact ⟨rfl, argv, rfl⟩) ?_ ?_
  · rintro ⟨lease, found⟩
    cases found with
    | some remote => rfl
    | none =>
      rw [wp_do]
      refine wp_call (by rfl) ?_ ?_
      · intro _
        rw [wp_do, wp_ensuring]
        apply wp_mono (wp_ensureLocked lease)
        · rintro later remote rfl
          exact wp_call (.inr (.inr ⟨remote, rfl⟩)) (fun _ => rfl)
            nofun
        rintro later error (rfl | rfl)
        · exact wp_call (.inl rfl) (fun _ => rfl) nofun
        exact wp_call (.inr (.inl rfl)) (fun _ => rfl)
          nofun
      exact fun _ _ => rfl
  exact fun _ _ => rfl

variable (sandboxId : String)

theorem wp_execute (argv : List String) :
  (Deferred.execute sandboxId argv).wp (contract (.execute sandboxId argv))
    (fun later _ => Returned (.execute sandboxId argv) later)
    (fun later _ => Failed later) .idle := by
  unfold Deferred.execute
  rw [wp_do]
  apply wp_mono wp_ensureRemote
  · rintro later ⟨lease, remote⟩ rfl
    dsimp only
    by_cases mutates : mayMutateWorkspace argv = true
    · rw [if_pos mutates, wp_do]
      refine wp_call (by exact ⟨⟨argv, rfl⟩, lease, remote, rfl⟩) ?_ ?_
      · intro _
        exact wp_call (.inl rfl) (fun _ => ⟨rfl, nofun⟩) fun _ _ => rfl
      exact fun _ _ => rfl
    rw [if_neg mutates, bind_eq, done_bind]
    exact wp_call (.inr ⟨rfl, by simpa using mutates⟩) (fun _ => ⟨rfl, nofun⟩)
      (fun _ _ => rfl)
  rintro later error rfl
  rfl

theorem wp_collect : (Deferred.collect sandboxId).wp (contract (.collect sandboxId))
  (fun later _ => Returned (.collect sandboxId) later)
  (fun later _ => Failed later) .idle := by
  unfold Deferred.collect
  rw [wp_do]
  refine wp_call (by rfl) ?_ ?_
  · rintro ⟨lease, remote, dirty⟩
    cases remote with
    | none => exact ⟨rfl, fun _ _ => rfl⟩
    | some remote =>
      cases dirty with
      | false => exact ⟨rfl, fun _ _ => rfl⟩
      | true => exact wp_call rfl (fun _ => ⟨rfl, fun _ _ => rfl⟩) fun _ _ => rfl
  exact fun _ _ => rfl

theorem wp_cleanup {sandboxId : String} {post : Phase → Unit → Prop} (later : post .idle ()) :
  ((DeferredPort.call (.removePath sandboxId)).bind
    fun _ => DeferredPort.call .releaseSlot).wp (contract request)
    post fail .releasing := by
  rw [wp_bind]
  refine wp_call (by trivial) ?_ ?_
  · intro _
    exact wp_call (.inr rfl) (fun _ => later) nofun
  nofun

theorem wp_destroy : (Deferred.destroy sandboxId).wp (contract (.destroy sandboxId))
  (fun later _ => Returned (.destroy sandboxId) later)
  (fun later _ => Failed later) .idle := by
  unfold Deferred.destroy
  rw [wp_do]
  refine wp_call (by rfl) ?_ ?_
  · rintro (_ | ⟨lease, remote⟩)
    · exact wp_call trivial (fun _ => ⟨rfl, nofun⟩) nofun
    rw [wp_ensuring]
    cases remote with
    | none => exact wp_cleanup ⟨rfl, nofun⟩
    | some remote =>
      refine wp_call (by exact ⟨lease, .inr rfl⟩) ?_ ?_
      · exact fun _ => wp_cleanup ⟨rfl, nofun⟩
      exact fun _ _ => wp_cleanup rfl
  nofun

theorem wp_serve (request : DeferredRequest) :
  request.serve.wp (contract request) (fun later _ => Returned request later)
    (fun later _ => Failed later) .idle := by
  cases request with
  | provision => exact wp_provision
  | execute sandboxId argv => exact wp_execute sandboxId argv
  | collect sandboxId => exact wp_collect sandboxId
  | destroy sandboxId => exact wp_destroy sandboxId

end

end AgentHarness.Deferred
