import AgentHarness.Quota.Accounting
import AgentHarness.Quota.Service

/-!
Any number of clients of one quota service.

A client holds the reservations it was given and makes one request after
another; a request that fails is abandoned and the next one follows.  A client
that is never scheduled again has crashed in the middle of a request.
-/

namespace AgentHarness.Quota

open Collections Interaction Dict Function List InMemoryQuotaRepository Option

/-- A handle is the position of a reservation among those the client was given. -/
inductive QuotaRequest where
  | reserve (request : ReserveRequest)
  | commit (handle : Nat) (amount : Option Int)
  | release (handle : Nat)
  | expire (tenantId : String)
  | expireAll (limit : Nat)
  | consume (request : ReserveRequest)
  | lookup (tenantId idempotencyKey : String)
  | releaseSubject (tenantId subjectId : String)
  | releaseIdempotency (tenantId idempotencyKey : String)
  | replacePolicy (tenantId policyId : String) (expectedRevision : Int) (scope : QuotaScope)
      (limits : Dict QuotaResource Int)

namespace QuotaService

def serve (service : QuotaService) (held : List ResourceReservation) :
    QuotaRequest → QuotaProgram (List ResourceReservation)
  | .reserve request => do
      let reservation ← service.reserve request
      return held ++ [reservation]
  | .commit handle amount =>
    match held[handle]? with
    | none => return held
    | some reservation => do
        let closed ← service.commit reservation amount
        return held ++ [closed]
  | .release handle =>
    match held[handle]? with
    | none => return held
    | some reservation => do
        let _ ← service.release reservation
        return held
  | .expire tenantId => do
      let _ ← service.reapExpired tenantId
      return held
  | .expireAll limit => do
      let _ ← service.reapExpiredAll limit
      return held
  | .consume request => do
      let reservation ← service.consume request
      return held ++ [reservation]
  | .lookup tenantId idempotencyKey => do
      match ← QuotaRepository.getReservation tenantId idempotencyKey with
      | none => return held
      | some reservation => return held ++ [reservation]
  | .releaseSubject tenantId subjectId => do
      let _ ← service.releaseSubject tenantId subjectId
      return held
  | .releaseIdempotency tenantId idempotencyKey => do
      let _ ← service.releaseIdempotency tenantId idempotencyKey
      return held
  | .replacePolicy tenantId policyId expectedRevision scope limits => do
      let _ ← replacePolicy tenantId policyId expectedRevision scope limits
      return held

def client (service : QuotaService) : List QuotaRequest → List ResourceReservation →
    QuotaProgram Unit
  | [], _ => .done ()
  | request :: rest, held =>
    ((service.serve held request).catching fun _ => .done held).bind
      (fun kept => service.client rest kept)

def pool (service : QuotaService) (requests : Nat → List QuotaRequest) :
  Pool QuotaOp QuotaOp.Answer QuotaError Nat QuotaStore Unit where
  state := {}
  thread client := service.client (requests client) []

end QuotaService

structure Holding where
  minted : Option (String × String) := none
  issued : List ResourceReservation := []

def QuotaOp.granted : (op : QuotaOp) → op.Answer → List ResourceReservation
  | .reserve _ _, reservation | .commit _ _ _ _ _, reservation
  | .release _ _ _ _, reservation => [reservation]
  | .getReservation _ _, reservation => reservation.toList
  | .listActiveReservations _, reservations | .listExpiredActive _ _, reservations => reservations
  | .clock, _ | .generateId _, _ | .listPolicies _, _ | .replacePolicy _ _, _
  | .addLedger _, _ => []

def QuotaOp.mints : (op : QuotaOp) → op.Answer → Option (String × String)
  | .generateId kind, id => some (kind, id)
  | _, _ => none

def Holding.after (known : Holding) (op : QuotaOp) : Except QuotaError op.Answer → Holding
  | .ok answer => { minted := op.mints answer, issued := op.granted answer ++ known.issued }
  | .error _ => { known with minted := none }

namespace QuotaService

variable (service : QuotaService)

def WindowOf (known : Holding) (tenantId reservationId windowKey : String) : Prop :=
  ∃ handle ∈ known.issued, handle.tenantId = tenantId ∧
    handle.reservationId = reservationId ∧
    windowKey = service.windowKey handle.resource handle.createdAt

/-- How the service uses its repository: every id is fresh and spent once, and a
reservation is closed in the window it was opened in. -/
def Permits (known : Holding) : QuotaOp → Prop
  | .reserve reservation windowKey =>
    known.minted = some ("quota", reservation.reservationId) ∧
      reservation.state = .active ∧ 1 ≤ reservation.amount ∧ reservation.scopeKeys.Nodup ∧
      windowKey = service.windowKey reservation.resource reservation.createdAt
  | .commit tenantId reservationId amount windowKey ledger =>
    known.minted = some ("usage", ledger.entryId) ∧
      ledger.reservationId = some reservationId ∧ ledger.amount = some amount ∧
      service.WindowOf known tenantId reservationId windowKey
  | .release tenantId reservationId _ windowKey =>
    service.WindowOf known tenantId reservationId windowKey
  | .addLedger entry => known.minted = some ("usage", entry.entryId) ∧ entry.reservationId = none
  | _ => True

def contract : Contract QuotaOp QuotaOp.Answer QuotaError Holding where
  allowed := service.Permits
  learns known op answer later := later = known.after op answer

end QuotaService

open Collections Interaction Program

theorem scopeKeys_sublist (resource : QuotaResource) (entries : List (String × QuotaPolicy)) :
  List.Sublist
    ((entries.filterMap (fun entry => (entry.2.limits.get? resource).map
    fun limit => ({ scopeKey := entry.1, limit } : QuotaConstraint))).map
    QuotaConstraint.scopeKey)
    (entries.map Prod.fst) := by
  induction entries with
  | nil => exact List.Sublist.slnil
  | cons entry rest ih =>
    rw [filterMap_cons]
    cases entry.2.limits.get? resource with
    | none => exact ih.cons entry.1
    | some limit => exact ih.cons_cons entry.1

theorem constraintsOf_distinct (resource : QuotaResource) (selected : Dict String QuotaPolicy) :
  ((constraintsOf resource selected).map QuotaConstraint.scopeKey).Nodup := by
  have sorted := (mergeSort_perm selected.entries
    fun left right => decide (left.1 ≤ right.1)).map Prod.fst
  exact (scopeKeys_sublist resource _).nodup (sorted.nodup_iff.mpr selected.distinct)

namespace QuotaService

variable {service : QuotaService} {known : Holding} {fail : Holding → QuotaError → Prop} {α : Type}
  {post : Holding → α → Prop}

theorem wp_asks (op : QuotaOp) (read : op.Answer → α) :
  (perform op read : QuotaProgram α).wp service.contract post fail known ↔
    service.Permits known op ∧
    (∀ answer, post (known.after op (.ok answer)) (read answer)) ∧
    ∀ error, fail (known.after op (.error error)) error := by
  rw [wp_perform]
  refine and_congr_right fun _ => and_congr ?_ ?_
  · exact ⟨fun each answer => each answer _ rfl, fun each answer later same => same ▸ each answer⟩
  exact ⟨fun each error => each error _ rfl, fun each error later same => same ▸ each error⟩

theorem wp_orRaise (built : Except QuotaError α)
  : (orRaise built).wp service.contract post fail known ↔
    (∀ value, built = .ok value → post known value) ∧
    ∀ error, built = .error error → fail known error := by
  cases built <;> simp [orRaise]

def Keeps (known later : Holding) : Prop := known.issued ⊆ later.issued

theorem after_keeps (op : QuotaOp) (answer : Except QuotaError op.Answer) :
  Keeps known (known.after op answer) := by
  cases answer with
  | error error => exact List.Subset.refl _
  | ok answer => exact subset_append_right _ _

variable {program : QuotaProgram α}

theorem wp_keeping {grown : Holding} (grew : Keeps known grown)
  (keeps : program.wp service.contract (fun later _ => Keeps grown later)
    (fun later _ => Keeps grown later) grown) :
  program.wp service.contract (fun later _ => Keeps known later)
    (fun later _ => Keeps known later) grown :=
  wp_mono keeps (fun _ _ kept => List.Subset.trans grew kept)
    (fun _ _ kept => List.Subset.trans grew kept)

theorem reserve_wp (request : ReserveRequest) : (service.reserve request).wp service.contract
    (fun later reservation => Keeps known later ∧ reservation ∈ later.issued)
    (fun later _ => Keeps known later) known := by
  unfold reserve
  split
  · exact List.Subset.refl _
  simp only [wp_do, constraints, pure_eq, wp_done, QuotaRepository.clock,
    QuotaRepository.listPolicies, QuotaRepository.generateId, QuotaRepository.reserve,
    wp_asks, wp_orRaise, Permits, true_and, Holding.after, QuotaOp.granted,
    QuotaOp.mints, nil_append, Keeps]
  refine ⟨fun now => ⟨fun stored => ⟨fun id => ⟨?_, ?_⟩, ?_⟩, ?_⟩, ?_⟩
  · rintro reservation built
    obtain ⟨rfl, positive⟩ := ResourceReservation.validated_ok built
    refine ⟨⟨rfl, rfl, positive, constraintsOf_distinct _ _, rfl⟩, fun answer => ?_, fun _ => ?_⟩
    · exact ⟨subset_append_right _ _, mem_append_left _ (mem_singleton_self _)⟩
    exact List.Subset.refl _
  all_goals intros; exact List.Subset.refl _

variable {reservation : ResourceReservation} {held : List ResourceReservation}
  {repository : InMemoryQuotaRepository} {id tenantId windowKey : String}

theorem commit_wp (amount : Option Int) (held : reservation ∈ known.issued) :
  (service.commit reservation amount).wp service.contract
    (fun later closed => Keeps known later ∧ closed ∈ later.issued)
    (fun later _ => Keeps known later) known := by
  simp only [commit, wp_do, wp_asks, wp_orRaise, Permits, true_and,
    Holding.after, QuotaOp.granted, QuotaOp.mints, nil_append, Keeps]
  refine ⟨fun now => ⟨fun id => ⟨?_, ?_⟩, ?_⟩, ?_⟩
  · rintro ledger built
    obtain ⟨rfl, _⟩ := UsageLedgerEntry.validated_ok built
    refine ⟨⟨rfl, rfl, rfl, reservation, held, rfl, rfl, rfl⟩, fun answer => ?_, fun _ => ?_⟩
    · exact ⟨subset_append_right _ _, mem_append_left _ (mem_singleton_self _)⟩
    exact List.Subset.refl _
  all_goals intros; exact List.Subset.refl _

theorem release_wp (expired : Bool) (held : reservation ∈ known.issued) :
  (service.release reservation expired).wp service.contract
    (fun later _ => Keeps known later) (fun later _ => Keeps known later) known := by
  simp only [release, wp_asks]
  exact ⟨⟨reservation, held, rfl, rfl, rfl⟩, fun answer => after_keeps _ (.ok answer),
    fun error => List.Subset.refl _⟩

theorem releaseAll_wp {reservations : List ResourceReservation} (expired : Bool)
  (held : reservations ⊆ known.issued) :
  (service.releaseAll reservations expired).wp service.contract
    (fun later _ => Keeps known later) (fun later _ => Keeps known later) known := by
  simp only [releaseAll, wp_do, pure_eq, wp_done]
  refine wp_each (List.Subset.refl _) fun reservation member now kept => ?_
  rw [wp_do]
  exact wp_keeping kept (release_wp expired (kept (held member)))

theorem consume_wp (request : ReserveRequest) : (service.consume request).wp service.contract
    (fun later reservation => Keeps known later ∧ reservation ∈ later.issued)
    (fun later _ => Keeps known later) known := by
  simp only [consume, wp_do]
  refine wp_mono (reserve_wp request) ?_ fun _ _ => id
  rintro later reservation ⟨keeps, granted⟩
  exact wp_mono (commit_wp none granted)
    (fun _ _ kept => ⟨List.Subset.trans keeps kept.1, kept.2⟩)
    (fun _ _ kept => List.Subset.trans keeps kept)

theorem reapExpired_wp (tenantId : String) : (service.reapExpired tenantId).wp service.contract
    (fun later _ => Keeps known later) (fun later _ => Keeps known later) known := by
  simp only [reapExpired, QuotaRepository.clock, QuotaRepository.listActiveReservations,
    wp_do, wp_asks, Permits, true_and]
  refine ⟨fun now => ⟨fun reservations => ?_, fun _ => List.Subset.refl _⟩,
    fun _ => List.Subset.refl _⟩
  have listed : reservations.filter (fun reservation => decide (reservation.expiresAt ≤ now)) ⊆
    reservations ++ known.issued :=
    List.Subset.trans (filter_subset_self _) (subset_append_left _ _)
  exact wp_keeping (subset_append_right _ _) (releaseAll_wp true listed)

theorem reapExpiredAll_wp (limit : Nat) : (service.reapExpiredAll limit).wp service.contract
    (fun later _ => Keeps known later) (fun later _ => Keeps known later) known := by
  simp only [reapExpiredAll, QuotaRepository.clock, QuotaRepository.listExpiredActive,
    wp_do, wp_asks, Permits, true_and]
  refine ⟨fun now => ⟨fun reservations => ?_, fun _ => List.Subset.refl _⟩,
    fun _ => List.Subset.refl _⟩
  have listed : reservations ⊆ reservations ++ known.issued := subset_append_left _ _
  exact wp_keeping (subset_append_right _ _) (releaseAll_wp true listed)

theorem releaseSubject_wp (tenantId subjectId : String) :
  (service.releaseSubject tenantId subjectId).wp service.contract
    (fun later _ => Keeps known later) (fun later _ => Keeps known later) known := by
  simp only [releaseSubject, QuotaRepository.listActiveReservations, wp_do, wp_asks,
    Permits, true_and]
  refine ⟨fun reservations => ?_, fun _ => List.Subset.refl _⟩
  have listed : reservations.filter (fun reservation => reservation.subjectId = subjectId) ⊆
    reservations ++ known.issued :=
    List.Subset.trans (filter_subset_self _) (subset_append_left _ _)
  exact wp_keeping (subset_append_right _ _) (releaseAll_wp false listed)

theorem releaseIdempotency_wp (tenantId idempotencyKey : String) :
  (service.releaseIdempotency tenantId idempotencyKey).wp service.contract
    (fun later _ => Keeps known later) (fun later _ => Keeps known later) known := by
  simp only [releaseIdempotency, QuotaRepository.getReservation, wp_do, wp_asks, Permits, true_and]
  refine ⟨fun found => ?_, fun _ => List.Subset.refl _⟩
  cases found with
  | none => exact List.Subset.refl _
  | some reservation =>
    have granted : reservation ∈ reservation :: known.issued := mem_cons_self
    simp only
    split
    · exact subset_cons_self _ _
    rw [wp_do]
    exact wp_keeping (subset_cons_self _ _) (release_wp false granted)

theorem replacePolicy_wp (tenantId policyId : String) (expectedRevision : Int)
  (scope : QuotaScope) (limits : Dict QuotaResource Int) :
  (replacePolicy tenantId policyId expectedRevision scope limits).wp service.contract
    (fun later _ => Keeps known later) (fun later _ => Keeps known later) known := by
  unfold replacePolicy
  split
  · simp only [QuotaRepository.replacePolicy, wp_asks]
    exact ⟨trivial, fun policy => after_keeps _ (.ok policy), fun _ => List.Subset.refl _⟩
  exact List.Subset.refl _

theorem wp_returning (given : held ⊆ known.issued)
  (keeps : program.wp service.contract (fun later _ => Keeps known later)
    (fun later _ => Keeps known later) known) :
  (program.bind fun _ => done held).wp service.contract
    (fun later kept => kept ⊆ later.issued) (fun later _ => held ⊆ later.issued) known := by
  rw [wp_bind]
  exact wp_mono keeps (fun _ _ kept => List.Subset.trans given kept)
    (fun _ _ kept => List.Subset.trans given kept)

theorem wp_receiving {program : QuotaProgram ResourceReservation}
  (given : held ⊆ known.issued) (keeps : program.wp service.contract
    (fun later reservation => Keeps known later ∧ reservation ∈ later.issued)
    (fun later _ => Keeps known later) known) :
  (program.bind fun reservation => done (held ++ [reservation])).wp service.contract
    (fun later kept => kept ⊆ later.issued) (fun later _ => held ⊆ later.issued) known := by
  rw [wp_bind]
  refine wp_mono keeps ?_ fun _ _ kept => List.Subset.trans given kept
  rintro later reservation ⟨kept, granted⟩
  exact append_subset.mpr ⟨List.Subset.trans given kept, cons_subset.mpr ⟨granted, nil_subset _⟩⟩

theorem serve_wp (given : held ⊆ known.issued) (request : QuotaRequest) :
  (service.serve held request).wp service.contract
    (fun later kept => kept ⊆ later.issued) (fun later _ => held ⊆ later.issued) known := by
  cases request with
  | reserve request => exact wp_receiving given (reserve_wp request)
  | commit handle amount =>
    simp only [serve]
    split
    · exact given
    rename_i reservation found
    exact wp_receiving given (commit_wp amount (given (mem_of_getElem? found)))
  | release handle =>
    simp only [serve]
    split
    · exact given
    rename_i reservation found
    exact wp_returning given (release_wp false (given (mem_of_getElem? found)))
  | expire tenantId => exact wp_returning given (reapExpired_wp tenantId)
  | expireAll limit => exact wp_returning given (reapExpiredAll_wp limit)
  | consume request => exact wp_receiving given (consume_wp request)
  | lookup tenantId idempotencyKey =>
    simp only [serve, QuotaRepository.getReservation, wp_do, wp_asks, Permits, true_and]
    refine ⟨fun found => ?_, fun _ => given⟩
    cases found with
    | none => exact given
    | some reservation =>
      exact append_subset.mpr ⟨List.Subset.trans given (subset_cons_self _ _),
        cons_subset.mpr ⟨mem_cons_self, nil_subset _⟩⟩
  | releaseSubject tenantId subjectId =>
    exact wp_returning given (releaseSubject_wp tenantId subjectId)
  | releaseIdempotency tenantId idempotencyKey =>
    exact wp_returning given (releaseIdempotency_wp tenantId idempotencyKey)
  | replacePolicy tenantId policyId expectedRevision scope limits =>
    exact wp_returning given
      (replacePolicy_wp tenantId policyId expectedRevision scope limits)

theorem client_wp (requests : List QuotaRequest) (given : held ⊆ known.issued) :
  (service.client requests held).wp service.contract (fun _ _ => True) (fun _ _ => False)
    known := by
  induction requests generalizing held known with
  | nil => trivial
  | cons request rest ih =>
    rw [client, wp_bind, wp_catching]
    exact wp_mono (serve_wp given request) (fun _ _ kept => ih kept) fun _ _ kept => ih kept

def Genuine (repository : InMemoryQuotaRepository) (handle : ResourceReservation) : Prop :=
  ∃ stored, repository.reservations.get? (handle.tenantId, handle.reservationId) = some stored ∧
    stored.resource = handle.resource ∧ stored.createdAt = handle.createdAt

variable (service) in
/-- The repository agrees with its accounts and with what its clients were given. -/
structure Served (store : QuotaStore) (known : Nat → Holding) : Prop where
  balanced : store.repository.Balanced service.windowKey
  reservationIds : ∀ tenantId id, (store.repository.reservations.get? (tenantId, id)).isSome →
      ∃ drawn < store.generated, id = service.idGenerator "quota" drawn
  entryIds : ∀ tenantId id, (store.repository.ledger.get? (tenantId, id)).isSome →
    ∃ drawn < store.generated, id = service.idGenerator "usage" drawn
  drawn : ∀ client kind id, (known client).minted = some (kind, id) →
    ∃ drawn < store.generated, id = service.idGenerator kind drawn
  freshReservation : ∀ client id, (known client).minted = some ("quota", id) →
    ∀ tenantId, store.repository.reservations.get? (tenantId, id) = none
  freshEntry : ∀ client id, (known client).minted = some ("usage", id) →
    ∀ tenantId, store.repository.ledger.get? (tenantId, id) = none
  unshared : ∀ first second minted, first ≠ second → (known first).minted = some minted →
    (known second).minted ≠ some minted
  genuine : ∀ client handle, handle ∈ (known client).issued → Genuine store.repository handle

variable {store : QuotaStore} {known : Nat → Holding} {client : Nat}

section

variable (holds : Served service store known)

include holds

variable {later : Holding}

theorem Served.advance (balanced : repository.Balanced service.windowKey)
  (spent : later.minted = none)
  (reservations : ∀ tenantId id, (repository.reservations.get? (tenantId, id)).isSome →
    (store.repository.reservations.get? (tenantId, id)).isSome ∨
    (known client).minted = some ("quota", id))
  (entries : ∀ tenantId id, (repository.ledger.get? (tenantId, id)).isSome →
    (store.repository.ledger.get? (tenantId, id)).isSome ∨
    (known client).minted = some ("usage", id))
  (kept : ∀ handle, Genuine store.repository handle → Genuine repository handle)
  (granted : ∀ handle ∈ later.issued,
    handle ∈ (known client).issued ∨ Genuine repository handle) :
  Served service { store with repository }
    (update known client later) := by
  have others : ∀ other minted, (update known client later other).minted = some minted →
    other ≠ client ∧ (known other).minted = some minted := by
    intro other minted holdsIt
    by_cases same : other = client
    · subst other
      rw [update_self, spent] at holdsIt
      cases holdsIt
    rw [update_of_ne same] at holdsIt
    exact ⟨same, holdsIt⟩
  constructor
  · exact balanced
  · intro tenantId id present
    rcases reservations tenantId id present with before | minted
    · exact holds.reservationIds tenantId id before
    exact holds.drawn client "quota" id minted
  · intro tenantId id present
    rcases entries tenantId id present with before | minted
    · exact holds.entryIds tenantId id before
    exact holds.drawn client "usage" id minted
  · intro other kind id minted
    exact holds.drawn other kind id (others other _ minted).2
  · intro other id minted tenantId
    obtain ⟨distinct, before⟩ := others other _ minted
    by_contra present
    rcases reservations tenantId id (isSome_iff_ne_none.mpr present) with stored | own
    · rw [holds.freshReservation other id before tenantId] at stored
      cases stored
    exact holds.unshared client other _ distinct.symm own before
  · intro other id minted tenantId
    obtain ⟨distinct, before⟩ := others other _ minted
    by_contra present
    rcases entries tenantId id (isSome_iff_ne_none.mpr present) with stored | own
    · rw [holds.freshEntry other id before tenantId] at stored
      cases stored
    exact holds.unshared client other _ distinct.symm own before
  · intro first second minted distinct own other
    exact holds.unshared first second minted distinct (others first _ own).2
      (others second _ other).2
  intro other handle held
  by_cases same : other = client
  · subst other
    rw [update_self] at held
    rcases granted handle held with before | genuine
    · exact kept handle (holds.genuine _ handle before)
    exact genuine
  rw [update_of_ne same] at held
  exact kept handle (holds.genuine other handle held)

theorem Served.read (spent : later.minted = none) (granted : ∀ handle ∈ later.issued,
    handle ∈ (known client).issued ∨ Genuine store.repository handle) :
  Served service store (update known client later) :=
  holds.advance holds.balanced spent (fun _ _ present => .inl present)
    (fun _ _ present => .inl present) (fun _ => id) granted

theorem Served.generate (kind : String) :
  Served service { store with generated := store.generated + 1 }
    (update known client
      { minted := some (kind, service.idGenerator kind store.generated)
        issued := (known client).issued }) := by
  have earlier : ∀ {kind id : String},
    (∃ drawn < store.generated, id = service.idGenerator kind drawn) →
      id ≠ service.idGenerator kind store.generated := by
    rintro kind id ⟨drawn, before, rfl⟩ same
    exact absurd (service.distinctIds kind same) (Nat.ne_of_lt before)
  have longer : ∀ {kind id : String},
    (∃ drawn < store.generated, id = service.idGenerator kind drawn) →
      ∃ drawn < store.generated + 1, id = service.idGenerator kind drawn :=
    fun ⟨drawn, before, same⟩ => ⟨drawn, Nat.lt_succ_of_lt before, same⟩
  have holder : ∀ other minted, (update known client
        { minted := some (kind, service.idGenerator kind store.generated)
          issued := (known client).issued } other).minted = some minted →
      other = client ∧ minted = (kind, service.idGenerator kind store.generated) ∨
        other ≠ client ∧ (known other).minted = some minted := by
    intro other minted holdsIt
    by_cases same : other = client
    · subst other
      rw [update_self] at holdsIt
      exact .inl ⟨rfl, (some.inj holdsIt).symm⟩
    rw [update_of_ne same] at holdsIt
    exact .inr ⟨same, holdsIt⟩
  constructor
  · exact holds.balanced
  · exact fun tenantId id present => longer (holds.reservationIds tenantId id present)
  · exact fun tenantId id present => longer (holds.entryIds tenantId id present)
  · intro other otherKind id minted
    rcases holder other _ minted with ⟨_, own⟩ | ⟨_, before⟩
    · cases own
      exact ⟨store.generated, Nat.lt_succ_self _, rfl⟩
    exact longer (holds.drawn other otherKind id before)
  · intro other id minted tenantId
    rcases holder other _ minted with ⟨_, own⟩ | ⟨_, before⟩
    · cases own
      by_contra present
      exact earlier (holds.reservationIds tenantId _ (isSome_iff_ne_none.mpr present)) rfl
    exact holds.freshReservation other id before tenantId
  · intro other id minted tenantId
    rcases holder other _ minted with ⟨_, own⟩ | ⟨_, before⟩
    · cases own
      by_contra present
      exact earlier (holds.entryIds tenantId _ (isSome_iff_ne_none.mpr present)) rfl
    exact holds.freshEntry other id before tenantId
  · intro first second minted distinct own other
    rcases holder first _ own with ⟨rfl, fresh⟩ | ⟨_, firstBefore⟩ <;>
      rcases holder second _ other with ⟨rfl, again⟩ | ⟨_, secondBefore⟩
    · exact distinct rfl
    · subst minted
      exact earlier (holds.drawn second _ _ secondBefore) rfl
    · subst minted
      exact earlier (holds.drawn first _ _ firstBefore) rfl
    exact holds.unshared first second minted distinct firstBefore secondBefore
  intro other handle held
  by_cases same : other = client
  · subst other
    rw [update_self] at held
    exact holds.genuine _ handle held
  rw [update_of_ne same] at held
  exact holds.genuine other handle held

theorem Served.window_of (issued : service.WindowOf (known client) tenantId id windowKey) :
  ∀ reservation, store.repository.reservations.get? (tenantId, id) = some reservation →
    windowKey = service.windowKey reservation.resource reservation.createdAt := by
  intro reservation found
  obtain ⟨handle, held, tenantEq, idEq, windowed⟩ := issued
  obtain ⟨stored, kept, sameResource, sameInstant⟩ := holds.genuine client handle held
  rw [tenantEq, idEq, found] at kept
  cases kept
  rw [windowed, sameResource, sameInstant]

end

theorem genuine_stored (balanced : repository.Balanced service.windowKey)
  (found : repository.reservations.get? (tenantId, id) = some reservation) :
  Genuine repository reservation := by
  obtain ⟨tenantEq, idEq⟩ := balanced.filed tenantId id reservation found
  exact ⟨reservation, by rw [tenantEq, idEq]; exact found, rfl, rfl⟩

theorem granted_cons {issued : List ResourceReservation}
  (balanced : repository.Balanced service.windowKey)
  (found : repository.reservations.get? (tenantId, id) = some reservation) :
  ∀ handle ∈ reservation :: issued, handle ∈ issued ∨ Genuine repository handle := by
  intro handle held
  rcases mem_cons.mp held with rfl | before
  · exact .inr (genuine_stored balanced found)
  exact .inl before

theorem genuine_set {later : InMemoryQuotaRepository} {stored : String × String}
  {handle : ResourceReservation}
  (filed : later.reservations = repository.reservations.set stored reservation)
  (same : ∀ before, repository.reservations.get? stored = some before →
    reservation.resource = before.resource ∧ reservation.createdAt = before.createdAt)
  (genuine : Genuine repository handle) : Genuine later handle := by
  obtain ⟨before, found, sameResource, sameInstant⟩ := genuine
  by_cases here : (handle.tenantId, handle.reservationId) = stored
  · subst stored
    obtain ⟨resource, instant⟩ := same before found
    exact ⟨reservation, by rw [filed, get?_set_self], resource.trans sameResource,
      instant.trans sameInstant⟩
  exact ⟨before, by rw [filed, get?_set_other _ _ here]; exact found, sameResource, sameInstant⟩

variable {stored key : String × String} {Value : Type}

theorem isSome_set {dict : Dict (String × String) Value} {value : Value}
  (present : ((dict.set stored value).get? key).isSome) :
  key = stored ∨ (dict.get? key).isSome := by
  rw [get?_set] at present
  split at present
  · exact .inl ‹_›
  exact .inr present

theorem isSome_replace {dict : Dict (String × String) Value}
  {value before : Value} (found : dict.get? stored = some before)
  (present : ((dict.set stored value).get? key).isSome) : (dict.get? key).isSome := by
  rcases isSome_set present with rfl | already
  · rw [found]
    rfl
  exact already

section

variable (holds : Served service store known)

include holds

theorem Served.reserve
  (permitted : service.Permits (known client) (.reserve reservation windowKey)) :
  Served service
    { store with repository := (store.repository.reserve reservation windowKey).2 }
    (update known client ((known client).after (.reserve reservation windowKey)
    (store.repository.reserve reservation windowKey).1)) := by
  obtain ⟨minted, active, positive, distinct, windowed⟩ := permitted
  have fresh := holds.freshReservation client _ minted reservation.tenantId
  have balanced := reserve_balanced holds.balanced fresh active positive
    distinct windowed
  rcases reserve_cases store.repository reservation windowKey with
    ⟨_, refused⟩ | ⟨_, existing, _, found, replayed⟩ | ⟨_, admitted⟩
  · rw [refused]
    exact holds.read rfl fun _ held => .inl held
  · rw [replayed]
    exact holds.read rfl (granted_cons holds.balanced found)
  rw [admitted] at balanced ⊢
  refine holds.advance balanced rfl (fun tenantId id present => ?_)
    (fun _ _ present => .inl present)
    (fun handle => genuine_set rfl (fun before found => by
      rw [fresh] at found
      cases found)) (granted_cons balanced (get?_set_self _ _ _))
  · rcases isSome_set present with here | before
    · rw [(Prod.mk.inj here).2]
      exact .inr minted
    exact .inl before

theorem Served.commit {amount : Int} {ledger : UsageLedgerEntry}
  (permitted : service.Permits (known client) (.commit tenantId id amount windowKey ledger)) :
  Served service
    { store with
      repository := (store.repository.commit tenantId id amount windowKey ledger).2 }
    (update known client ((known client).after (.commit tenantId id amount windowKey ledger)
        (store.repository.commit tenantId id amount windowKey ledger).1)) := by
  obtain ⟨minted, names, charges, issued⟩ := permitted
  have windowed := holds.window_of issued
  have fresh := holds.freshEntry client _ minted tenantId
  have balanced := commit_balanced holds.balanced windowed fresh names
    charges
  rcases commit_cases amount ledger holds.balanced windowed with
    ⟨_, refused⟩ | ⟨reservation, found, repeated⟩ |
    ⟨reservation, counters, found, _, _, _, committed⟩
  · rw [refused]
    exact holds.read rfl fun _ held => .inl held
  · rw [repeated]
    exact holds.read rfl (granted_cons holds.balanced found)
  rw [committed] at balanced ⊢
  refine holds.advance balanced rfl (fun _ _ present => .inl (isSome_replace found present))
    (fun other otherId present => ?_)
    (fun handle => genuine_set rfl (fun before stored => by
      rw [found] at stored
      cases stored
      exact ⟨rfl, rfl⟩)) (granted_cons balanced (get?_set_self _ _ _))
  rcases isSome_set present with here | before
  · rw [(Prod.mk.inj here).2]
    exact .inr minted
  exact .inl before

theorem Served.release {state : ReservationState}
  (permitted : service.Permits (known client) (.release tenantId id state windowKey)) :
  Served service
    { store with repository := (store.repository.release tenantId id state windowKey).2 }
    (update known client ((known client).after (.release tenantId id state windowKey)
    (store.repository.release tenantId id state windowKey).1)) := by
  have windowed := holds.window_of permitted
  have balanced := release_balanced state holds.balanced windowed
  rcases release_cases state holds.balanced windowed with
    ⟨_, refused⟩ | ⟨reservation, found, repeated⟩ |
    ⟨reservation, counters, found, _, _, _, released⟩
  · rw [refused]
    exact holds.read rfl fun _ held => .inl held
  · rw [repeated]
    exact holds.read rfl (granted_cons holds.balanced found)
  rw [released] at balanced ⊢
  exact holds.advance balanced rfl (fun _ _ present => .inl (isSome_replace found present))
    (fun _ _ present => .inl present)
    (fun handle => genuine_set rfl (fun before stored => by
      rw [found] at stored
      cases stored
      exact ⟨rfl, rfl⟩)) (granted_cons balanced (get?_set_self _ _ _))

theorem Served.addLedger {entry : UsageLedgerEntry}
  (permitted : service.Permits (known client) (.addLedger entry)) :
  Served service { store with repository := store.repository.addLedger entry }
    (update known client ((known client).after (.addLedger entry) (.ok ()))) := by
  obtain ⟨minted, uncharged⟩ := permitted
  have balanced := addLedger_balanced holds.balanced uncharged
  have fresh := holds.freshEntry client _ minted entry.tenantId
  have filed : store.repository.addLedger entry =
      { store.repository with
        ledger := store.repository.ledger.set (entry.tenantId, entry.entryId) entry } := by
    simp [InMemoryQuotaRepository.addLedger, Dict.setDefault, fresh]
  rw [filed] at balanced ⊢
  refine holds.advance balanced rfl (fun _ _ present => .inl present)
    (fun tenantId id present => ?_) (fun _ => id) fun _ held => .inl held
  rcases isSome_set present with here | before
  · rw [(Prod.mk.inj here).2]
    exact .inr minted
  exact .inl before

end

variable (service) in
theorem component_adheres :
  Pool.Adheres service.component (fun _ => service.contract) (Served service)
    (fun _ _ _ _ => True) := by
  intro store known client op now holds _ permitted
  refine ⟨_, rfl, ?_⟩
  cases op with
  | clock => exact holds.read rfl fun _ held => .inl held
  | generateId kind => exact holds.generate kind
  | listPolicies tenantId => exact holds.read rfl fun _ held => .inl held
  | replacePolicy policy expectedRevision =>
    rcases replacePolicy_cases store.repository policy
      expectedRevision with ⟨error, refused⟩ | replaced
    · simp only [component, respond, refused]
      exact holds.read rfl fun _ held => .inl held
    simp only [component, respond, replaced]
    exact holds.advance { holds.balanced with } rfl (fun _ _ present => .inl present)
      (fun _ _ present => .inl present) (fun _ => id)
      (fun _ held => .inl held)
  | reserve reservation windowKey => exact holds.reserve permitted
  | getReservation tenantId idempotencyKey =>
    refine holds.read rfl fun handle held => ?_
    rcases mem_append.mp held with granted | before
    · obtain ⟨id, found⟩ := getReservation_stored
        (mem_toList.mp granted)
      exact .inr (genuine_stored holds.balanced found)
    exact .inl before
  | commit tenantId id amount windowKey ledger => exact holds.commit permitted
  | release tenantId id state windowKey => exact holds.release permitted
  | addLedger entry => exact holds.addLedger permitted
  | listActiveReservations tenantId =>
    refine holds.read rfl fun handle held => ?_
    rcases mem_append.mp held with granted | before
    · obtain ⟨id, found⟩ := mem_listActiveReservations granted
      exact .inr (genuine_stored holds.balanced found)
    exact .inl before
  | listExpiredActive now limit =>
    refine holds.read rfl fun handle held => ?_
    rcases mem_append.mp held with granted | before
    · obtain ⟨stored, found⟩ := mem_listExpiredActive granted
      exact .inr (genuine_stored holds.balanced found)
    exact .inl before

variable (service) in
theorem pool_ready (requests : Nat → List QuotaRequest) :
  (service.pool requests).Ready (fun _ => service.contract) (Served service)
    (fun _ _ _ => True) (fun _ _ _ => False) (fun _ => {}) := by
  refine ⟨?_, fun client => client_wp (requests client) (nil_subset _)⟩
  constructor
  · exact balanced_empty service.windowKey
  · intro _ _ impossible; cases impossible
  · intro _ _ impossible; cases impossible
  · intro _ _ _ impossible; cases impossible
  · intro _ _ impossible; cases impossible
  · intro _ _ impossible; cases impossible
  · intro _ _ _ _ impossible; cases impossible
  intro _ _ impossible; cases impossible

theorem Served.refused {op : QuotaOp} {now : Int} {error : QuotaError}
  (holds : Served service store known) (permitted : service.Permits (known client) op)
  (refused : (service.respond now store op).1 = .error error) :
  (service.respond now store op).2.repository = store.repository := by
  cases op with
  | reserve reservation windowKey =>
    simp only [respond] at refused ⊢
    rcases reserve_cases store.repository reservation windowKey with
      ⟨_, same⟩ | ⟨_, _, _, _, same⟩ | ⟨_, same⟩
    · rw [same]
    · rw [same]
    rw [same] at refused
    cases refused
  | commit tenantId id amount windowKey ledger =>
    simp only [respond] at refused ⊢
    rcases commit_cases amount ledger holds.balanced
      (holds.window_of permitted.2.2.2) with
      ⟨_, same⟩ | ⟨_, _, same⟩ | ⟨_, _, _, _, _, _, same⟩
    · rw [same]
    · rw [same]
    rw [same] at refused
    cases refused
  | release tenantId id state windowKey =>
    simp only [respond] at refused ⊢
    rcases release_cases state holds.balanced
      (holds.window_of permitted) with
      ⟨_, same⟩ | ⟨_, _, same⟩ | ⟨_, _, _, _, _, _, same⟩
    · rw [same]
    · rw [same]
    rw [same] at refused
    cases refused
  | replacePolicy policy expectedRevision =>
    simp only [respond] at refused ⊢
    rcases replacePolicy_cases store.repository policy
      expectedRevision with ⟨_, same⟩ | same
    · rw [same]
    rw [same] at refused
    cases refused
  | clock | generateId _ | listPolicies _ | getReservation _ _ | addLedger _
  | listActiveReservations _ | listExpiredActive _ _ => cases refused

/-- Every counter equals what its window holds, in every state that any clients reach;
a call that raises changes nothing, and an admitted reservation leaves each of its
counters within the limit it was checked against. -/
theorem counters_conserved (service : QuotaService) (requests : Nat → List QuotaRequest)
  (schedule : List (Nat × Int)) :
  let reached := (service.pool requests).run service.component schedule
  (∀ key, balance reached.state.repository.counters key =
      (reached.state.repository.activeAmount service.windowKey key,
        reached.state.repository.committedAmount service.windowKey key) ∧
    0 ≤ (balance reached.state.repository.counters key).1 ∧
    0 ≤ (balance reached.state.repository.counters key).2) ∧
  (∀ client now op next error, reached.thread client = .call op next →
    (service.respond now reached.state op).1 = .error error →
      (service.respond now reached.state op).2.repository = reached.state.repository) ∧
  ∀ client now reservation windowKey next granted,
    reached.thread client = .call (.reserve reservation windowKey) next →
    let reply := service.respond now reached.state (.reserve reservation windowKey)
    reply.1 = .ok granted → (reached.state.repository.getReservation reservation.tenantId
          reservation.idempotencyKey = some granted ∧
        reply.2.repository = reached.state.repository) ∨
      (granted = reservation ∧ ∀ constraint ∈ reservation.constraints,
        let counter := balance reply.2.repository.counters
          (counterKey reservation.tenantId reservation.resource windowKey constraint.scopeKey)
        counter.1 + counter.2 ≤ constraint.limit) := by
  intro reached
  obtain ⟨known, holds, threads⟩ := Pool.run_ready (component_adheres service)
    (pool_ready service requests) schedule (Pool.along_of_forall (fun _ _ _ _ => trivial) _ _)
  have permitted : ∀ client op next, reached.thread client = .call op next →
    service.Permits (known client) op := by
    intro client op next calls
    have own := threads client
    rw [calls] at own
    exact own.1
  refine ⟨fun key => ⟨holds.balanced.balanced key, holds.balanced.nonneg key⟩, ?_, ?_⟩
  · intro client now op next error calls refused
    exact holds.refused (permitted client op next calls) refused
  intro client now reservation windowKey next granted calls reply answered
  obtain ⟨_, _, _, distinct, _⟩ := permitted client _ next calls
  simp only [reply, respond] at answered ⊢
  rcases reserve_cases reached.state.repository reservation
    windowKey with ⟨_, refused⟩ | ⟨id, existing, repeated, found, same⟩ | ⟨room, admitted⟩
  · rw [refused] at answered
    cases answered
  · rw [same] at answered ⊢
    cases answered
    exact .inl ⟨by simp only [InMemoryQuotaRepository.getReservation, repeated, found], rfl⟩
  rw [admitted] at answered ⊢
  cases answered
  exact .inr ⟨rfl, fun constraint member => reserve_within_limit distinct room constraint member⟩

end QuotaService

end AgentHarness.Quota
