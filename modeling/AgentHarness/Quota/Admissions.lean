import AgentHarness.Quota.Compensation
import AgentHarness.Collections.Mapping

/-!
The two admissions of a Run, and the stores on which they do what they are for.
-/

namespace AgentHarness.Quota

open Collections Interaction Program InMemoryQuotaRepository Dict List AdmissionRequest

namespace QuotaService

variable (service : QuotaService)

def Covers (session : QuotaSession) (request : ReserveRequest) : Prop :=
  ∃ reservation, session.repository.getReservation request.tenantId request.idempotencyKey =
        some reservation ∧
      reservation.resource = request.resource ∧ request.amount ≤ reservation.amount ∧
      reservation.state = .active ∧
      ∀ key, reservation.AccountedIn service.windowKey key →
        reservation.amount ≤ (balance session.repository.counters key).1

def Restores (start later : QuotaSession) : Prop :=
  (∀ stored reservation, later.repository.reservations.get? stored = some reservation →
    reservation.state = .active → start.repository.reservations.get? stored = some reservation) ∧
  ∀ key, balance later.repository.counters key = balance start.repository.counters key

def Admits (start : QuotaSession) (request : AdmissionRequest)
  (ran : Except QuotaError (List ResourceReservation) × QuotaSession) : Prop :=
  match ran with
  | (.ok _, later) => ∀ asked ∈ request.requested,
      ∃ reserving, asked = .ok reserving ∧ service.Covers later reserving
  | (.error _, later) => Restores start later

/-- The requests that `admit_run` has accepted when it stops, and whether one was refused. -/
def accepted (service : QuotaService) (session : QuotaSession) (calls : Nat) :
    List (Except QuotaError ReserveRequest) → List ReserveRequest × Bool
  | [] => ([], false)
  | .error _ :: _ => ([], true)
  | .ok request :: rest =>
    match (service.runs (service.reserve request) (session.skip calls)).1 with
    | .error _ => ([], true)
    | .ok _ =>
      (request :: (service.accepted session (calls + 1) rest).1,
        (service.accepted session (calls + 1) rest).2)

def taken (start : QuotaSession) (requests : List ReserveRequest) : List ResourceReservation :=
  requests.filterMap fun request =>
    start.repository.getReservation request.tenantId request.idempotencyKey

/-- What `admit_run` passes over is active if it goes through, and closed if it is refused. -/
def AdmitRunFits (start : QuotaSession) (request : AdmissionRequest) : Prop :=
  match service.accepted start 0 request.requested with
  | (requests, false) => ∀ existing ∈ taken start requests, existing.state = .active
  | (requests, true) => ∀ existing ∈ taken start requests, existing.state ≠ .active

/-- Whether `ensure_run_admitted` is refused. -/
def refuses (service : QuotaService) (session : QuotaSession) (calls : Nat) :
    List ReserveRequest → Bool
  | [] => false
  | request :: rest =>
    match session.repository.getReservation request.tenantId request.idempotencyKey with
    | some _ => service.refuses session calls rest
    | none =>
      match (service.runs (service.reserve request) (session.skip calls)).1 with
      | .error _ => true
      | .ok _ => service.refuses session (calls + 1) rest

/-- What `ensure_run_admitted` passes over, if it goes through, is active and large enough. -/
def EnsureRunAdmittedFits (start : QuotaSession) (request : AdmissionRequest) : Prop :=
  match request.requested.mapM id with
  | .error _ => True
  | .ok requests => service.refuses start 0 requests = false → ∀ asked ∈ requests, ∀ existing,
        start.repository.getReservation asked.tenantId asked.idempotencyKey = some existing →
          existing.resource = asked.resource ∧ asked.amount ≤ existing.amount ∧
            existing.state = .active

instance (service : QuotaService) (start : QuotaSession) (request : AdmissionRequest) :
  Decidable (service.AdmitRunFits start request) :=
  match told : service.accepted start 0 request.requested with
  | (requests, false) =>
    decidable_of_iff (∀ existing ∈ taken start requests, existing.state = .active)
      (by unfold AdmitRunFits; rw [told])
  | (requests, true) =>
    decidable_of_iff (∀ existing ∈ taken start requests, existing.state ≠ .active)
      (by unfold AdmitRunFits; rw [told])

instance (service : QuotaService) (start : QuotaSession) (request : AdmissionRequest) :
  Decidable (service.EnsureRunAdmittedFits start request) :=
  match all : request.requested.mapM id with
  | .error _ => isTrue (by unfold EnsureRunAdmittedFits; rw [all]; trivial)
  | .ok requests =>
    decidable_of_iff (service.refuses start 0 requests = false → ∀ asked ∈ requests,
        ∀ existing ∈ start.repository.getReservation asked.tenantId asked.idempotencyKey,
          existing.resource = asked.resource ∧ asked.amount ≤ existing.amount ∧
            existing.state = .active)
      (by unfold EnsureRunAdmittedFits; rw [all]; rfl)

section

def Separate (first second : ReserveRequest) : Prop :=
  (first.tenantId, first.idempotencyKey) ≠ (second.tenantId, second.idempotencyKey) ∧
    first.resource ≠ second.resource

def asks (asked : List (Except QuotaError ReserveRequest)) : List ReserveRequest :=
  asked.filterMap Except.toOption

theorem key_ne {request : AdmissionRequest} {first second : String} (distinct : first ≠ second) :
  request.idempotencyKey first ≠ request.idempotencyKey second := by
  intro same
  apply distinct
  have letters := congrArg String.toList same
  simp only [idempotencyKey, String.toList_append, append_cancel_left_eq] at letters
  exact String.toList_inj.mp letters

theorem asks_separate (request : AdmissionRequest) :
  (asks request.requested).Pairwise Separate := by
  have apart : ∀ {resource other : QuotaResource} {amount second : Int} {purpose name : String},
    purpose ≠ name → resource ≠ other → Separate (request.reservation resource amount purpose)
      (request.reservation other second name) := by
    intro resource other amount second purpose name keys resources
    refine ⟨fun same => key_ne keys (Prod.mk.inj same).2, resources⟩
  have cost := @apart .concurrentRuns .modelCostMicroUsd 1
  have tokens := @apart .concurrentRuns .modelTokens 1
  have both := @apart .modelCostMicroUsd .modelTokens
  unfold asks requested
  cases request.maxBudgetUsd with
  | none =>
    cases request.maxModelTokens with
    | none => simp [Except.toOption]
    | some limit => simp [Except.toOption, tokens]
  | some budget =>
    cases priced : microUsd budget with
    | error error =>
      cases request.maxModelTokens with
      | none => simp [Except.toOption, Except.map, priced, filterMap_cons]
      | some limit => simp [Except.toOption, Except.map, priced, filterMap_cons, tokens]
    | ok amount =>
      cases request.maxModelTokens with
      | none => simp [Except.toOption, Except.map, priced, cost]
      | some limit => simp [Except.toOption, Except.map, priced, cost, tokens, both]

theorem apart_of_separate {served : List ReserveRequest} {request : ReserveRequest}
  {rest : List ReserveRequest}
  (separate : (served ++ request :: rest).Pairwise Separate) : Apart served request := by
  have across := (pairwise_append.mp separate).2.2
  exact ⟨fun other member => (across other member request mem_cons_self).1,
    fun other member => (across other member request mem_cons_self).2⟩

end

section

variable {service : QuotaService} {start later : QuotaSession} {calls : Nat}
  {made given : List ResourceReservation} {served : List ReserveRequest} {request : ReserveRequest}
  {existing reservation : ResourceReservation}

/-- What `admit_run` has been given when it has served some of its requests. -/
structure Admitted (service : QuotaService) (start later : QuotaSession) (calls : Nat)
    (made : List ResourceReservation) (served : List ReserveRequest)
    (given : List ResourceReservation) : Prop where
  progress : Progress service start later calls made served
  fits : ∀ request ∈ served, ∀ existing,
    start.repository.getReservation request.tenantId request.idempotencyKey = some existing →
      existing.resource = request.resource ∧ existing.amount = request.amount ∧
        existing.constraints ≠ []
  stored : Stored later given
  resources : ∀ handle ∈ given, ∃ request ∈ served, handle.resource = request.resource
  includes : ∀ handle ∈ made, handle ∈ given
  held : ∀ key, service.heldBy (actives given) key =
    service.heldBy made key + service.heldBy (actives (taken start served)) key

theorem admitted_start (sound : service.Sound start) : Admitted service start start 0 [] [] [] where
  progress := progress_start sound
  fits _ member := nomatch member
  stored := ⟨fun _ member => (nomatch member), nodup_nil⟩
  resources _ member := nomatch member
  includes _ member := nomatch member
  held _ := rfl

theorem actives_append (first second : List ResourceReservation) :
  actives (first ++ second) = actives first ++ actives second := filter_append _ _

theorem taken_append (start : QuotaSession) (first second : List ReserveRequest) :
  taken start (first ++ second) = taken start first ++ taken start second :=
  filterMap_append

theorem Stored.snoc {session : QuotaSession} {handle : ResourceReservation}
  (stored : Stored session given)
  (here : session.repository.reservations.get? (handle.tenantId, handle.reservationId) =
    some handle)
  (apart : ∀ other ∈ given, other.resource ≠ handle.resource) :
  Stored session (given ++ [handle]) where
  stored other member := by
    cases mem_append.mp member with
    | inl before => exact stored.stored other before
    | inr last =>
      rw [mem_singleton.mp last]
      exact here
  distinct := by
    rw [map_append, nodup_append]
    refine ⟨stored.distinct, nodup_singleton _, ?_⟩
    intro first member second last same
    obtain ⟨other, before, rfl⟩ := mem_map.mp member
    rw [map_singleton, mem_singleton] at last
    subst second
    have present := stored.stored other before
    have equal : (other.tenantId, other.reservationId) =
      (handle.tenantId, handle.reservationId) := same
    rw [equal, here] at present
    cases present
    exact apart handle before rfl

theorem Admitted.apart (admitted : Admitted service start later calls made served given)
  (apart : Apart served request) {handle : ResourceReservation} (member : handle ∈ given) :
  handle.resource ≠ request.resource := by
  obtain ⟨other, before, same⟩ := admitted.resources handle member
  rw [same]
  exact apart.resources other before

theorem Admitted.finds (admitted : Admitted service start later calls made served given)
  (apart : Apart served request)
  (stored : later.repository.getReservation request.tenantId request.idempotencyKey = some existing)
  (resource : existing.resource = request.resource) (amount : existing.amount = request.amount)
  (limited : existing.constraints ≠ []) :
  Admitted service start (later.skip 1) (calls + 1) made (served ++ [request])
    (given ++ [existing]) := by
  have before := admitted.progress.getReservation apart
  rw [stored] at before
  have found : taken start [request] = [existing] := by
    unfold taken
    rw [filterMap_cons, ← before]
    rfl
  have here : later.repository.reservations.get? (existing.tenantId, existing.reservationId) =
    some existing := by
    obtain ⟨id, present⟩ := getReservation_stored stored
    obtain ⟨tenant, named⟩ := admitted.progress.sound.balanced.filed _ _ existing present
    rw [tenant, named]
    exact present
  constructor
  · exact admitted.progress.skips.finds apart stored
  · intro other member known also
    cases mem_append.mp member with
    | inl earlier => exact admitted.fits other earlier known also
    | inr last =>
      rw [mem_singleton.mp last] at also ⊢
      cases before.trans also
      exact ⟨resource, amount, limited⟩
  · have kept : Stored (later.skip 1) given := admitted.stored.within rfl
    refine kept.snoc here ?_
    intro other member
    rw [resource]
    exact admitted.apart apart member
  · intro handle member
    cases mem_append.mp member with
    | inl earlier =>
      obtain ⟨other, served, same⟩ := admitted.resources handle earlier
      exact ⟨other, mem_append_left _ served, same⟩
    | inr last =>
      rw [mem_singleton.mp last]
      exact ⟨request, mem_append_right _ (mem_singleton_self _), resource⟩
  · intro handle member
    exact mem_append_left _ (admitted.includes handle member)
  intro key
  rw [actives_append, heldBy_append, admitted.held, taken_append, found, actives_append,
    heldBy_append, add_assoc]

theorem Admitted.makes (admitted : Admitted service start later calls made served given)
  (apart : Apart served request)
  (missing : later.repository.getReservation request.tenantId request.idempotencyKey = none)
  (sound : service.Sound ((later.skip 1).withRepository (admitting later.repository
    (service.drawn later request)
    (service.windowKey request.resource (later.readings later.ticks))))) :
  Admitted service start
    ((later.skip 1).withRepository (admitting later.repository (service.drawn later request)
    (service.windowKey request.resource (later.readings later.ticks))))
    (calls + 1) (made ++ [service.drawn later request]) (served ++ [request])
    (given ++ [service.drawn later request]) := by
  have progress := admitted.progress.makes apart missing sound
  have before := admitted.progress.getReservation apart
  rw [missing] at before
  have absent : taken start [request] = [] := by
    unfold taken
    rw [filterMap_cons, ← before]
    rfl
  have active : actives [service.drawn later request] = [service.drawn later request] := rfl
  have kept : Stored ((later.skip 1).withRepository (admitting later.repository
    (service.drawn later request)
    (service.windowKey request.resource (later.readings later.ticks)))) given := by
    refine ⟨?_, admitted.stored.distinct⟩
    intro handle member
    have present := admitted.stored.stored handle member
    have fresh := admitted.progress.sound.fresh request.tenantId
    refine (get?_set_other _ _ ?_).trans present
    intro same
    have equal : (handle.tenantId, handle.reservationId) =
      (request.tenantId, service.idGenerator "quota" later.store.generated) := same
    rw [equal, fresh] at present
    cases present
  constructor
  · exact progress
  · intro other member known also
    cases mem_append.mp member with
    | inl earlier => exact admitted.fits other earlier known also
    | inr last =>
      rw [mem_singleton.mp last] at also
      cases before.trans also
  · refine kept.snoc ?_ ?_
    · exact (progress.new _ (mem_append_right _ (mem_singleton_self _))).2.2
    intro other member
    exact admitted.apart apart member
  · intro handle member
    cases mem_append.mp member with
    | inl earlier =>
      obtain ⟨other, served, same⟩ := admitted.resources handle earlier
      exact ⟨other, mem_append_left _ served, same⟩
    | inr last =>
      rw [mem_singleton.mp last]
      exact ⟨request, mem_append_right _ (mem_singleton_self _), rfl⟩
  · intro handle member
    cases mem_append.mp member with
    | inl earlier => exact mem_append_left _ (admitted.includes handle earlier)
    | inr last => exact mem_append_right _ last
  intro key
  rw [actives_append, heldBy_append, admitted.held, taken_append, absent, append_nil,
    active, heldBy_append]
  omega

/-- The loop of `admit_run` has served every request, or stopped at one and released what it
had been given. -/
def AdmitEachEnds (service : QuotaService) (start : QuotaSession) (served : List ReserveRequest)
  (asked : List (Except QuotaError ReserveRequest)) (accepted : List ReserveRequest × Bool)
  (ran : Except QuotaError (List ResourceReservation) × QuotaSession) : Prop :=
  (∃ final calls made given, accepted.2 = false ∧ asked = accepted.1.map Except.ok ∧
      ran = (.ok given, final) ∧
      Admitted service start final calls made (served ++ accepted.1) given) ∨
    ∃ error last final calls made given, accepted.2 = true ∧ ran = (.error error, final) ∧
      Admitted service start last calls made (served ++ accepted.1) given ∧
      Released service last final given

theorem AdmitEachEnds.cons {rest : List (Except QuotaError ReserveRequest)}
  {accepted : List ReserveRequest × Bool}
  {ran : Except QuotaError (List ResourceReservation) × QuotaSession}
  (ends : AdmitEachEnds service start (served ++ [request]) rest accepted ran) :
  AdmitEachEnds service start served (.ok request :: rest)
    (request :: accepted.1, accepted.2) ran := by
  unfold AdmitEachEnds at ends ⊢
  rw [append_assoc] at ends
  cases ends with
  | inl through =>
    obtain ⟨final, calls, made, given, last, all, ran, admitted⟩ := through
    refine .inl ⟨final, calls, made, given, last, ?_, ran, admitted⟩
    rw [map_cons, ← all]
  | inr stopped => exact .inr stopped

theorem runs_asked (session : QuotaSession) :
  service.runs ((orRaise (.ok request)).bind service.reserve) session =
    service.runs (service.reserve request) session := rfl

theorem admitEach_runs (asked : List (Except QuotaError ReserveRequest))
  (admitted : Admitted service start later calls made served given)
  (separate : (served ++ asks asked).Pairwise Separate) :
  AdmitEachEnds service start served asked (service.accepted start calls asked)
    (service.runs (service.admitEach given asked) later) := by
  induction asked generalizing later calls made served given with
  | nil =>
    refine .inl ⟨later, calls, made, given, rfl, rfl, rfl, ?_⟩
    rw [accepted, append_nil]
    exact admitted
  | cons first rest ih =>
    cases first with
    | error error =>
      obtain ⟨final, ran, released⟩ := runs_releaseAndRaise given error
        admitted.progress.sound admitted.stored
      refine .inr ⟨error, later, final, calls, made, given, rfl, ?_, ?_, released⟩
      · rw [admitEach, bind_eq, runs_bind, runs_tried]
        exact ran
      rw [accepted, append_nil]
      exact admitted
    | ok request =>
      have apart := apart_of_separate separate
      have next : ((served ++ [request]) ++ asks rest).Pairwise Separate := by
        rw [append_assoc]
        exact separate
      rw [accepted, ← admitted.progress.answer apart, admitEach, bind_eq, runs_bind,
        runs_tried, runs_asked]
      rcases admitted.progress.sound.reserve request with
        ⟨error, after, ran, same, sound⟩ |
        ⟨existing, stored, resource, amount, constraints, ran⟩ | ⟨missing, ran, sound⟩
      · rw [ran]
        obtain ⟨final, raises, released⟩ := runs_releaseAndRaise given error sound
          (admitted.stored.within same)
        refine .inr ⟨error, later, final, calls, made, given, rfl, raises, ?_, released.since same⟩
        rw [append_nil]
        exact admitted
      · have limited : existing.constraints ≠ [] := by
          rw [constraints]
          exact constraintsFor_ne_nil _ _
        rw [ran]
        exact (ih (admitted.finds apart stored resource amount limited) next).cons
      rw [ran]
      exact (ih (admitted.makes apart missing sound) next).cons

end

section

variable {service : QuotaService} {start later final : QuotaSession} {calls : Nat}
  {made given : List ResourceReservation} {served : List ReserveRequest} {request : ReserveRequest}
  {existing reservation : ResourceReservation}

theorem Sound.held (sound : service.Sound later) {stored : String × String}
  (present : later.repository.reservations.get? stored = some reservation)
  (active : reservation.state = .active) (key : CounterKey)
  (accounted : reservation.AccountedIn service.windowKey key) :
  reservation.amount ≤ (balance later.repository.counters key).1 := by
  rw [sound.balanced.balanced key]
  have weighs : activeWeight service.windowKey key stored reservation = reservation.amount := by
    unfold activeWeight
    rw [if_pos ⟨active, accounted⟩]
  rw [← weighs]
  refine le_total ?_ present
  intro other known filed
  have positive := sound.balanced.positive other known filed
  unfold activeWeight
  split <;> omega

section

variable (progress : Progress service start later calls made served)

include progress

theorem Progress.covers (member : request ∈ served) : service.Covers later request ↔ ∀ existing,
  start.repository.getReservation request.tenantId request.idempotencyKey = some existing →
  existing.resource = request.resource ∧ request.amount ≤ existing.amount ∧
  existing.state = .active := by
  obtain ⟨found, created⟩ := progress.found request member
  constructor
  · rintro ⟨reservation, stored, resource, amount, active, _⟩ existing present
    cases stored.symm.trans (found existing present)
    exact ⟨resource, amount, active⟩
  intro fits
  cases present : start.repository.getReservation request.tenantId request.idempotencyKey with
  | some existing =>
    obtain ⟨resource, amount, active⟩ := fits existing present
    have stored := found existing present
    obtain ⟨id, filed⟩ := getReservation_stored stored
    exact ⟨existing, stored, resource, amount, active, progress.sound.held filed active⟩
  | none =>
    obtain ⟨reservation, member, resource, amount, stored⟩ := created present
    obtain ⟨active, _, filed⟩ := progress.new reservation member
    exact ⟨reservation, stored, resource, amount.ge, active, progress.sound.held filed active⟩

theorem Progress.leaves (released : Released service later final given)
  (includes : ∀ handle ∈ made, handle ∈ given) {stored : String × String}
  (present : final.repository.reservations.get? stored = some reservation)
  (active : reservation.state = .active) :
  start.repository.reservations.get? stored = some reservation := by
  have elsewhere : ∀ handle ∈ given, stored ≠ (handle.tenantId, handle.reservationId) := by
    rintro handle member rfl
    exact released.closed handle member reservation present active
  rw [released.kept stored elsewhere] at present
  cases progress.only stored reservation present with
  | inl before => exact before
  | inr new => exact absurd new.2 (elsewhere reservation (includes reservation new.1))

theorem actives_made : actives made = made := by
  refine filter_eq_self.mpr ?_
  intro handle member
  exact decide_eq_true (progress.new handle member).1

end

theorem heldBy_actives (service : QuotaService) (handles : List ResourceReservation)
  (positive : ∀ handle ∈ handles, 1 ≤ handle.amount)
  (limited : ∀ handle ∈ handles, handle.constraints ≠ []) :
  (∀ key, 0 ≤ service.heldBy (actives handles) key) ∧
    ((∀ key, service.heldBy (actives handles) key = 0) ↔
    ∀ handle ∈ handles, handle.state ≠ .active) := by
  induction handles with
  | nil => simp [actives]
  | cons handle rest ih =>
    obtain ⟨nonneg, vanishes⟩ := ih (fun other member => positive other (.tail _ member))
      (fun other member => limited other (.tail _ member))
    have long := positive handle mem_cons_self
    rw [forall_mem_cons, actives_cons]
    by_cases active : handle.state = .active
    · rw [if_pos active]
      have more : ∀ key, 0 ≤ service.heldBy (handle :: actives rest) key := by
        intro key
        have before := nonneg key
        rw [heldBy_cons]
        split <;> omega
      refine ⟨more, ?_, fun none => absurd active none.1⟩
      intro zero
      obtain ⟨constraint, others, listed⟩ := exists_cons_of_ne_nil (limited handle mem_cons_self)
      have accounted : handle.AccountedIn service.windowKey
        (counterKey handle.tenantId handle.resource
          (service.windowKey handle.resource handle.createdAt) constraint.scopeKey) := by
        refine touches_counterKey.mpr ?_
        unfold ResourceReservation.scopeKeys
        rw [listed]
        exact mem_cons_self
      have here := zero (counterKey handle.tenantId handle.resource
        (service.windowKey handle.resource handle.createdAt) constraint.scopeKey)
      have before := nonneg (counterKey handle.tenantId handle.resource
        (service.windowKey handle.resource handle.createdAt) constraint.scopeKey)
      rw [heldBy_cons, if_pos accounted] at here
      omega
    rw [if_neg active]
    exact ⟨nonneg, vanishes.trans ⟨fun none => ⟨active, none⟩, And.right⟩⟩

theorem Admitted.restores (admitted : Admitted service start later calls made served given)
  (released : Released service later final given) :
  Restores start final ↔ ∀ existing ∈ taken start served, existing.state ≠ .active := by
  have positive : ∀ existing ∈ taken start served, 1 ≤ existing.amount := by
    intro existing member
    obtain ⟨request, _, found⟩ := mem_filterMap.mp member
    obtain ⟨id, filed⟩ := getReservation_stored found
    exact admitted.progress.begun.balanced.positive _ existing filed
  have limited : ∀ existing ∈ taken start served, existing.constraints ≠ [] := by
    intro existing member
    obtain ⟨request, before, found⟩ := mem_filterMap.mp member
    exact (admitted.fits request before existing found).2.2
  have held : ∀ key, (balance final.repository.counters key).1 =
    (balance start.repository.counters key).1 -
      service.heldBy (actives (taken start served)) key := by
    intro key
    have gives := released.reserved key
    rw [admitted.held, admitted.progress.reserved] at gives
    omega
  rw [← (heldBy_actives service (taken start served) positive limited).2]
  constructor
  · intro restores key
    have gives := held key
    rw [restores.2 key] at gives
    omega
  intro nothing
  refine ⟨fun stored reservation present active =>
    admitted.progress.leaves released admitted.includes present active, ?_⟩
  intro key
  refine Prod.ext ?_ ?_
  · rw [held, nothing, sub_zero]
  rw [released.committed, admitted.progress.committed]

theorem Progress.restores (progress : Progress service start later calls made served)
  (released : Released service later final made) : Restores start final := by
  refine ⟨fun stored reservation present active =>
    progress.leaves released (fun _ => id) present active, ?_⟩
  intro key
  refine Prod.ext ?_ ?_
  · rw [released.reserved, actives_made progress, progress.reserved, add_sub_cancel_right]
  rw [released.committed, progress.committed]

theorem Admitted.covers (admitted : Admitted service start later calls made served given) :
  (∀ asked ∈ served.map Except.ok, ∃ reserving,
    asked = (.ok reserving : Except QuotaError ReserveRequest) ∧
    service.Covers later reserving) ↔
    ∀ existing ∈ taken start served, existing.state = .active := by
  constructor
  · intro covered existing member
    obtain ⟨request, before, found⟩ := mem_filterMap.mp member
    obtain ⟨reserving, same, covers⟩ := covered _ (mem_map_of_mem before)
    cases same
    exact ((admitted.progress.covers before).mp covers existing found).2.2
  intro active asked member
  obtain ⟨request, before, rfl⟩ := mem_map.mp member
  refine ⟨request, rfl, (admitted.progress.covers before).mpr ?_⟩
  intro existing found
  obtain ⟨resource, amount, _⟩ := admitted.fits request before existing found
  exact ⟨resource, amount.ge, active existing (mem_filterMap.mpr ⟨request, before, found⟩)⟩

theorem admitRun_admits_iff (sound : service.Sound start) (request : AdmissionRequest) :
  service.Admits start request (service.runs (service.admitRun request) start) ↔
    service.AdmitRunFits start request := by
  have ends := admitEach_runs request.requested (admitted_start sound) (asks_separate request)
  unfold admitRun AdmitRunFits
  cases told : service.accepted start 0 request.requested with
  | mk requests refused =>
    rw [told] at ends
    cases ends with
    | inl through =>
      obtain ⟨final, calls, made, given, last, all, ran, admitted⟩ := through
      subst last
      rw [ran]
      change (∀ asked ∈ request.requested, ∃ reserving, asked = .ok reserving ∧
        service.Covers final reserving) ↔ ∀ existing ∈ taken start requests, _
      rw [all]
      exact admitted.covers
    | inr stopped =>
      obtain ⟨error, later, final, calls, made, given, last, ran, admitted, released⟩ := stopped
      subst last
      rw [ran]
      exact admitted.restores released

theorem ensureEach_runs (asked : List ReserveRequest) (admitted : List ResourceReservation)
  (progress : Progress service start later calls made served)
  (separate : (served ++ asked).Pairwise Separate) :
  (∃ final laterCalls laterMade given, service.refuses start calls asked = false ∧
    service.runs (service.ensureEach admitted made asked) later = (.ok given, final) ∧
    Progress service start final laterCalls laterMade (served ++ asked)) ∨
  ∃ error final, service.refuses start calls asked = true ∧
    service.runs (service.ensureEach admitted made asked) later = (.error error, final) ∧
    Restores start final := by
  induction asked generalizing later calls made served admitted with
  | nil =>
    refine .inl ⟨later, calls, made, admitted, rfl, rfl, ?_⟩
    rw [append_nil]
    exact progress
  | cons request rest ih =>
    have apart := apart_of_separate separate
    have before := progress.getReservation apart
    have append : served ++ request :: rest = (served ++ [request]) ++ rest := by
      rw [append_assoc]
      rfl
    rw [append] at separate ⊢
    rw [refuses, ensureEach, bind_eq, runs_bind, runs_getReservation, before]
    cases found : start.repository.getReservation request.tenantId request.idempotencyKey with
    | some existing =>
      rw [found] at before
      exact ih (admitted ++ [existing]) (progress.finds apart before) separate
    | none =>
      rw [found] at before
      dsimp only
      rw [← progress.answer apart, bind_eq, runs_bind, runs_tried]
      rcases progress.sound.reserve request with
        ⟨error, after, ran, same, sound⟩ | ⟨existing, stored, _⟩ | ⟨_, ran, sound⟩
      · rw [ran]
        have stored : Stored after made := by
          refine Stored.within ⟨?_, progress.distinct⟩ same
          exact fun handle member => (progress.new handle member).2.2
        obtain ⟨final, raises, released⟩ := runs_releaseAndRaise made error sound stored
        exact .inr ⟨error, final, rfl, raises, progress.restores (released.since same)⟩
      · cases before.symm.trans stored
      rw [ran]
      exact ih _ (progress.makes apart before sound) separate

theorem asks_ok (requests : List ReserveRequest) : asks (requests.map Except.ok) = requests := by
  unfold asks
  rw [filterMap_map]
  exact filterMap_some

theorem ensureRunAdmitted_admits_iff (sound : service.Sound start) (request : AdmissionRequest) :
  service.Admits start request (service.runs (service.ensureRunAdmitted request) start) ↔
    service.EnsureRunAdmittedFits start request := by
  unfold ensureRunAdmitted EnsureRunAdmittedFits
  rw [bind_eq, runs_bind, runs_orRaise]
  cases all : request.requested.mapM id with
  | error error => exact iff_of_true ⟨fun _ _ present _ => present, fun _ => rfl⟩ trivial
  | ok requests =>
    have listed := (map_id _).symm.trans (map_of_mapM_ok all)
    have separate := asks_separate request
    rw [listed, asks_ok] at separate
    dsimp only
    rcases ensureEach_runs requests [] (progress_start sound) separate with
      ⟨final, calls, made, given, through, ran, progress⟩ | ⟨error, final, stopped, ran, restores⟩
    · rw [ran, through]
      change (∀ asked ∈ request.requested, ∃ reserving, asked = .ok reserving ∧
        service.Covers final reserving) ↔ _
      rw [listed, forall_mem_map]
      constructor
      · intro covered _ asked member
        obtain ⟨reserving, same, covers⟩ := covered asked member
        cases same
        exact (progress.covers member).mp covers
      intro fits asked member
      exact ⟨asked, rfl, (progress.covers member).mpr (fits rfl asked member)⟩
    rw [ran, stopped]
    exact iff_of_true restores fun refused => (nomatch refused)

end

theorem reached_sound (requests : Nat → List QuotaRequest) (schedule : List (Nat × Int))
  (readings : Nat → Int) :
  service.Sound
    { store := ((service.pool requests).run service.component schedule).state, readings } := by
  obtain ⟨known, served, _⟩ := Pool.run_ready (component_adheres service)
    (pool_ready service requests) schedule (Pool.along_of_forall (fun _ _ _ _ => trivial) _ _)
  exact ⟨served.balanced, served.reservationIds⟩

theorem admissions_admit_iff (service : QuotaService) (start : QuotaSession)
  (sound : service.Sound start) (request : AdmissionRequest) :
  (service.Admits start request (service.runs (service.admitRun request) start) ↔
    service.AdmitRunFits start request) ∧
    (service.Admits start request (service.runs (service.ensureRunAdmitted request) start) ↔
    service.EnsureRunAdmittedFits start request) :=
  ⟨admitRun_admits_iff sound request, ensureRunAdmitted_admits_iff sound request⟩

def plainIds : QuotaService where
  utcFormat _ _ := ""
  idGenerator kind drawn := kind ++ String.ofList (List.replicate drawn 'i')
  distinctIds kind first second same := by
    have letters := congrArg String.toList same
    simpa using congrArg List.length letters

def plainRun : AdmissionRequest where
  tenantId := "acme"
  runId := "r"
  agentName := "writer"
  ttlSeconds := 60

def reservesOnce : Nat → List QuotaRequest
  | 0 => [.reserve (plainRun.reservation .concurrentRuns 1 "concurrency"),
      .releaseSubject "acme" "r"]
  | _ => []

def reservedOnce (steps : Nat) : QuotaSession where
  store := ((plainIds.pool reservesOnce).run plainIds.component (List.replicate steps (0, 0))).state
  readings _ := 0

theorem admissions_admit_iff_empty : plainIds.Admits (reservedOnce 0) plainRun
  (plainIds.runs (plainIds.admitRun plainRun) (reservedOnce 0)) ∧
  plainIds.Admits (reservedOnce 0) plainRun
  (plainIds.runs (plainIds.ensureRunAdmitted plainRun) (reservedOnce 0)) := by
  have both := admissions_admit_iff plainIds (reservedOnce 0)
    (reached_sound plainIds reservesOnce _ _) plainRun
  exact ⟨both.1.mpr (by decide +kernel), both.2.mpr (by decide +kernel)⟩

/-- A released reservation counts as an admission, and a refused admission gives back the
reservation that it did not make. -/
theorem admissions_miss : ¬ plainIds.Admits (reservedOnce 6) plainRun
  (plainIds.runs (plainIds.admitRun plainRun) (reservedOnce 6)) ∧
  ¬ plainIds.Admits (reservedOnce 6) plainRun
  (plainIds.runs (plainIds.ensureRunAdmitted plainRun) (reservedOnce 6)) ∧
  ¬ plainIds.Admits (reservedOnce 4) { plainRun with maxModelTokens := some (10 ^ 15) }
  (plainIds.runs (plainIds.admitRun { plainRun with maxModelTokens := some (10 ^ 15) })
  (reservedOnce 4)) := by
  have sound : ∀ steps, plainIds.Sound (reservedOnce steps) := fun steps =>
    reached_sound plainIds reservesOnce _ _
  rw [admitRun_admits_iff (sound 6), ensureRunAdmitted_admits_iff (sound 6),
    admitRun_admits_iff (sound 4)]
  decide +kernel

end QuotaService

end AgentHarness.Quota
