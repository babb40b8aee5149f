import AgentHarness.Auth.Sessions
import AgentHarness.Auth.UserRecords

/-!
Read-modify-write calls over every interleaving.

A call takes effect when it saves, or when it reads what makes it raise.  If every save finds the
record that its call has read, these moments are an order in which the calls could have run one
after the other.
-/

namespace AgentHarness.Auth

open Collections Interaction Program Dict Function List UserRecords

inductive Progress where
  | fresh
  | member
  | reading (user : AuthUser)
  | settled (outcome : Except AuthError (Option AuthUser))

def Unwritten (records : UserRecords) (actor : Nat) : UserOp → Unit → Prop
  | .saveUser user, _ => records.users.rows.get? user.userId = records.readBy.get? actor
  | _, _ => True

instance (records : UserRecords) (actor : Nat) (op : UserOp) (input : Unit) :
  Decidable (Unwritten records actor op input) := by
  unfold Unwritten
  split <;> infer_instance

namespace UserRequest

variable (service : AuthService) (request : UserRequest)

def after (progress : Progress) : (op : UserOp) → Except AuthError op.Answer → Progress
  | .getMembership _ _, .ok _ =>
    match (request.change service).check with
    | .error error => .settled (.error error)
    | .ok _ => .member
  | .getUser _, .ok user =>
    match (request.change service).modify user with
    | .error error => .settled (.error error)
    | .ok _ => .reading user
  | .saveUser _, .ok saved => .settled (.ok (request.returns saved))
  | .revokeUserTokens _ _, .ok _ => progress
  | _, .error error => .settled (.error error)

def Admits (progress : Progress) : UserOp → Prop
  | .getMembership tenantId userId =>
    progress = .fresh ∧ tenantId = (request.change service).tenantId ∧
      userId = (request.change service).userId
  | .getUser userId => progress = .member ∧ userId = (request.change service).userId
  | .saveUser updated =>
    ∃ user, progress = .reading user ∧ (request.change service).modify user = .ok updated
  | .revokeUserTokens _ _ => ∃ value, progress = .settled (.ok value)

def Foreseen : (op : UserOp) → Except AuthError op.Answer → Prop
  | .saveUser user, .ok saved => saved = user
  | .saveUser _, .error _ | .revokeUserTokens _ _, .error _ => False
  | _, _ => True

def contract : Contract UserOp UserOp.Answer AuthError Progress where
  allowed := request.Admits service
  learns progress op answer later :=
    later = request.after service progress op answer ∧ Foreseen op answer

theorem wp_serve : (request.serve service).wp (request.contract service)
  (fun later value => later = .settled (.ok value))
  (fun later error => later = .settled (.error error)) .fresh := by
  rw [serve_eq, UserChange.perform, wp_bind, wp_do_perform]
  refine ⟨⟨rfl, rfl, rfl⟩, ?_, fun _ _ learned => learned.1⟩
  intro _ later learned
  rw [learned.1]
  cases checked : (request.change service).check with
  | error error =>
    dsimp only [after]
    rw [checked]
    rfl
  | ok _ =>
    dsimp only [after]
    rw [checked, wp_do_perform]
    refine ⟨⟨rfl, rfl⟩, ?_, fun _ _ learned => learned.1⟩
    intro user later learned
    rw [learned.1]
    cases modified : (request.change service).modify user with
    | error error =>
      dsimp only [after, id]
      rw [modified]
      rfl
    | ok updated =>
      dsimp only [after, id]
      rw [modified]
      rw [wp_do_perform]
      refine ⟨⟨user, rfl, modified⟩, ?_, fun _ _ learned => learned.2.elim⟩
      intro saved later learned
      rw [learned.1]
      cases (request.change service).revokedAt with
      | none => rfl
      | some now =>
        rw [wp_do_perform]
        refine ⟨⟨_, rfl⟩, ?_, fun _ _ learned => learned.2.elim⟩
        intro _ last learned
        exact learned.1

end UserRequest

namespace UserChange

def effect (change : UserChange) (memberships : Dict (String × String) Membership)
  (users : UserTable) : Except AuthError AuthUser × UserTable :=
  match memberships.get? (change.tenantId, change.userId) with
  | none => (.error (.notFound "tenant membership not found"), users)
  | some _ =>
    match change.check with
    | .error error => (.error error, users)
    | .ok _ =>
      match users.rows.get? change.userId with
      | none => (.error (.notFound "user not found"), users)
      | some user =>
        match change.modify user with
        | .error error => (.error error, users)
        | .ok updated =>
          match users.save updated with
          | none => (.error (.notFound "user not found"), users)
          | some saved => (.ok updated, saved)

def Leaves (records : UserRecords) (ended : Except AuthError AuthUser × UserTable)
  (ran : Except AuthError AuthUser × UserRecords) : Prop :=
  ran.1 = ended.1 ∧ ran.2.users = ended.2 ∧ ran.2.memberships = records.memberships

theorem alone_effect (change : UserChange) (actor : Nat) (records : UserRecords) :
  Leaves records (change.effect records.memberships records.users)
    (change.perform.alone component actor () records) := by
  unfold effect perform
  rw [bind_eq, alone_bind, alone_perform]
  dsimp only [component, UserRecords.answer]
  cases records.memberships.get? (change.tenantId, change.userId) with
  | none => exact ⟨rfl, rfl, rfl⟩
  | some membership =>
    cases change.check with
    | error error => exact ⟨rfl, rfl, rfl⟩
    | ok _ =>
      dsimp only [Except.map]
      rw [bind_eq, alone_bind, alone_perform]
      dsimp only [UserRecords.answer]
      cases records.users.rows.get? change.userId with
      | none => exact ⟨rfl, rfl, rfl⟩
      | some user =>
        dsimp only [Except.map, id]
        cases change.modify user with
        | error error => exact ⟨rfl, rfl, rfl⟩
        | ok updated =>
          dsimp only
          rw [bind_eq, alone_bind, alone_perform]
          dsimp only [UserRecords.answer]
          cases records.users.save updated with
          | none => exact ⟨rfl, rfl, rfl⟩
          | some saved =>
            cases change.revokedAt with
            | none | some now => exact ⟨rfl, rfl, rfl⟩

end UserChange

theorem UserRequest.alone_serve (service : AuthService) (request : UserRequest) (actor : Nat)
  (records : UserRecords) :
  let ended := (request.change service).effect records.memberships records.users
  let ran := (request.serve service).alone component actor () records
  ran.1 = ended.1.map request.returns ∧ ran.2.users = ended.2 ∧
    ran.2.memberships = records.memberships := by
  intro ended
  have leaves := (request.change service).alone_effect actor records
  rw [serve_eq, alone_bind]
  cases ran : (request.change service).perform.alone component actor () records with
  | mk outcome later =>
    rw [ran] at leaves
    obtain ⟨same, users, memberships⟩ := leaves
    have ends : outcome = ended.1 := same
    rw [← ends]
    cases outcome with
    | ok user | error error => exact ⟨rfl, users, memberships⟩

/-- The calls that have taken effect, one after the other, made the users what they are. -/
structure Ordered (service : AuthService) (requests : Nat → UserRequest) (initial : UserRecords)
    (users : UserTable) (known : Nat → Progress)
    (log : List (Nat × Except AuthError (Option AuthUser))) (serial : UserRecords) : Prop where
  serially : Serially component () (fun actor => (requests actor).serve service)
    initial log serial
  once : (log.map Prod.fst).Nodup
  users : serial.users = users
  memberships : serial.memberships = initial.memberships
  settled : ∀ actor outcome, known actor = .settled outcome → (actor, outcome) ∈ log
  pending : ∀ actor, (∀ outcome, known actor ≠ .settled outcome) → actor ∉ log.map Prod.fst

def Entered (initial : UserRecords) (change : UserChange) : Prop :=
  (∃ membership, initial.memberships.get? (change.tenantId, change.userId) = some membership) ∧
    change.check = .ok ()

structure Kept (service : AuthService) (requests : Nat → UserRequest) (initial : UserRecords)
    (records : UserRecords) (known : Nat → Progress) : Prop where
  ordered : ∃ log serial, Ordered service requests initial records.users known log serial
  memberships : records.memberships = initial.memberships
  member : ∀ actor, known actor = .member → Entered initial ((requests actor).change service)
  reading : ∀ actor user, known actor = .reading user →
    Entered initial ((requests actor).change service) ∧
      records.readBy.get? actor = some user ∧ user.userId = ((requests actor).change service).userId

section

variable {service : AuthService} {requests : Nat → UserRequest}
  {initial records later : UserRecords} {known : Nat → Progress} {actor : Nat} {progress : Progress}
  {log : List (Nat × Except AuthError (Option AuthUser))} {serial : UserRecords} {users : UserTable}

theorem Ordered.advance (ordered : Ordered service requests initial users known log serial)
  (before : ∀ outcome, known actor ≠ .settled outcome)
  (after : ∀ outcome, progress ≠ .settled outcome) :
  Ordered service requests initial users (update known actor progress) log serial := by
  constructor
  · exact ordered.serially
  · exact ordered.once
  · exact ordered.users
  · exact ordered.memberships
  · intro other outcome reached
    by_cases same : other = actor
    · rw [same, update_self] at reached
      exact absurd reached (after outcome)
    rw [update_of_ne same] at reached
    exact ordered.settled other outcome reached
  intro other unsettled
  by_cases same : other = actor
  · rw [same]
    exact ordered.pending actor before
  rw [update_of_ne same] at unsettled
  exact ordered.pending other unsettled

theorem Ordered.settle {outcome : Except AuthError AuthUser} {saved : UserTable}
  (ordered : Ordered service requests initial users known log serial)
  (before : ∀ outcome, known actor ≠ .settled outcome)
  (effect : ((requests actor).change service).effect initial.memberships users = (outcome, saved)) :
  ∃ next last, Ordered service requests initial saved
    (update known actor (.settled (outcome.map (requests actor).returns))) next last := by
  have alone := (requests actor).alone_serve service actor serial
  rw [ordered.memberships, ordered.users, effect] at alone
  obtain ⟨ends, users', memberships'⟩ := alone
  have turned := ordered.serially.turn actor
  rw [ends] at turned
  refine ⟨_, _, turned, ?_, users', memberships', ?_, ?_⟩
  · rw [map_append, nodup_append]
    refine ⟨ordered.once, nodup_singleton _, ?_⟩
    intro first listed second last
    rw [mem_singleton.mp last]
    rintro rfl
    exact ordered.pending _ before listed
  · intro other reached settled
    rw [mem_append]
    by_cases same : other = actor
    · subst other
      rw [update_self] at settled
      cases settled
      exact .inr (mem_singleton.mpr rfl)
    rw [update_of_ne same] at settled
    exact .inl (ordered.settled other reached settled)
  intro other unsettled
  by_cases same : other = actor
  · rw [same, update_self] at unsettled
    exact absurd rfl (unsettled _)
  rw [update_of_ne same] at unsettled
  rw [map_append, mem_append]
  rintro (earlier | last)
  · exact ordered.pending other unsettled earlier
  exact same (mem_singleton.mp last)

section

variable (kept : Kept service requests initial records known)

include kept

theorem Kept.moves (ordered : ∃ log serial, Ordered service requests initial later.users
    (update known actor progress) log serial)
  (memberships : later.memberships = records.memberships)
  (readBy : ∀ other, other ≠ actor → later.readBy.get? other = records.readBy.get? other)
  (member : progress = .member → Entered initial ((requests actor).change service))
  (reading : ∀ user, progress = .reading user →
    Entered initial ((requests actor).change service) ∧ later.readBy.get? actor = some user ∧
    user.userId = ((requests actor).change service).userId) :
  Kept service requests initial later (update known actor progress) := by
  constructor
  · exact ordered
  · exact memberships.trans kept.memberships
  · intro other reached
    by_cases same : other = actor
    · subst other
      rw [update_self] at reached
      exact member reached
    rw [update_of_ne same] at reached
    exact kept.member other reached
  intro other user reached
  by_cases same : other = actor
  · subst other
    rw [update_self] at reached
    exact reading user reached
  rw [update_of_ne same] at reached
  rw [readBy other same]
  exact kept.reading other user reached

theorem Kept.settles (outcome : Except AuthError AuthUser)
  (before : ∀ outcome, known actor ≠ .settled outcome)
  (effect : ((requests actor).change service).effect initial.memberships records.users =
    (outcome, later.users)) (memberships : later.memberships = records.memberships)
  (readBy : ∀ other, other ≠ actor → later.readBy.get? other = records.readBy.get? other) :
  Kept service requests initial later
    (update known actor (.settled (outcome.map (requests actor).returns))) := by
  obtain ⟨log, serial, ordered⟩ := kept.ordered
  apply kept.moves (ordered.settle before effect) memberships readBy
  · nofun
  nofun

theorem Kept.advances (before : ∀ outcome, known actor ≠ .settled outcome)
  (after : ∀ outcome, progress ≠ .settled outcome) (users : later.users = records.users)
  (memberships : later.memberships = records.memberships)
  (readBy : ∀ other, other ≠ actor → later.readBy.get? other = records.readBy.get? other)
  (entered : Entered initial ((requests actor).change service))
  (reading : ∀ user, progress = .reading user → later.readBy.get? actor = some user ∧
    user.userId = ((requests actor).change service).userId) :
  Kept service requests initial later (update known actor progress) := by
  obtain ⟨log, serial, ordered⟩ := kept.ordered
  apply kept.moves ?_ memberships readBy (fun _ => entered)
    (fun user reached => ⟨entered, reading user reached⟩)
  rw [users]
  exact ⟨log, serial, ordered.advance before after⟩

theorem answered (op : UserOp) (unwritten : Unwritten records actor op ())
  (admits : (requests actor).Admits service (known actor) op) :
  UserRequest.Foreseen op (records.answer actor op).1 ∧
    Kept service requests initial (records.answer actor op).2
    (update known actor
    ((requests actor).after service (known actor) op (records.answer actor op).1)) := by
  cases op with
  | getMembership tenantId userId =>
    obtain ⟨fresh, rfl, rfl⟩ := admits
    have before : ∀ outcome, known actor ≠ .settled outcome := by
      rw [fresh]
      exact fun _ => nofun
    dsimp only [UserRecords.answer]
    rw [kept.memberships]
    cases found : initial.memberships.get? (((requests actor).change service).tenantId,
      ((requests actor).change service).userId) with
    | none =>
      refine ⟨trivial, kept.settles (.error _) before ?_ rfl fun _ _ => rfl⟩
      unfold UserChange.effect
      rw [found]
    | some membership =>
      refine ⟨trivial, ?_⟩
      dsimp only [UserRequest.after]
      cases checked : ((requests actor).change service).check with
      | error error =>
        refine kept.settles (.error error) before ?_ rfl fun _ _ => rfl
        unfold UserChange.effect
        rw [found]
        rw [checked]
      | ok _ =>
        exact kept.advances before (fun _ => nofun) rfl rfl (fun _ _ => rfl)
          ⟨⟨membership, found⟩, checked⟩ fun _ => nofun
  | getUser userId =>
    obtain ⟨member, rfl⟩ := admits
    obtain ⟨⟨membership, found⟩, checked⟩ := kept.member actor member
    have before : ∀ outcome, known actor ≠ .settled outcome := by
      rw [member]
      exact fun _ => nofun
    dsimp only [UserRecords.answer]
    cases stored : records.users.rows.get? ((requests actor).change service).userId with
    | none =>
      refine ⟨trivial, kept.settles (.error _) before ?_ rfl fun _ _ => rfl⟩
      unfold UserChange.effect
      rw [found]
      dsimp only
      rw [checked]
      dsimp only
      rw [stored]
    | some user =>
      refine ⟨trivial, ?_⟩
      dsimp only [UserRequest.after]
      have others : ∀ other, other ≠ actor →
        (records.readBy.set actor user).get? other = records.readBy.get? other :=
        fun other distinct => get?_set_other _ user distinct
      cases modified : ((requests actor).change service).modify user with
      | error error =>
        refine kept.settles (.error error) before ?_ rfl others
        unfold UserChange.effect
        rw [found]
        dsimp only
        rw [checked]
        dsimp only
        rw [stored]
        dsimp only
        rw [modified]
      | ok updated =>
        refine kept.advances before (fun _ => nofun) rfl rfl others
          ⟨⟨membership, found⟩, checked⟩ ?_
        intro read same
        cases same
        exact ⟨get?_set_self _ _ _, records.users.keyed _ _ stored⟩
  | saveUser updated =>
    obtain ⟨user, reading, modified⟩ := admits
    obtain ⟨⟨⟨membership, found⟩, checked⟩, read, named⟩ := kept.reading actor user reading
    have before : ∀ outcome, known actor ≠ .settled outcome := by
      rw [reading]
      exact fun _ => nofun
    have place := ((requests actor).change service).keeps user updated modified
    have stored : records.users.rows.get? ((requests actor).change service).userId = some user := by
      have same : records.users.rows.get? updated.userId = records.readBy.get? actor := unwritten
      rw [place, named, read] at same
      exact same
    have saved : ∃ users, records.users.save updated = some users := by
      unfold UserTable.save
      rw [place, named, stored]
      exact ⟨_, rfl⟩
    obtain ⟨users, saved⟩ := saved
    dsimp only [UserRecords.answer]
    rw [saved]
    refine ⟨rfl, kept.settles (.ok updated) before ?_ rfl fun _ _ => rfl⟩
    unfold UserChange.effect
    rw [found]
    dsimp only
    rw [checked]
    dsimp only
    rw [stored]
    dsimp only
    rw [modified]
    dsimp only
    rw [saved]
  | revokeUserTokens userId revokedAt =>
    refine ⟨trivial, ?_⟩
    dsimp only [UserRecords.answer, UserRequest.after]
    rw [update_eq_self]
    exact ⟨kept.ordered, kept.memberships, kept.member, kept.reading⟩

end

theorem adheres : Pool.Adheres component
  (fun actor => (requests actor).contract service) (Kept service requests initial) Unwritten := by
  intro records known actor op _ kept unwritten admits
  obtain ⟨foreseen, later⟩ := answered kept op unwritten admits
  exact ⟨_, ⟨rfl, foreseen⟩, later⟩

end

theorem UserTable.save_get? {table saved : UserTable} {user : AuthUser}
  (wrote : table.save user = some saved) (userId : String) :
  ∃ row, table.rows.get? user.userId = some row ∧ saved.rows.get? userId =
      if userId = user.userId then
        some { row with
          displayName := user.displayName, passwordHash := user.passwordHash
          emailVerified := user.emailVerified, disabled := user.disabled
          updatedAt := user.updatedAt }
      else table.rows.get? userId := by
  obtain ⟨row, found, rfl⟩ := Option.map_eq_some_iff.mp wrote
  refine ⟨row, found, ?_⟩
  have keyed : row.userId = user.userId := table.keyed _ _ found
  rw [put, get?_set, keyed]

theorem UserChange.effect_cases (change : UserChange)
  (memberships : Dict (String × String) Membership) (users : UserTable) :
  (∃ error, change.effect memberships users = (.error error, users)) ∨
    ∃ user updated saved, users.rows.get? change.userId = some user ∧
    change.modify user = .ok updated ∧ users.save updated = some saved ∧
    change.effect memberships users = (.ok updated, saved) := by
  unfold effect
  cases memberships.get? (change.tenantId, change.userId) with
  | none => exact .inl ⟨_, rfl⟩
  | some membership =>
    cases change.check with
    | error error => exact .inl ⟨error, rfl⟩
    | ok _ =>
      cases found : users.rows.get? change.userId with
      | none => exact .inl ⟨_, rfl⟩
      | some user =>
        dsimp only
        cases modified : change.modify user with
        | error error => exact .inl ⟨error, rfl⟩
        | ok updated =>
          dsimp only
          cases saved : users.save updated with
          | none => exact .inl ⟨_, rfl⟩
          | some table => exact .inr ⟨user, updated, table, rfl, modified, saved, rfl⟩

def UserRequest.SparesPassword (userId : String) : UserRequest → Prop
  | .updateProfile _ _ _ _ => True
  | .changePassword _ changed _ _ _ _ => changed ≠ userId
  | .other change => change.userId ≠ userId

def HasPassword (userId passwordHash : String) (records : UserRecords) : Prop :=
  ∃ user, records.users.rows.get? userId = some user ∧ user.passwordHash = some passwordHash

section

variable {service : AuthService} {userId passwordHash : String} {records : UserRecords}

theorem spared (request : UserRequest) (spares : request.SparesPassword userId)
  (actor : Nat) (holds : HasPassword userId passwordHash records) :
  HasPassword userId passwordHash
    ((request.serve service).alone component actor () records).2 := by
  obtain ⟨_, users, _⟩ := request.alone_serve service actor records
  unfold HasPassword
  rw [users]
  obtain ⟨stored, found, hashed⟩ := holds
  rcases (request.change service).effect_cases records.memberships records.users with
    ⟨error, ended⟩ | ⟨user, updated, saved, read, modified, wrote, ended⟩
  · rw [ended]
    exact ⟨stored, found, hashed⟩
  rw [ended]
  obtain ⟨row, written, now⟩ := UserTable.save_get? wrote userId
  rw [now]
  have named : updated.userId = (request.change service).userId :=
    ((request.change service).keeps _ _ modified).trans (records.users.keyed _ _ read)
  by_cases own : userId = updated.userId
  · rw [if_pos own]
    cases request with
    | updateProfile tenantId changed displayName instant =>
      rw [own] at found
      rw [named] at found
      cases read.symm.trans found
      cases modified
      exact ⟨_, rfl, hashed⟩
    | changePassword tenantId changed currentPassword newPassword instant salt =>
      exact absurd (own.trans named).symm spares
    | other change => exact absurd (own.trans named).symm spares
  rw [if_neg own]
  exact ⟨stored, found, hashed⟩

theorem changed {tenantId currentPassword newPassword salt : String} {now : Int} (actor : Nat)
  (returned : (((UserRequest.changePassword tenantId userId currentPassword newPassword now
    salt).serve service).alone component actor () records).1 = .ok none) :
  HasPassword userId (service.hashPassword newPassword salt)
    (((UserRequest.changePassword tenantId userId currentPassword newPassword now salt).serve
    service).alone component actor () records).2 := by
  let request : UserRequest := .changePassword tenantId userId currentPassword newPassword now salt
  obtain ⟨outcome, users, _⟩ := request.alone_serve service actor records
  unfold HasPassword
  rw [users]
  rw [returned] at outcome
  rcases (request.change service).effect_cases records.memberships records.users with
    ⟨error, ended⟩ | ⟨user, updated, saved, read, modified, wrote, ended⟩
  · rw [ended] at outcome
    cases outcome
  rw [ended]
  obtain ⟨row, written, stored⟩ := UserTable.save_get? wrote userId
  have named : updated.userId = userId :=
    ((request.change service).keeps _ _ modified).trans (records.users.keyed _ _ read)
  rw [stored, if_pos named.symm]
  refine ⟨_, rfl, ?_⟩
  have made : (UserChange.ofPassword service tenantId userId currentPassword newPassword now
    salt).modify user = .ok updated := modified
  dsimp only [UserChange.ofPassword] at made
  cases checked : service.checkChange user currentPassword newPassword with
  | error error =>
    rw [checked] at made
    cases made
  | ok _ =>
    rw [checked] at made
    cases made
    rfl

end

abbrev UserPool := Pool UserOp UserOp.Answer AuthError Nat UserRecords (Option AuthUser)

variable (service : AuthService)

def userPool (requests : Nat → UserRequest) (records : UserRecords) : UserPool where
  state := records
  thread actor := (requests actor).serve service

/-- The users are what the calls, one after the other, would have made them, and every call that
ended did so as it would have then. -/
def Serialised (requests : Nat → UserRequest) (initial : UserRecords) (pool : UserPool) : Prop :=
  ∃ log serial, Serially component () (fun actor => (requests actor).serve service) initial log
      serial ∧
    (log.map Prod.fst).Nodup ∧ serial.users = pool.state.users ∧
    (∀ actor value, pool.thread actor = .done value → (actor, .ok value) ∈ log) ∧
    ∀ actor error, pool.thread actor = .raised error → (actor, .error error) ∈ log

/-- A password change that has returned is not undone by calls that have nothing to do with the
password. -/
def PasswordsStay (requests : Nat → UserRequest) (pool : UserPool) : Prop :=
  ∀ actor tenantId userId currentPassword newPassword now salt, requests actor =
      .changePassword tenantId userId currentPassword newPassword now salt →
    pool.thread actor = .done none →
    (∀ other, other ≠ actor → (requests other).SparesPassword userId) →
    HasPassword userId (service.hashPassword newPassword salt) pool.state

/-- In every run in which each save finds the record as its call has read it, the calls might have
run one after the other. -/
theorem changes_serialised (service : AuthService) (requests : Nat → UserRequest)
  (initial : UserRecords) (schedule : List (Nat × Unit))
  (unwritten : (userPool service requests initial).Along component Unwritten schedule) :
  let pool := (userPool service requests initial).run component schedule
  Serialised service requests initial pool ∧ PasswordsStay service requests pool := by
  intro pool
  have none_settled : Kept service requests initial initial (fun _ => .fresh) := by
    constructor
    · exact ⟨[], initial, .start, nodup_nil, rfl, rfl, fun _ _ => nofun, fun _ _ => not_mem_nil⟩
    · rfl
    · exact fun _ => nofun
    exact fun _ _ => nofun
  have ready : (userPool service requests initial).Ready
    (fun actor => (requests actor).contract service) (Kept service requests initial)
    (fun _ later value => later = .settled (.ok value))
    (fun _ later error => later = .settled (.error error)) (fun _ => .fresh) :=
    ⟨none_settled, fun actor => (requests actor).wp_serve service⟩
  obtain ⟨known, kept, threads⟩ := Pool.run_ready adheres ready schedule unwritten
  obtain ⟨log, serial, ordered⟩ := kept.ordered
  have returns : ∀ actor value, pool.thread actor = .done value → (actor, .ok value) ∈ log := by
    intro actor value returned
    have ended := threads actor
    rw [returned] at ended
    exact ordered.settled actor _ ended
  constructor
  · refine ⟨log, serial, ordered.serially, ordered.once, ordered.users, returns, ?_⟩
    intro actor error raised
    have ended := threads actor
    rw [raised] at ended
    exact ordered.settled actor _ ended
  intro actor tenantId userId currentPassword newPassword now salt asked returned spares
  have lasts : HasPassword userId (service.hashPassword newPassword salt) serial := by
    apply ordered.serially.lasting (returns actor none returned)
    · intro before outcome
      rw [asked] at outcome ⊢
      exact changed actor outcome
    · exact fun other before distinct holds => spared (requests other) (spares other distinct)
        other holds
    exact ordered.once
  obtain ⟨user, found, hashed⟩ := lasts
  rw [ordered.users] at found
  exact ⟨user, found, hashed⟩

section

def adaRecords : UserRecords where
  users := UserTable.put ⟨Dict.empty, fun _ _ found => nomatch found⟩ (ada false)
  memberships := Dict.empty.set ("default", "user_ada")
    { tenantId := "default", userId := "user_ada", role := .owner, createdAt := 0 }
  refreshTokens := Dict.empty
  readBy := Dict.empty

def renameAndChange : Nat → UserRequest
  | 1 => .changePassword "default" "user_ada" "Old-secret-1" "Fresh-secret-2" 6 "salt"
  | _ => .updateProfile "default" "user_ada" "Ada L." 5

def turns (actors : List Nat) : List (Nat × Unit) := actors.map fun actor => (actor, ())

theorem changes_in_turn :
  let pool := (userPool plainService renameAndChange adaRecords).run component
    (turns [1, 1, 1, 1, 0, 0, 0])
  Serialised plainService renameAndChange adaRecords pool ∧
    PasswordsStay plainService renameAndChange pool :=
  changes_serialised plainService renameAndChange adaRecords (turns [1, 1, 1, 1, 0, 0, 0])
    (by decide +kernel)

/-- The profile update has read the record before the password is changed, and saves it after. -/
theorem change_undone : ¬PasswordsStay plainService renameAndChange
  ((userPool plainService renameAndChange adaRecords).run component
  (turns [0, 0, 1, 1, 1, 1, 0])) := by
  intro stays
  have spares : ∀ other, other ≠ 1 → (renameAndChange other).SparesPassword "user_ada" := by
    intro other distinct
    unfold renameAndChange
    split
    · exact absurd rfl distinct
    trivial
  obtain ⟨user, found, hashed⟩ := stays 1 _ _ _ _ _ _ rfl rfl spares
  have stored : (((userPool plainService renameAndChange adaRecords).run component
    (turns [0, 0, 1, 1, 1, 1, 0])).state.users.rows.get? "user_ada").bind
      (·.passwordHash) = some "argon2:Old-secret-1" := by
    decide +kernel
  rw [found] at stored
  exact absurd (hashed.symm.trans stored) (by decide)

end

end AgentHarness.Auth
