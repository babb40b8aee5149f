import AgentHarness.Auth.Database

/-!
What a call does to the tables, in terms of its own trail.
-/

namespace AgentHarness.Auth

open Interaction Program AuthOp Trail Option Bool

variable (trail : Trail)

def Aims : TokenRows → Prop
  | .token tokenHash =>
    ∃ current user, trail.token = some current ∧ current.tokenHash = tokenHash ∧
      trail.account = some user ∧ user.userId = current.userId
  | .family _ | .user _ => True

def Stores (token : RefreshToken) : Prop := (trail.transaction = .closed ∧
      ∃ id, trail.minted = some id ∧ token.familyId = "session_" ++ id) ∨
    ∃ current moment, trail.transaction = .claimed current.tokenHash moment ∧
      trail.token = some current ∧ token.familyId = current.familyId ∧
      token.userId = current.userId

def Permits : AuthOp → Prop
  | .getUserByEmail _ | .getUser _ => trail.transaction = .closed ∧ trail.rotated = false
  | .saveUser updated =>
    trail.transaction = .closed ∧ trail.revoked = none ∧
      ∃ user, trail.account = some user ∧ updated.userId = user.userId ∧
        updated.disabled = user.disabled
  | .fixRows rows => trail.transaction = .closed ∧ trail.revoked = none ∧ Aims trail rows
  | .writeRows rows hashes _ _ => trail.transaction = .fixed rows hashes
  | .insertRow token => token.revokedAt = none ∧ token.familyId ≠ "" ∧ Stores trail token
  | _ => True

def Foreseen : (op : AuthOp) → Except AuthError op.Answer → Prop
  | .getUser userId, .ok user => user.userId = userId
  | .getRefreshToken tokenHash, .ok found =>
    ∀ token ∈ found, token.tokenHash = tokenHash ∧ token.familyId ≠ ""
  | _, .ok _ => True
  | _, .error error => ∀ message, error ≠ .authentication message

def contract : Contract AuthOp AuthOp.Answer AuthError Trail where
  allowed := Permits
  learns trail op answer later :=
    (∃ moment, later = trail.after moment op answer) ∧ Foreseen op answer

def Trail.abandoned : Trail := { trail with transaction := .closed }

theorem Trail.after_error (moment : Nat) (op : AuthOp) (error : AuthError) :
  trail.after moment op (.error error) = trail.abandoned := by
  cases op with
  | generate draw => cases draw <;> rfl
  | _ => rfl

theorem foreseen_error {op : AuthOp} {error : AuthError} :
  Foreseen op (.error error) ↔ ∀ message, error ≠ .authentication message := by
  cases op <;> exact Iff.rfl

def Outage (_ : Trail) (error : AuthError) : Prop := ∀ message, error ≠ .authentication message

section

variable {trail : Trail}

theorem wp_ask (op : AuthOp) {post : Trail → op.Answer → Prop} {fail : Trail → AuthError → Prop} :
  (ask op).wp contract post fail trail ↔ Permits trail op ∧
    (∀ answer moment, Foreseen op (.ok answer) →
    post (trail.after moment op (.ok answer)) answer) ∧
    ∀ error, Outage trail error → fail trail.abandoned error := by
  rw [wp_perform]
  refine and_congr_right fun _ => and_congr ?_ ?_
  · constructor
    · exact fun each answer moment foreseen => each answer _ ⟨⟨moment, rfl⟩, foreseen⟩
    rintro each answer later ⟨⟨moment, rfl⟩, foreseen⟩
    exact each answer moment foreseen
  constructor
  · exact fun each error outage => each error _
      ⟨⟨0, (trail.after_error 0 op error).symm⟩, foreseen_error.mpr outage⟩
  rintro each error later ⟨⟨moment, rfl⟩, foreseen⟩
  rw [trail.after_error]
  exact each error (foreseen_error.mp foreseen)

theorem wp_read {op : AuthOp} {post : Trail → op.Answer → Prop} (allowed : Permits trail op)
  (onAnswer : ∀ answer moment, Foreseen op (.ok answer) →
    post (trail.after moment op (.ok answer)) answer) :
  (ask op).wp contract post Outage trail :=
  (wp_ask op).mpr ⟨allowed, onAnswer, fun _ => id⟩

end

namespace PostgresAuthRepository

variable {trail : Trail}

theorem update_wp (rows : TokenRows) (revokedAt : Int) (replacedByHash : Option String)
  (closed : trail.transaction = .closed) (unused : trail.revoked = none)
  (aims : Aims trail rows) :
  (update rows revokedAt replacedByHash).wp contract
    (fun later rowcount => ∃ moment,
    later = { trail with transaction := afterWrite moment rows rowcount })
    Outage trail := by
  rw [update, wp_do]
  refine wp_read ⟨closed, unused, aims⟩ fun hashes _ _ => ?_
  exact wp_read rfl fun rowcount moment _ => ⟨moment, rfl⟩

theorem revoke_wp (rows : TokenRows) (revokedAt : Int)
  (whole : ∀ moment rowcount, afterWrite moment rows rowcount = .revoking rows moment)
  (closed : trail.transaction = .closed) (unused : trail.revoked = none)
  (aims : Aims trail rows) :
  ((update rows revokedAt none).bind fun _ => commit.ask).wp contract
    (fun later _ => ∃ moment, later = { trail with revoked := some (rows, moment) })
    Outage trail := by
  rw [wp_bind]
  refine wp_mono (update_wp rows revokedAt none closed unused aims) ?_ fun _ _ => id
  rintro later rowcount ⟨moment, rfl⟩
  refine wp_read trivial fun _ _ _ => ⟨moment, ?_⟩
  simp [after, afterCommit, whole, closed]

theorem revokeTokenFamily_wp (familyId : String) (revokedAt : Int)
  (closed : trail.transaction = .closed) (unused : trail.revoked = none) :
  (revokeTokenFamily familyId revokedAt).wp contract
    (fun later _ => ∃ moment, later = { trail with revoked := some (.family familyId, moment) })
    Outage trail :=
  revoke_wp _ _ (fun _ _ => rfl) closed unused trivial

theorem revokeUserTokens_wp (userId : String) (revokedAt : Int)
  (closed : trail.transaction = .closed) (unused : trail.revoked = none) :
  (revokeUserTokens userId revokedAt).wp contract
    (fun later _ => ∃ moment, later = { trail with revoked := some (.user userId, moment) })
    Outage trail :=
  revoke_wp _ _ (fun _ _ => rfl) closed unused trivial

theorem addRefreshToken_wp {token : RefreshToken} (allowed : Permits trail (.insertRow token))
  (closed : trail.transaction = .closed) : (addRefreshToken token).wp contract
    (fun later _ => later = { trail with minted := none }) Outage trail := by
  rw [addRefreshToken, wp_do]
  refine wp_read allowed fun _ _ _ => wp_read trivial (fun _ _ _ => ?_)
  simp [after, afterInsert, afterCommit, closed]

theorem rotateRefreshToken_wp {current replacement : RefreshToken} (revokedAt : Int)
  (closed : trail.transaction = .closed) (unused : trail.revoked = none)
  (aims : Aims trail (.token current.tokenHash)) (read : trail.token = some current)
  (live : replacement.revokedAt = none) (named : replacement.familyId ≠ "")
  (family : replacement.familyId = current.familyId)
  (user : replacement.userId = current.userId) :
  (rotateRefreshToken current.tokenHash replacement revokedAt).wp contract
    (fun later rotated => later =
      if rotated then { trail with minted := none, rotated := true } else trail)
    Outage trail := by
  rw [rotateRefreshToken, wp_do]
  refine wp_mono (update_wp _ _ _ closed unused aims) ?_ fun _ _ => id
  rintro later rowcount ⟨moment, rfl⟩
  split
  · rename_i none
    rw [wp_bind]
    refine wp_read trivial fun _ _ _ => ?_
    simp [wp_done, after, ← closed]
  rename_i some
  have claimed : afterWrite moment (.token current.tokenHash) rowcount =
    .claimed current.tokenHash moment := by
    rw [afterWrite, if_neg some]
  rw [claimed, wp_bind]
  refine wp_read ⟨live, named, .inr ⟨current, moment, rfl, read, family, user⟩⟩
    (fun _ _ _ => ?_)
  rw [wp_bind]
  refine wp_read trivial fun _ _ _ => ?_
  simp [wp_done, after, afterInsert, afterCommit, closed]

end PostgresAuthRepository

def Ended : Prop :=
  ∀ token ∈ trail.token, ∃ moment, trail.revoked = some (.family token.familyId, moment)

def Returns : AuthRequest → Trail → Option AuthSession → Prop
  | .login _ _, trail, session =>
    ∀ issued ∈ session, issued.user.disabled = false ∧ trail.account = some issued.user
  | .refresh _, trail, session =>
    ∀ issued ∈ session, trail.rotated = true ∧ trail.account = some issued.user
  | .logout _, trail, session => session = none ∧ Ended trail
  | .changePassword _ userId _ _, trail, session =>
    session = none ∧ ∃ savedAt moment, trail.changed = some (userId, savedAt) ∧
      trail.revoked = some (.user userId, moment)

def Fails (error : AuthError) : Prop :=
  error = .authentication "refresh token reuse detected" → Ended trail

theorem fails_of_outage {trail : Trail} {error : AuthError} (outage : Outage trail error) :
  Fails trail error :=
  fun same => absurd same (outage _)

namespace AuthService

variable {service : AuthService} {trail : Trail} (user : AuthUser) (membership : Membership)

theorem sessionResponse_wp (refreshToken : String) :
  (service.sessionResponse user membership refreshToken).wp contract
    (fun later session => session.user = user ∧ ∃ id, later = { trail with minted := some id })
    Outage trail := by
  simp only [sessionResponse, bind_eq, pure_eq, wp_bind]
  exact wp_read trivial fun _ _ _ => wp_read trivial (fun id _ _ => ⟨rfl, id, rfl⟩)

theorem newRefreshToken_wp : (service.newRefreshToken user membership none).wp contract
    (fun later issued => issued.2.revokedAt = none ∧ ∃ id, issued.2.familyId = "session_" ++ id ∧
    later = { trail with minted := some id })
    Outage trail := by
  simp only [newRefreshToken, bind_eq, pure_eq, wp_bind, filter_none]
  refine wp_read trivial fun raw _ _ => wp_read trivial (fun now _ _ => ?_)
  exact wp_read trivial fun id _ _ => ⟨rfl, id, rfl, rfl⟩

theorem newRefreshToken_wp_of_family {familyId : String}
  (named : familyId ≠ "") : (service.newRefreshToken user membership (some familyId)).wp contract
    (fun later issued => issued.2.revokedAt = none ∧ issued.2.familyId = familyId ∧
    issued.2.userId = user.userId ∧ later = trail)
    Outage trail := by
  have kept : (some familyId).filter (fun family => family ≠ "") = some familyId := by
    simp [named]
  simp only [newRefreshToken, bind_eq, pure_eq, wp_bind, kept]
  exact wp_read trivial fun raw _ _ => wp_read trivial (fun now _ _ => ⟨rfl, rfl, rfl, rfl⟩)

theorem issueSession_wp (closed : trail.transaction = .closed) :
  (service.issueSession user membership).wp contract
    (fun later session => session.user = user ∧ later.account = trail.account) Outage trail := by
  simp only [issueSession, wp_do]
  refine wp_mono (newRefreshToken_wp user membership) ?_ fun _ _ => id
  rintro later ⟨raw, stored⟩ ⟨live, id, family, rfl⟩
  have named : stored.familyId ≠ "" := by
    have drawn : stored.familyId = "session_" ++ id := family
    rw [drawn]
    intro empty
    have length := congrArg String.length empty
    simp at length
  refine wp_mono (PostgresAuthRepository.addRefreshToken_wp
    ⟨live, named, .inl ⟨closed, id, rfl, family⟩⟩ closed) ?_ fun _ _ held => held
  rintro last _ rfl
  refine wp_mono (sessionResponse_wp user membership raw) ?_ fun _ _ held => held
  rintro final session ⟨same, _, rfl⟩
  exact ⟨same, rfl⟩

theorem authenticate_enabled {found : Option AuthUser} {password : String} {user : AuthUser}
  (opened : service.authenticate found password = some user) :
  user.disabled = false ∧ found = some user := by
  simp only [authenticate, filter_eq_some_iff, and_eq_true, not_eq_true'] at opened
  exact ⟨opened.2.2, opened.1⟩

theorem login_wp (email password : String) (closed : trail.transaction = .closed)
  (start : trail.rotated = false) : (service.login email password).wp contract
    (fun later session => session.user.disabled = false ∧ later.account = some session.user)
    Fails trail := by
  simp only [login, wp_do]
  refine (wp_ask _).mpr ⟨⟨closed, start⟩, fun found moment _ => ?_,
    fun _ outage => fails_of_outage outage⟩
  cases opened : service.authenticate found password with
  | none => exact fun same => nomatch same
  | some user =>
    rw [wp_do]
    refine (wp_ask _).mpr ⟨trivial, fun membership _ _ => ?_,
      fun _ outage => fails_of_outage outage⟩
    refine wp_mono (issueSession_wp user membership closed) ?_ fun _ _ => fails_of_outage
    rintro later session ⟨issued, account⟩
    obtain ⟨enabled, found⟩ := authenticate_enabled opened
    rw [issued, account]
    exact ⟨enabled, found⟩

theorem revokeAndRefuse_wp (current : RefreshToken) (now : Int) (message : String)
  (read : trail.token = some current) (closed : trail.transaction = .closed)
  (unused : trail.revoked = none) {post : Trail → AuthSession → Prop} :
  (revokeAndRefuse current.familyId now message).wp contract post Fails trail := by
  rw [revokeAndRefuse, wp_do]
  refine wp_mono (PostgresAuthRepository.revokeTokenFamily_wp _ now closed unused) ?_
    (fun _ _ => fails_of_outage)
  rintro later _ ⟨moment, rfl⟩
  intro _ token present
  cases read.symm.trans present
  exact ⟨moment, rfl⟩

variable (rawToken : String)

theorem rotate_wp {current : RefreshToken} (now : Int) (read : trail.token = some current)
  (hashed : current.tokenHash = service.hashToken rawToken) (named : current.familyId ≠ "")
  (closed : trail.transaction = .closed) (start : trail.rotated = false)
  (unused : trail.revoked = none) : (service.rotate rawToken current now).wp contract
    (fun later session => later.rotated = true ∧ later.account = some session.user)
    Fails trail := by
  rw [rotate, wp_do]
  refine (wp_ask _).mpr ⟨⟨closed, start⟩, fun user _ owner => ?_,
    fun _ outage => fails_of_outage outage⟩
  rw [wp_do]
  refine (wp_ask _).mpr ⟨trivial, fun membership _ _ => ?_, fun _ outage => fails_of_outage outage⟩
  rw [wp_do]
  refine wp_mono (newRefreshToken_wp_of_family user membership named) ?_
    (fun _ _ => fails_of_outage)
  rintro later ⟨raw, replacement⟩ ⟨live, family, replacer, rfl⟩
  have owned : user.userId = current.userId := owner
  have kept : replacement.familyId = current.familyId := family
  rw [← hashed, wp_do]
  refine wp_mono (PostgresAuthRepository.rotateRefreshToken_wp now closed unused
    ⟨current, user, read, rfl, rfl, owned⟩ read live (by rw [kept]; exact named) kept
    (Eq.trans replacer owned)) ?_ fun _ _ => fails_of_outage
  rintro last rotated rfl
  cases rotated with
  | false =>
    refine revokeAndRefuse_wp current now _ ?_ ?_ ?_
    · exact read
    · exact closed
    exact unused
  | true =>
    refine wp_mono (sessionResponse_wp user membership raw) ?_ fun _ _ => fails_of_outage
    rintro final session ⟨same, id, rfl⟩
    exact ⟨rfl, congrArg some same.symm⟩

theorem refresh_wp (closed : trail.transaction = .closed) (start : trail.rotated = false)
  (unused : trail.revoked = none) : (service.refresh rawToken).wp contract
    (fun later session => later.rotated = true ∧ later.account = some session.user)
    Fails trail := by
  rw [refresh, wp_do]
  refine (wp_ask _).mpr ⟨trivial, fun found _ answered => ?_,
    fun _ outage => fails_of_outage outage⟩
  rw [wp_do]
  refine (wp_ask _).mpr ⟨trivial, fun now _ _ => ?_, fun _ outage => fails_of_outage outage⟩
  cases found with
  | none => exact fun same => nomatch same
  | some current =>
    obtain ⟨hashed, named⟩ := answered current rfl
    dsimp only
    split
    · refine revokeAndRefuse_wp current now _ ?_ ?_ ?_
      · rfl
      · exact closed
      exact unused
    split
    · refine revokeAndRefuse_wp current now _ ?_ ?_ ?_
      · rfl
      · exact closed
      exact unused
    exact rotate_wp rawToken now rfl hashed named closed start unused

theorem logout_wp (closed : trail.transaction = .closed) (unused : trail.revoked = none) :
  (service.logout rawToken).wp contract (fun later _ => Ended later) Outage trail := by
  rw [logout, wp_do]
  refine wp_read trivial fun found _ _ => ?_
  cases found with
  | none => exact fun _ => nofun
  | some current =>
    rw [wp_do]
    refine wp_read trivial fun now _ _ => ?_
    refine wp_mono (PostgresAuthRepository.revokeTokenFamily_wp _ now closed unused) ?_
      (fun _ _ => id)
    rintro later _ ⟨moment, rfl⟩ token present
    cases present
    exact ⟨moment, rfl⟩

theorem changePassword_wp (tenantId userId currentPassword newPassword : String)
  (closed : trail.transaction = .closed) (start : trail.rotated = false)
  (unused : trail.revoked = none) :
  (service.changePassword tenantId userId currentPassword newPassword).wp contract
    (fun later _ => ∃ savedAt moment, later.changed = some (userId, savedAt) ∧
    later.revoked = some (.user userId, moment))
    (fun _ _ => True) trail := by
  have fine : ∀ (later : Trail) (error : AuthError), Outage later error → True :=
    fun _ _ _ => trivial
  rw [changePassword, wp_do]
  refine (wp_ask _).mpr ⟨trivial, fun membership _ _ => ?_, fine _⟩
  rw [wp_do]
  refine (wp_ask _).mpr ⟨⟨closed, start⟩, fun user _ owner => ?_, fine _⟩
  cases service.checkChange user currentPassword newPassword with
  | error error => trivial
  | ok _ =>
    rw [wp_do]
    refine (wp_ask _).mpr ⟨trivial, fun now _ _ => ?_, fine _⟩
    rw [wp_do]
    refine (wp_ask _).mpr ⟨trivial, fun salt _ _ => ?_, fine _⟩
    rw [wp_do]
    refine (wp_ask _).mpr ⟨⟨closed, unused, user, rfl, rfl, rfl⟩, fun _ savedAt _ => ?_, fine _⟩
    refine wp_mono (PostgresAuthRepository.revokeUserTokens_wp userId now closed unused) ?_
      (fun _ _ _ => trivial)
    rintro later _ ⟨moment, rfl⟩
    refine ⟨savedAt, moment, ?_, rfl⟩
    exact congrArg (fun id => some (id, savedAt)) owner

theorem serve_wp (request : AuthRequest) : (service.serve request).wp contract (Returns request)
  (fun later error => (∃ rawToken, request = .refresh rawToken) → Fails later error) {} := by
  cases request with
  | login email password =>
    rw [serve, wp_bind]
    refine wp_mono (login_wp email password rfl rfl) ?_ fun _ _ failed _ => failed
    rintro later session enabled issued present
    cases present
    exact enabled
  | refresh rawToken =>
    rw [serve, wp_bind]
    refine wp_mono (refresh_wp rawToken rfl rfl rfl) ?_ fun _ _ failed _ => failed
    rintro later session rotated issued present
    cases present
    exact rotated
  | logout rawToken =>
    rw [serve, wp_bind]
    exact wp_mono (logout_wp rawToken rfl rfl) (fun _ _ ended => ⟨rfl, ended⟩)
      (fun _ _ outage _ => fails_of_outage outage)
  | changePassword tenantId userId currentPassword newPassword =>
    rw [serve, wp_bind]
    exact wp_mono (changePassword_wp tenantId userId currentPassword newPassword rfl rfl rfl)
      (fun _ _ changed => ⟨rfl, changed⟩) fun _ _ _ ⟨_, other⟩ => nomatch other

end AuthService

end AgentHarness.Auth
