import AgentHarness.Auth.Revocations

/-!
Sessions over every interleaving of logins, refreshes, logouts and password changes.
-/

namespace AgentHarness.Auth

open Collections Interaction Dict AuthDatabase Option

def Trail.Rotates (trail : Trail) : Prop :=
  trail.rotated = true ∨
    (∃ tokenHash hashes, trail.transaction = .fixed (.token tokenHash) hashes) ∨
      trail.transaction.claim ≠ none

def Trail.Enabled (trail : Trail) : Prop :=
  trail.Rotates → ∀ user, trail.account = some user → user.disabled = false

section

variable {platform : AuthPlatform} {database : AuthDatabase} {actor : Nat} {next trail : Trail}

theorem Trail.Enabled.step (enabled : trail.Enabled)
  (account : next.account = trail.account) (before : next.Rotates → trail.Rotates) :
  next.Enabled :=
  fun rotates user read => enabled (before rotates) user (account ▸ read)

theorem rotated_of_rotates
  (unfixed : ∀ tokenHash hashes, trail.transaction ≠ .fixed (.token tokenHash) hashes)
  (unclaimed : trail.transaction.claim = none) (rotates : trail.Rotates) :
  trail.rotated = true := by
  rcases rotates with rotated | ⟨tokenHash, hashes, fixed⟩ | claims
  · exact rotated
  · exact absurd fixed (unfixed tokenHash hashes)
  exact absurd unclaimed claims

theorem rotated_of_closed (closed : trail.transaction = .closed) (rotates : trail.Rotates) : trail.rotated = true :=
  rotated_of_rotates (fun _ _ => by rw [closed]; exact nofun) (by rw [closed]; rfl) rotates

theorem Trail.Enabled.leave (enabled : trail.Enabled)
  (account : next.account = trail.account) (rotated : next.rotated = trail.rotated)
  (unfixed : ∀ tokenHash hashes, next.transaction ≠ .fixed (.token tokenHash) hashes)
  (unclaimed : next.transaction.claim = none) : next.Enabled :=
  enabled.step account (fun rotates => .inl (rotated ▸
    rotated_of_rotates unfixed unclaimed rotates))

theorem enabled_of_aim (seen : Seen database database.trail) {input : AuthInput}
  {tokenHash : String} (orderly : Orderly database actor (.fixRows (.token tokenHash)) input)
  (aims : Aims (database.trail actor) (.token tokenHash)) (user : AuthUser)
  (read : (database.trail actor).account = some user) : user.disabled = false := by
  obtain ⟨current, owner, presented, hashed, account, owns⟩ := aims
  have same : owner = user := some.inj (account.symm.trans read)
  subst same
  obtain ⟨row, stored, _, same⟩ := seen.token actor current presented
  obtain ⟨now, found, flag⟩ := seen.account actor owner account
  rw [← flag]
  refine orderly row (hashed ▸ stored) now ?_
  rw [same, ← owns]
  exact found

theorem Trail.Enabled.effect (consistent : Consistent platform database database.trail)
  {op : AuthOp} {input : AuthInput} (orderly : Orderly database actor op input)
  (enabled : (database.trail actor).Enabled) {later : AuthDatabase}
  (effect : Effect platform database actor (database.trail actor) op later next) :
  next.Enabled := by
  cases effect with
  | read standing minted token account changed revoked rotated =>
    have before : next.Rotates → (database.trail actor).Rotates := by
      unfold Trail.Rotates
      rw [standing, rotated]
      exact id
    rcases account with same | ⟨closed, unused, _⟩
    · exact enabled.step same before
    intro rotates
    rw [rotated_of_closed closed (before rotates)] at unused
    cases unused
  | undo => exact enabled.leave rfl rfl (fun _ _ never => by cases never) rfl
  | draw draw moment => cases draw <;> exact enabled.step rfl id
  | save found flag closed unused standing revoked minted token account rotated =>
    refine enabled.step account fun rotates => .inl ?_
    rw [← rotated]
    exact rotated_of_closed standing rotates
  | @fix selection closed unused aims =>
    cases selection with
    | token tokenHash => exact fun _ => enabled_of_aim consistent.seen orderly aims
    | family familyId | user userId =>
      exact enabled.leave rfl rfl (fun _ _ never => by cases never) rfl
  | @write selection hashes revokedAt replacedBy standing unlocked =>
    cases selection with
    | token tokenHash => exact enabled.step rfl fun _ => .inr (.inl ⟨tokenHash, hashes, standing⟩)
    | family familyId | user userId =>
      exact enabled.leave rfl rfl (fun _ _ never => by cases never) rfl
  | @insert token verified live family stores stored free same kept =>
    rcases stores with ⟨closed, _⟩ | ⟨current, moment, claimed, _⟩
    · have opening : (database.trail actor).afterInsert token = .opening token.tokenHash := by
        rw [Trail.afterInsert, closed]
      rw [opening]
      exact enabled.leave rfl rfl (fun _ _ never => by cases never) rfl
    refine enabled.step rfl fun _ => .inr (.inr ?_)
    rw [claimed]
    rintro ⟨⟩
  | commit known =>
    rcases known with rfl | rfl
    · unfold Trail.afterCommit
      split
      · exact enabled.leave rfl rfl (fun _ _ never => by cases never) rfl
      · rename_i standing
        refine enabled.step rfl fun _ => .inr (.inr ?_)
        rw [standing]
        rintro ⟨⟩
      exact enabled.leave rfl rfl (fun _ _ never => by cases never) rfl
    exact enabled.leave rfl rfl (fun _ _ never => by cases never) rfl

end

structure AuthDatabase.Settled (platform : AuthPlatform) (database : AuthDatabase) : Prop where
  idle : database.tokens.written = Dict.empty
  unseen : database.trails = Dict.empty
  older : database.verified = fun _ => 0
  keyed : ∀ tokenHash row, database.tokens.committed.get? tokenHash = some row →
    row.tokenHash = tokenHash ∧ row.familyId ≠ ""
  unique : ∀ first second row other, Live database.tokens first row →
    Live database.tokens second other → row.familyId = other.familyId → first = second
  users : ∀ userId user, database.users.get? userId = some user → user.userId = userId
  undrawn : ∀ count, database.generated ≤ count → ∀ tokenHash row,
    database.tokens.committed.get? tokenHash = some row →
      row.familyId ≠ "session_" ++ platform.generated .uuid count

structure Sound (platform : AuthPlatform) (database : AuthDatabase) (trail : Nat → Trail) :
    Prop where
  trails : trail = database.trail
  consistent : Consistent platform database trail
  guarded : Guarded database database.moment trail
  enabled : ∀ actor, (trail actor).Enabled

theorem sound_initial {platform : AuthPlatform} {database : AuthDatabase}
  (settled : database.Settled platform) : Sound platform database (fun _ => {}) := by
  have absent : ∀ tokenHash, database.tokens.written.get? tokenHash = none := by
    rw [settled.idle]
    exact get?_empty
  have present : ∀ {tokenHash row}, Present database.tokens tokenHash row →
    database.tokens.committed.get? tokenHash = some row := by
    rintro tokenHash row (stored | ⟨writer, written⟩)
    · exact stored
    rw [absent] at written
    cases written
  refine ⟨?_, ⟨⟨?_, settled.unique, ?_, fun _ _ => nofun⟩, ⟨fun _ _ => nofun, fun _ _ _ _ => nofun,
    fun _ _ _ => nofun, ?_⟩, ⟨settled.users, fun _ _ => nofun, fun _ _ => nofun⟩⟩,
    ⟨fun _ => ⟨fun _ _ => nofun, fun _ _ => nofun, fun _ _ => nofun⟩, fun _ _ _ _ => nofun,
      fun _ _ => nofun⟩, ?_⟩
  · funext actor
    rw [AuthDatabase.trail, settled.unseen]
    rfl
  · exact fun tokenHash row seen => settled.keyed tokenHash row (present seen)
  · intro tokenHash writer row written
    rw [absent] at written
    cases written
  · exact fun count tokenHash row drawn seen => settled.undrawn count drawn tokenHash row (present seen)
  exact fun actor _ user => nofun

theorem auth_adheres (platform : AuthPlatform) :
  Pool.Adheres (component platform) (fun _ => contract) (Sound platform)
    Orderly := by
  rintro database _ actor op input ⟨rfl, consistent, guarded, enabled⟩ orderly allowed
  obtain ⟨later, next, same, learned, effect, foreseen⟩ := respond_effect consistent allowed input
  refine ⟨next, ⟨⟨_, learned⟩, foreseen⟩, ?_⟩
  have kept := consistent.effect effect
  have reached := guarded.effect consistent orderly effect
  have clock : later.moment = database.moment := by cases effect <;> rfl
  have trails : later.trail = database.trail := by cases effect <;> rfl
  rw [show (component platform).respond = respond platform from rfl, same]
  refine ⟨by rw [later.trail_moved, trails], ⟨kept.rows, kept.named, ?_⟩, ?_, ?_⟩
  · exact ⟨kept.seen.users, kept.seen.token, kept.seen.account⟩
  · rw [moved, clock]
    exact ⟨reached.reaches, reached.overlapping, reached.past⟩
  exact Pool.forall_update (Trail.Enabled.effect consistent orderly (enabled actor) effect)
    (fun other _ => enabled other)

theorem auth_ready (platform : AuthPlatform) (service : AuthService)
  (requests : Nat → AuthRequest) {database : AuthDatabase} (settled : database.Settled platform) :
  (authPool service requests database).Ready (fun _ => contract) (Sound platform)
    (fun actor => Returns (requests actor))
    (fun actor later error => (∃ rawToken, requests actor = .refresh rawToken) →
    Fails later error) (fun _ => {}) :=
  ⟨sound_initial settled, fun actor => AuthService.serve_wp (requests actor)⟩

def HasEnded (requests : Nat → AuthRequest) (pool : AuthPool) (actor : Nat) : Prop :=
  (∃ rawToken, requests actor = .logout rawToken ∧ ∃ result, pool.thread actor = .done result) ∨
    ∃ rawToken, requests actor = .refresh rawToken ∧
      pool.thread actor = .raised (.authentication "refresh token reuse detected")

/-- As long as no revocation is overtaken and no disabled account refreshes: at every moment a
family has one live token at most; none is live of a family that a logout or a detected
reuse has ended; none is live of a user whose password was changed, but of sessions that were
verified with the new one; and nobody who is disabled is given a session. -/
theorem revocations_hold (platform : AuthPlatform) (service : AuthService)
  (requests : Nat → AuthRequest) (database : AuthDatabase) (settled : database.Settled platform)
  (schedule : List (Nat × AuthInput))
  (orderly : (authPool service requests database).Along (component platform) Orderly schedule) :
  let reached := (authPool service requests database).run (component platform)
    schedule
  (∀ first second row other, Live reached.state.tokens first row →
      Live reached.state.tokens second other → row.familyId = other.familyId → first = second) ∧
    (∀ actor, HasEnded requests reached actor →
      ∀ token, (reached.state.trail actor).token = some token →
        ∀ tokenHash row, Live reached.state.tokens tokenHash row → row.familyId ≠ token.familyId) ∧
    (∀ actor tenantId userId currentPassword newPassword result,
      requests actor = .changePassword tenantId userId currentPassword newPassword →
      reached.thread actor = .done result →
        ∃ savedAt, (reached.state.trail actor).changed = some (userId, savedAt) ∧
          ∀ tokenHash row, Live reached.state.tokens tokenHash row → row.userId = userId →
            savedAt < reached.state.verified row.familyId) ∧
    ∀ actor session, reached.thread actor = .done (some session) → session.user.disabled = false ∧
        ∀ stored, reached.state.users.get? session.user.userId = some stored →
          stored.disabled = false := by
  intro reached
  obtain ⟨known, ⟨rfl, consistent, guarded, enabled⟩, threads⟩ :=
    Pool.run_ready (auth_adheres platform) (auth_ready platform service requests settled) schedule
      orderly
  have returned : ∀ actor result, reached.thread actor = .done result →
    Returns (requests actor) (reached.state.trail actor) result := by
    intro actor result done
    have own := threads actor
    rw [done] at own
    exact own
  refine ⟨consistent.rows.unique, ?_, ?_, ?_⟩
  · intro actor ended token read tokenHash row live
    have closed : Ended (reached.state.trail actor) := by
      rcases ended with ⟨rawToken, asked, result, done⟩ | ⟨rawToken, asked, raised⟩
      · have own := returned actor result done
        rw [asked] at own
        exact own.2
      have own := threads actor
      rw [raised] at own
      exact own ⟨rawToken, asked⟩ rfl
    obtain ⟨moment, revoked⟩ := closed token read
    exact (guarded.reaches actor).revoked _ moment revoked tokenHash row live
  · intro actor tenantId userId currentPassword newPassword result asked done
    have own := returned actor result done
    rw [asked] at own
    obtain ⟨_, savedAt, moment, changed, revoked⟩ := own
    refine ⟨savedAt, changed, fun tokenHash row live owned => ?_⟩
    by_contra older
    exact (guarded.reaches actor).revoked _ moment revoked tokenHash row live
      ⟨owned, (userId, savedAt), changed, Nat.not_lt.mp older⟩
  intro actor session done
  have own := returned actor (some session) done
  have issued : session.user.disabled = false ∧
    (reached.state.trail actor).account = some session.user := by
    cases asked : requests actor with
    | login email password =>
      rw [asked] at own
      exact own session rfl
    | refresh rawToken =>
      rw [asked] at own
      obtain ⟨rotated, account⟩ := own session rfl
      exact ⟨enabled actor (.inl rotated) session.user account, account⟩
    | logout rawToken | changePassword tenantId userId currentPassword newPassword =>
      rw [asked] at own
      exact nomatch own.1
  refine ⟨issued.1, fun stored found => ?_⟩
  obtain ⟨now, present, flag⟩ := consistent.seen.account actor session.user issued.2
  cases found.symm.trans present
  exact flag.trans issued.1

section

def plainPlatform : AuthPlatform where
  generated _ count := String.ofList (List.replicate count '+')
  distinct _ first second same := by
    have lengths := congrArg (fun drawn => drawn.toList.length) same
    simpa using lengths

def plainService : AuthService where
  jwtSecret := "secret"
  issuer := "harness"
  audience := "harness-web"
  accessTokenSeconds := 900
  refreshTokenDays := 30
  defaultTenantId := "default"
  dummyHash := "argon2:"
  hashPassword password _ := "argon2:" ++ password
  verifyPassword stored password := stored = "argon2:" ++ password
  hashToken raw := "sha256:" ++ raw
  encodeJwt _ _ := "jwt"
  lower text := if text = "Fresh-secret-2" then "fresh-secret-2" else text
  upper text := if text = "Fresh-secret-2" then "FRESH-SECRET-2" else text
  isDigit char := char.isDigit

def ada (disabled : Bool) : AuthUser where
  userId := "user_ada"
  email := "ada@example.org"
  displayName := "Ada"
  passwordHash := some "argon2:Old-secret-1"
  emailVerified := true
  disabled
  createdAt := 0
  updatedAt := 0

def firstToken : RefreshToken where
  tokenHash := "sha256:first"
  familyId := "session_first"
  userId := "user_ada"
  tenantId := "default"
  expiresAt := 100
  createdAt := 0

def tables (disabled : Bool) : AuthDatabase where
  users := Dict.empty.set "user_ada" (ada disabled)
  memberships := Dict.empty.set ("default", "user_ada")
    { tenantId := "default", userId := "user_ada", role := .member, createdAt := 0 }
  tokens := ⟨Dict.empty.set "sha256:first" firstToken, Dict.empty⟩

theorem tables_settled (disabled : Bool) : (tables disabled).Settled plainPlatform := by
  have only : ∀ {tokenHash row}, (tables disabled).tokens.committed.get? tokenHash = some row →
        tokenHash = "sha256:first" ∧ row = firstToken := by
    intro tokenHash row stored
    rw [tables, get?_set] at stored
    split at stored
    · rename_i here
      exact ⟨here, (some.inj stored).symm⟩
    cases stored
  refine ⟨rfl, rfl, rfl, fun tokenHash row stored => ?_, fun first second row other one two _ => ?_,
    fun userId user found => ?_, fun count _ tokenHash row stored same => ?_⟩
  · obtain ⟨rfl, rfl⟩ := only stored
    exact ⟨rfl, by decide⟩
  · exact (only one.1).1.trans (only two.1).1.symm
  · rw [tables, get?_set] at found
    split at found
    · rename_i here
      cases found
      exact here.symm
    cases found
  obtain ⟨rfl, rfl⟩ := only stored
  have first : "session_" ++ "first" = firstToken.familyId := by decide
  have drawn := congrArg String.toList (session_inj (first.trans same))
  cases count with
  | zero => simp [plainPlatform] at drawn
  | succ count => simp [plainPlatform, List.replicate_succ] at drawn

def refreshAndLogout : Nat → AuthRequest
  | 0 => .refresh "first"
  | 1 => .logout "first"
  | _ => .refresh ""

def loginAndChange : Nat → AuthRequest
  | 0 => .login "ada@example.org" "Old-secret-1"
  | _ => .changePassword "default" "user_ada" "Old-secret-1" "Fresh-secret-2"

def steps (actor count : Nat) : List (Nat × AuthInput) := List.replicate count (actor, {})

/-- A logout fixes its rows while a rotation of the family is about to commit, and the
replacement can be rotated after it.  A login that has verified the old password stores its
token after the password was changed.  A disabled account refreshes. -/
theorem revocations_overtaken : (∃ platform service requests database schedule,
    AuthDatabase.Settled platform database ∧
      let reached := (authPool service requests database).run (component platform)
        schedule
      HasEnded requests reached 1 ∧
        ∃ token tokenHash row, (reached.state.trail 1).token = some token ∧
          Live reached.state.tokens tokenHash row ∧ row.familyId = token.familyId ∧
          ∃ session, (reached.run (component platform) (steps 2 12)).thread 2 =
            .done (some session)) ∧
  (∃ platform service requests database schedule, AuthDatabase.Settled platform database ∧
      let reached := (authPool service requests database).run (component platform)
        schedule
      requests 1 = .changePassword "default" "user_ada" "Old-secret-1" "Fresh-secret-2" ∧
        reached.thread 1 = .done none ∧
        ∃ savedAt tokenHash row, (reached.state.trail 1).changed = some ("user_ada", savedAt) ∧
          Live reached.state.tokens tokenHash row ∧ row.userId = "user_ada" ∧
          reached.state.verified row.familyId ≤ savedAt) ∧
  ∃ platform service requests database schedule, AuthDatabase.Settled platform database ∧
      let reached := (authPool service requests database).run (component platform)
        schedule
      ∃ session, reached.thread 0 = .done (some session) ∧ session.user.disabled = true := by
  refine ⟨?_, ?_, ?_⟩
  · refine ⟨plainPlatform, plainService, refreshAndLogout, tables false,
      steps 0 9 ++ steps 1 3 ++ steps 0 1 ++ steps 1 2, tables_settled false,
      .inl ⟨"first", rfl, none, rfl⟩, firstToken, "sha256:", _, rfl, ⟨rfl, rfl⟩, rfl, _, rfl⟩
  · exact ⟨plainPlatform, plainService, loginAndChange, tables false,
      steps 0 5 ++ steps 1 8 ++ steps 0 2, tables_settled false, rfl, rfl, _, "sha256:", _, rfl,
      ⟨rfl, rfl⟩, rfl, by decide⟩
  exact ⟨plainPlatform, plainService, refreshAndLogout, tables true, steps 0 12,
    tables_settled true, _, rfl, rfl⟩

/-- The same logout after the rotation has committed: the replacement is revoked. -/
theorem revocations_hold_in_turn :
  let reached := (authPool plainService refreshAndLogout (tables false)).run
    (component plainPlatform) (steps 0 12 ++ steps 1 5)
  reached.thread 1 = .done none ∧ ∀ tokenHash row, Live reached.state.tokens tokenHash row →
      row.familyId ≠ "session_first" := by
  refine ⟨rfl, ?_⟩
  exact (revocations_hold plainPlatform plainService refreshAndLogout (tables false)
    (tables_settled false) (steps 0 12 ++ steps 1 5) (by decide)).2.1 1
    (.inl ⟨"first", rfl, none, rfl⟩) _ rfl

end

end AgentHarness.Auth
