import AgentHarness.Auth.Repositories

/-!
Login, refresh, logout and the change of a password.
-/

namespace AgentHarness.Auth

open Interaction AuthOp PostgresAuthRepository

namespace AuthService

variable (service : AuthService)

def refuse {α : Type} (message : String) : AuthProgram α := .raised (.authentication message)

variable (user : AuthUser)

/-- The raw token and the row to store for it; `family_id or …` draws a family for an
empty one too. -/
def newRefreshToken (membership : Membership) (familyId : Option String) :
  AuthProgram (String × RefreshToken) := do
  let raw ← (generate .urlsafe).ask
  let now ← clock.ask
  let family ← match familyId.filter (fun family => family ≠ "") with
    | some family => Program.done family
    | none => (generate .uuid).ask.bind (fun id => .done ("session_" ++ id))
  return (raw,
    { tokenHash := service.hashToken raw, familyId := family, userId := user.userId
      tenantId := membership.tenantId, expiresAt := now + service.refreshTokenDays * day
      createdAt := now })

def sessionResponse (membership : Membership) (refreshToken : String) :
  AuthProgram AuthSession := do
  let now ← clock.ask
  let id ← (generate .uuid).ask
  let payload : AccessClaims :=
    { sub := user.userId, tenantId := membership.tenantId, email := user.email
      name := user.displayName, roles := [membership.role], iss := service.issuer
      aud := service.audience, tokenType := "access", iat := now / second
      exp := (now + service.accessTokenSeconds * second) / second, jti := "access_" ++ id }
  return { accessToken := service.encodeJwt payload service.jwtSecret, refreshToken
           expiresIn := service.accessTokenSeconds, user, membership }

def issueSession (membership : Membership) : AuthProgram AuthSession := do
  let (rawRefresh, storedRefresh) ← service.newRefreshToken user membership none
  addRefreshToken storedRefresh
  service.sessionResponse user membership rawRefresh

def authenticate (user : Option AuthUser) (password : String) : Option AuthUser :=
  let encodedHash := (user.bind AuthUser.passwordHash).getD service.dummyHash
  let valid := service.verifyPassword encodedHash password
  user.filter fun user => user.passwordHash.isSome && valid && !user.disabled

def login (email password : String) : AuthProgram AuthSession := do
  let normalizedEmail :=
    match service.normalizeEmail email with
    | .ok normalized => normalized
    | .error _ => service.lower (strip email)
  let found ← (getUserByEmail normalizedEmail).ask
  match service.authenticate found password with
  | none => refuse "email or password is incorrect"
  | some user => do
      let membership ← (getMembership service.defaultTenantId user.userId).ask
      service.issueSession user membership

def revokeAndRefuse (familyId : String) (now : Int) (message : String) :
  AuthProgram AuthSession := do
  revokeTokenFamily familyId now
  refuse message

def rotate (rawToken : String) (current : RefreshToken) (now : Int) : AuthProgram AuthSession := do
  let user ← (getUser current.userId).ask
  let membership ← (getMembership current.tenantId current.userId).ask
  let (replacementRaw, replacement) ←
    service.newRefreshToken user membership (some current.familyId)
  let rotated ←
    rotateRefreshToken (service.hashToken rawToken) replacement now
  if rotated then service.sessionResponse user membership replacementRaw
  else revokeAndRefuse current.familyId now "refresh token reuse detected"

/-- The account is read for the new session, but `disabled` is not looked at. -/
def refresh (rawToken : String) : AuthProgram AuthSession := do
  let found ← (getRefreshToken (service.hashToken rawToken)).ask
  let now ← clock.ask
  match found with
  | none => refuse "refresh token is invalid"
  | some current =>
    if current.revokedAt.isSome then
      revokeAndRefuse current.familyId now "refresh token reuse detected"
    else if current.expiresAt ≤ now then
      revokeAndRefuse current.familyId now "refresh token has expired"
    else service.rotate rawToken current now

def logout (rawToken : String) : AuthProgram Unit := do
  match ← (getRefreshToken (service.hashToken rawToken)).ask with
  | none => return ()
  | some current =>
    let now ← clock.ask
    revokeTokenFamily current.familyId now

def checkChange (currentPassword newPassword : String) : Except AuthError Unit :=
  match user.passwordHash with
  | none => .error (.authentication "password login is not enabled for this account")
  | some passwordHash =>
    if service.verifyPassword passwordHash currentPassword = false then
      .error (.authentication "current password is incorrect")
    else
      match service.validatePassword newPassword with
      | .error error => .error error
      | .ok _ =>
        if currentPassword = newPassword then
          .error (.value "new password must be different from the current password")
        else .ok ()

def changePassword (tenantId userId currentPassword newPassword : String) : AuthProgram Unit := do
  let _ ← (getMembership tenantId userId).ask
  let user ← (getUser userId).ask
  match service.checkChange user currentPassword newPassword with
  | .error error => .raised error
  | .ok _ => do
      let now ← clock.ask
      let salt ← (generate .salt).ask
      let _ ← (saveUser
        { user with
          passwordHash := some (service.hashPassword newPassword salt), updatedAt := now }).ask
      revokeUserTokens userId now

end AuthService

end AgentHarness.Auth
