import AgentHarness.Auth.Service
import AgentHarness.Collections.Dict
import AgentHarness.Interaction.Fallible

/-!
Accounts that people register, and that sign-ins by an OAuth provider are linked to.
-/

namespace AgentHarness.Auth

open Collections Interaction

inductive OAuthProvider where
  | google
  | github
  deriving DecidableEq

def OAuthProvider.value : OAuthProvider → String
  | google => "google"
  | github => "github"

structure OAuthProfile where
  provider : OAuthProvider
  (subject email displayName : String)
  emailVerified : Bool

structure OAuthIdentity where
  (userId providerEmail : String)

inductive AccountError where
  | auth (error : AuthError)
  | conflict (message : String)
  | registrationDisabled (message : String)

structure AccountTables where
  users : Dict String AuthUser := Dict.empty
  memberships : Dict (String × String) Membership := Dict.empty
  identities : Dict (OAuthProvider × String) OAuthIdentity := Dict.empty
  refreshTokens : Dict String RefreshToken := Dict.empty
  /-- History: the emails that a provider verified for a person. -/
  verified : List (Nat × String) := []
  /-- History: who chose the password of an account. -/
  passwordBy : Dict String Nat := Dict.empty
  /-- History: whom a refresh token was issued to. -/
  tokenBy : Dict String Nat := Dict.empty

structure AccountService where
  auth : AuthService
  allowRegistration : Bool
  enabled : OAuthProvider → Bool
  personOf : OAuthProvider → String → Nat

structure Draws where
  now : Int := 0
  userId : String := ""
  familyId : String := ""
  raw : String := ""
  salt : String := ""
  jti : String := ""

abbrev AccountCall (α : Type) := Fallible AccountTables AccountError α

namespace AuthRepository

def look {α : Type} (value : AccountTables → Except AccountError α) : AccountCall α :=
  fun tables => (value tables, tables)

def byEmail (tables : AccountTables) (email : String) : Option AuthUser :=
  tables.users.values.find? fun user => user.email = email

def found {α : Type} (message : String) : Option α → Except AccountError α
  | some value => .ok value
  | none => .error (.auth (.notFound message))

def getUserByEmail (email : String) : AccountCall (Option AuthUser) :=
  look fun tables => .ok (byEmail tables email)

def getUser (userId : String) : AccountCall AuthUser :=
  look (fun tables => found "user not found" (tables.users.get? userId))

def getMembership (tenantId userId : String) : AccountCall Membership :=
  look (fun tables =>
    found "tenant membership not found" (tables.memberships.get? (tenantId, userId)))

def countMembers (tenantId : String) : AccountCall Nat :=
  look (fun tables =>
    .ok (tables.memberships.values.countP fun membership => membership.tenantId = tenantId))

def isTaken (tables : AccountTables) (user : AuthUser) (membership : Membership) : Bool :=
  (tables.users.get? user.userId).isSome || (byEmail tables user.email).isSome ||
    (tables.memberships.get? (membership.tenantId, membership.userId)).isSome

variable (person : Nat)

def createUser (user : AuthUser) (membership : Membership) : AccountCall Unit :=
  fun tables =>
    if isTaken tables user membership then
      (.error (.conflict "an account with this email already exists"), tables)
    else
      (.ok (),
        { tables with
          users := tables.users.set user.userId user
          memberships := tables.memberships.set (membership.tenantId, membership.userId) membership
          passwordBy := tables.passwordBy.set user.userId person })

def saveUser (user : AuthUser) : AccountCall Unit :=
  fun tables =>
    if (tables.users.get? user.userId).isSome then
      (.ok (),
        { tables with
          users := tables.users.set user.userId user
          passwordBy := tables.passwordBy.set user.userId person })
    else (.error (.auth (.notFound "user not found")), tables)

def getOauthUser (provider : OAuthProvider) (subject : String) : AccountCall (Option AuthUser) :=
  look (fun tables =>
    .ok ((tables.identities.get? (provider, subject)).bind (fun identity =>
      tables.users.get? identity.userId)))

def linkOauthIdentity (provider : OAuthProvider) (subject : String) (identity : OAuthIdentity) :
  AccountCall Unit :=
  fun tables =>
    if (tables.identities.get? (provider, subject)).isSome then
      (.error (.conflict "OAuth identity is already linked"), tables)
    else
      (.ok (), { tables with identities := tables.identities.set (provider, subject) identity })

def addRefreshToken (token : RefreshToken) : AccountCall Unit :=
  fun tables =>
    if (tables.refreshTokens.get? token.tokenHash).isSome then
      (.error (.auth (.database "duplicate refresh token")), tables)
    else
      (.ok (),
        { tables with
          refreshTokens := tables.refreshTokens.set token.tokenHash token
          tokenBy := tables.tokenBy.set token.tokenHash person })

def getRefreshToken (tokenHash : String) : AccountCall (Option RefreshToken) :=
  look fun tables => .ok (tables.refreshTokens.get? tokenHash)

def rotateRefreshToken (currentHash : String) (replacement : RefreshToken) (revokedAt : Int) :
  AccountCall Bool :=
  fun tables =>
    match tables.refreshTokens.get? currentHash with
    | none => (.ok false, tables)
    | some current =>
      if current.revokedAt.isSome then (.ok false, tables)
      else
        let claimed := tables.refreshTokens.set currentHash
          { current with
            revokedAt := some revokedAt, replacedByHash := some replacement.tokenHash }
        if (claimed.get? replacement.tokenHash).isSome then
          (.error (.auth (.database "duplicate refresh token")), tables)
        else
          (.ok true,
            { tables with
              refreshTokens := claimed.set replacement.tokenHash replacement
              tokenBy := tables.tokenBy.set replacement.tokenHash person })

def revoked (tokens : Dict String RefreshToken) (rows : TokenRows) (revokedAt : Int) :
  Dict String RefreshToken where
  entries := tokens.entries.map (fun entry =>
    (entry.1,
      if rows.selects entry.2 then { entry.2 with revokedAt := some revokedAt } else entry.2))
  distinct := by
    rw [List.map_map]
    exact tokens.distinct

def revokeTokens (rows : TokenRows) (revokedAt : Int) : AccountCall Unit :=
  Fallible.write (fun tables =>
    { tables with refreshTokens := revoked tables.refreshTokens rows revokedAt })

def noteVerified (email : String) : AccountCall Unit :=
  Fallible.write fun tables => { tables with verified := (person, email) :: tables.verified }

end AuthRepository

namespace AccountService

open AuthRepository

variable (service : AccountService)

def require {α : Type} (outcome : Except AuthError α) : AccountCall α :=
  Fallible.require (outcome.mapError .auth)

def refuse {α : Type} (message : String) : AccountCall α :=
  Fallible.require (.error (.auth (.authentication message)))

def newRefreshToken (user : AuthUser) (membership : Membership) (familyId : Option String)
  (draws : Draws) : RefreshToken where
  tokenHash := service.auth.hashToken draws.raw
  familyId := (familyId.filter fun family => family ≠ "").getD ("session_" ++ draws.familyId)
  userId := user.userId
  tenantId := membership.tenantId
  expiresAt := draws.now + service.auth.refreshTokenDays * day
  createdAt := draws.now

def sessionResponse (user : AuthUser) (membership : Membership) (draws : Draws) : AuthSession :=
  let payload : AccessClaims :=
    { sub := user.userId, tenantId := membership.tenantId, email := user.email
      name := user.displayName, roles := [membership.role], iss := service.auth.issuer
      aud := service.auth.audience, tokenType := "access", iat := draws.now / second
      exp := (draws.now + service.auth.accessTokenSeconds * second) / second
      jti := "access_" ++ draws.jti }
  { accessToken := service.auth.encodeJwt payload service.auth.jwtSecret, refreshToken := draws.raw
    expiresIn := service.auth.accessTokenSeconds, user, membership }

variable (person : Nat)

def issueSession (user : AuthUser) (membership : Membership) (draws : Draws) :
  AccountCall AuthSession := do
  let stored := service.newRefreshToken user membership none draws
  addRefreshToken person stored
  return service.sessionResponse user membership draws

def newMembership (userId : String) (members : Nat) (draws : Draws) : Membership where
  tenantId := service.auth.defaultTenantId
  userId
  role := if members = 0 then .owner else .member
  createdAt := draws.now

/-- `value[:160]`. -/
def short (value : String) : String := String.ofList (value.toList.take 160)

/-- `display_name.strip() or normalized_email.split("@", 1)[0]`. -/
def registeredName (displayName email : String) : String :=
  let name := strip displayName
  if name = "" then String.ofList (email.toList.takeWhile (· ≠ '@')) else name

def register (email password displayName : String) (draws : Draws) : AccountCall AuthSession := do
  if service.allowRegistration then do
    let normalizedEmail ← require (service.auth.normalizeEmail email)
    require (service.auth.validatePassword password)
    let user : AuthUser :=
      { userId := "user_" ++ draws.userId, email := normalizedEmail
        displayName := short (registeredName displayName normalizedEmail)
        passwordHash := some (service.auth.hashPassword password draws.salt), emailVerified := false
        disabled := false, createdAt := draws.now, updatedAt := draws.now }
    let members ← countMembers service.auth.defaultTenantId
    let membership := service.newMembership user.userId members draws
    createUser person user membership
    service.issueSession person user membership draws
  else Fallible.require (.error (.registrationDisabled "email registration is disabled"))

def loginEmail (email : String) : String :=
  match service.auth.normalizeEmail email with
  | .ok normalized => normalized
  | .error _ => service.auth.lower (strip email)

def login (email password : String) (draws : Draws) : AccountCall AuthSession := do
  let found ← getUserByEmail (service.loginEmail email)
  match service.auth.authenticate found password with
  | none => refuse "email or password is incorrect"
  | some user => do
      let membership ← getMembership service.auth.defaultTenantId user.userId
      service.issueSession person user membership draws

def revokeAndRefuse (familyId : String) (now : Int) (message : String) :
  AccountCall AuthSession := do
  revokeTokens (.family familyId) now
  refuse message

def rotate (tokenHash : String) (current : RefreshToken) (draws : Draws) :
  AccountCall AuthSession := do
  let user ← getUser current.userId
  let membership ← getMembership current.tenantId current.userId
  let replacement := service.newRefreshToken user membership (some current.familyId) draws
  let rotated ← rotateRefreshToken person tokenHash replacement draws.now
  if rotated then return service.sessionResponse user membership draws
  else revokeAndRefuse current.familyId draws.now "refresh token reuse detected"

def refresh (person : Nat) (rawToken : String) (draws : Draws) : AccountCall AuthSession := do
  match ← getRefreshToken (service.auth.hashToken rawToken) with
  | none => refuse "refresh token is invalid"
  | some current =>
    if current.revokedAt.isSome then
      revokeAndRefuse current.familyId draws.now "refresh token reuse detected"
    else if current.expiresAt ≤ draws.now then
      revokeAndRefuse current.familyId draws.now "refresh token has expired"
    else service.rotate person (service.auth.hashToken rawToken) current draws

def changePassword (tenantId userId currentPassword newPassword : String) (draws : Draws) :
  AccountCall Unit := do
  let _ ← getMembership tenantId userId
  let user ← getUser userId
  require (service.auth.checkChange user currentPassword newPassword)
  saveUser person
    { user with
      passwordHash := some (service.auth.hashPassword newPassword draws.salt)
      updatedAt := draws.now }
  revokeTokens (.user userId) draws.now

def accountOf (profile : OAuthProfile) (draws : Draws) : AccountCall AuthUser := do
  match ← getUserByEmail profile.email with
  | some user => return user
  | none => do
      let user : AuthUser :=
        { userId := "user_" ++ draws.userId, email := profile.email
          displayName := short profile.displayName, passwordHash := none, emailVerified := true
          disabled := false, createdAt := draws.now, updatedAt := draws.now }
      let members ← countMembers service.auth.defaultTenantId
      createUser person user (service.newMembership user.userId members draws)
      return user

def linkedAccount (profile : OAuthProfile) (draws : Draws) : AccountCall AuthUser := do
  match ← getOauthUser profile.provider profile.subject with
  | some user => return user
  | none => do
      let user ← service.accountOf person profile draws
      linkOauthIdentity profile.provider profile.subject
        { userId := user.userId, providerEmail := profile.email }
      return user

/-- `exchange_oauth_code`, with the profile that the provider answered. -/
def exchangeOauthCode (profile : OAuthProfile) (draws : Draws) : AccountCall AuthSession := do
  if service.enabled profile.provider then do
    if profile.emailVerified then do
      let person := service.personOf profile.provider profile.subject
      noteVerified person profile.email
      let user ← service.linkedAccount person profile draws
      if user.disabled then refuse "this account is disabled"
      else do
        let membership ← getMembership service.auth.defaultTenantId user.userId
        service.issueSession person user membership draws
    else refuse "the OAuth provider did not verify this email"
  else refuse (profile.provider.value ++ " sign-in is not configured")

end AccountService

end AgentHarness.Auth
