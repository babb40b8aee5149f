import AgentHarness.Interaction.Program
import AgentHarness.Text.Characters

/-!
Users, memberships, refresh tokens and sessions.

Instants are integers, in microseconds.  The password hasher, the token digest, the signer
of access tokens and the Unicode tables of `str` are parameters of the service.
-/

namespace AgentHarness.Auth

inductive Role where
  | owner
  | admin
  | member
  | viewer
  deriving DecidableEq

structure AuthUser where
  (userId email displayName : String)
  passwordHash : Option String := none
  (emailVerified disabled : Bool)
  (createdAt updatedAt : Int)
  deriving DecidableEq

structure Membership where
  (tenantId userId : String)
  role : Role
  createdAt : Int

structure RefreshToken where
  (tokenHash familyId userId tenantId : String)
  (expiresAt createdAt : Int)
  revokedAt : Option Int := none
  replacedByHash : Option String := none

structure AccessClaims where
  (sub tenantId email name : String)
  roles : List Role
  (iss aud tokenType : String)
  (iat exp : Int)
  jti : String

structure AuthSession where
  (accessToken refreshToken : String)
  tokenType : String := "bearer"
  expiresIn : Int
  user : AuthUser
  membership : Membership

inductive AuthError where
  | authentication (message : String)
  | value (message : String)
  | notFound (message : String)
  | database (message : String)
  deriving DecidableEq

structure AuthService where
  (jwtSecret issuer audience : String)
  (accessTokenSeconds refreshTokenDays : Int)
  (defaultTenantId dummyHash : String)
  /-- `PasswordHasher.hash`, of a password and a salt. -/
  hashPassword : String → String → String
  /-- `PasswordHasher.verify`, of a stored hash and a password. -/
  verifyPassword : String → String → Bool
  /-- `_hash_token`. -/
  hashToken : String → String
  encodeJwt : AccessClaims → String → String
  (lower upper : String → String)
  isDigit : Char → Bool

def second : Int := 1000000

def day : Int := 86400 * second

/-- `str.strip`. -/
def strip (value : String) : String :=
  String.ofList (((value.toList.dropWhile Text.isSpace).reverse.dropWhile Text.isSpace).reverse)

/-- `EMAIL_PATTERN.fullmatch`: one `@`, and a dot inside of what follows it. -/
def matchesEmail (email : String) : Bool :=
  let isPlain := fun char => !Text.isSpace char && char != '@'
  let name := email.toList.takeWhile isPlain
  match email.toList.drop name.length with
  | '@' :: host => !name.isEmpty && host.all isPlain && host.tail.dropLast.contains '.'
  | _ => false

namespace AuthService

def normalizeEmail (service : AuthService) (value : String) : Except AuthError String :=
  let email := service.lower (strip value)
  if 320 < email.length ∨ matchesEmail email = false then
    .error (.value "enter a valid email address")
  else .ok email

def validatePassword (service : AuthService) (value : String) : Except AuthError Unit :=
  if value.length < 10 ∨ 256 < value.length then
    .error (.value "password must contain 10 to 256 characters")
  else if service.lower value = value ∨ service.upper value = value ∨
      value.toList.any service.isDigit = false then
    .error (.value "password must include uppercase, lowercase and a number")
  else .ok ()

end AuthService

/-!
The Postgres repository, statement by statement.

An `UPDATE` of refresh tokens takes two steps: its snapshot fixes the rows, and once their
locks are free each of them is checked again and written.  What a session has written
becomes visible when it commits.  A statement that is alone in its transaction and names
its row by key takes effect in one step.
-/

open Interaction

/-- The `WHERE` clauses of the updates; each of them also asks for unrevoked rows. -/
inductive TokenRows where
  | token (tokenHash : String)
  | family (familyId : String)
  | user (userId : String)
  deriving DecidableEq

def TokenRows.selects (rows : TokenRows) (token : RefreshToken) : Bool :=
  token.revokedAt.isNone &&
    match rows with
    | .token tokenHash => token.tokenHash = tokenHash
    | .family familyId => token.familyId = familyId
    | .user userId => token.userId = userId

inductive Draw where
  | urlsafe
  | uuid
  | salt

inductive AuthOp where
  | clock
  | generate (draw : Draw)
  | getUserByEmail (email : String)
  | getUser (userId : String)
  | saveUser (user : AuthUser)
  | getMembership (tenantId userId : String)
  | getRefreshToken (tokenHash : String)
  | fixRows (rows : TokenRows)
  | writeRows (rows : TokenRows) (hashes : List String) (revokedAt : Int)
      (replacedByHash : Option String)
  | insertRow (token : RefreshToken)
  | commit
  | rollback

namespace AuthOp

abbrev Answer : AuthOp → Type
  | clock => Int
  | generate _ => String
  | getUserByEmail _ => Option AuthUser
  | getUser _ => AuthUser
  | saveUser _ => Unit
  | getMembership _ _ => Membership
  | getRefreshToken _ => Option RefreshToken
  | fixRows _ => List String
  | writeRows _ _ _ _ => Nat
  | insertRow _ | commit | rollback => Unit

def isLocal : AuthOp → Bool
  | clock | generate _ => true
  | _ => false

def commits : AuthOp → Bool
  | saveUser _ | commit => true
  | _ => false

end AuthOp

abbrev AuthProgram (α : Type) := Program AuthOp AuthOp.Answer AuthError α

abbrev AuthOp.ask (op : AuthOp) : AuthProgram op.Answer := Program.perform op fun answer => answer

namespace PostgresAuthRepository

/-- `session.execute(update(RefreshTokenRow)…)`, and its `rowcount`. -/
def update (rows : TokenRows) (revokedAt : Int) (replacedByHash : Option String) :
  AuthProgram Nat := do
  let hashes ← (AuthOp.fixRows rows).ask
  (AuthOp.writeRows rows hashes revokedAt replacedByHash).ask

def addRefreshToken (token : RefreshToken) : AuthProgram Unit := do
  let _ ← (AuthOp.insertRow token).ask
  AuthOp.commit.ask

def rotateRefreshToken (currentHash : String) (replacement : RefreshToken) (revokedAt : Int) :
  AuthProgram Bool := do
  let rowcount ← update (.token currentHash) revokedAt (some replacement.tokenHash)
  if rowcount = 0 then
    AuthOp.rollback.ask.bind fun _ => .done false
  else
    AuthOp.insertRow replacement |>.ask.bind fun _ => AuthOp.commit.ask.bind (fun _ => .done true)

def revokeTokenFamily (familyId : String) (revokedAt : Int) : AuthProgram Unit := do
  let _ ← update (.family familyId) revokedAt none
  AuthOp.commit.ask

def revokeUserTokens (userId : String) (revokedAt : Int) : AuthProgram Unit := do
  let _ ← update (.user userId) revokedAt none
  AuthOp.commit.ask

end PostgresAuthRepository

end AgentHarness.Auth
