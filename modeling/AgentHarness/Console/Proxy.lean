import AgentHarness.Auth.Accounts
import AgentHarness.Interaction.Pool

/-!
The console's proxy: a request is sent on with the browser's access token, and once more after a
refresh when the API answers 401.
-/

namespace AgentHarness.Console

open Auth Interaction Program

structure Cookies where
  (access refresh : Option String)

/-- The `Set-Cookie` headers of a response. -/
inductive SetCookie where
  | keep
  | session (session : AuthSession)
  | clear

def Cookies.after (cookies : Cookies) : SetCookie → Cookies
  | .keep => cookies
  | .session session => { access := some session.accessToken, refresh := some session.refreshToken }
  | .clear => { access := none, refresh := none }

inductive WebError where
  /-- A `fetch` that throws. -/
  | unreachable
  | refused (error : AccountError)

structure Web where
  cookies : Cookies
  tables : AccountTables

inductive WebOp where
  | send
  /-- The API is asked; `carried` is the session that only this request has. -/
  | api (accessToken : Option String) (carried : Option AuthSession)
  | getRefreshToken (tokenHash : String)
  | getUser (userId : String)
  | getMembership (tenantId userId : String)
  | rotateRefreshToken (currentHash : String) (replacement : RefreshToken) (revokedAt : Int)
  | revokeTokenFamily (familyId : String) (revokedAt : Int)
  | receive (setCookie : SetCookie)

abbrev WebOp.Answer : WebOp → Type
  | .send => Cookies
  | .api _ _ => Nat
  | .getRefreshToken _ => Option RefreshToken
  | .getUser _ => AuthUser
  | .getMembership _ _ => Membership
  | .rotateRefreshToken _ _ _ => Bool
  | .revokeTokenFamily _ _ | .receive _ => Unit

abbrev WebProgram (α : Type) : Type := Program WebOp WebOp.Answer WebError α

abbrev WebOp.ask (op : WebOp) : WebProgram op.Answer := perform op id

inductive WebFault where
  | none
  | failed
  | unreachable
  deriving DecidableEq

structure WebInput where
  fault : WebFault := .none
  status : Nat := 200

namespace Web

def serve {α : Type} (web : Web) (fault : WebFault) (call : AccountCall α) :
  Except WebError α × Web :=
  match fault with
  | .none =>
    let ended := call web.tables
    (ended.1.mapError .refused, { web with tables := ended.2 })
  | .failed => (.error (.refused (.auth (.database "unavailable"))), web)
  | .unreachable => (.error .unreachable, web)

def answer (web : Web) (request : Nat) (input : WebInput) :
    (op : WebOp) → Except WebError op.Answer × Web
  | .send => (.ok web.cookies, web)
  | .api _ _ =>
    match input.fault with
    | .none => (.ok input.status, web)
    | _ => (.error .unreachable, web)
  | .getRefreshToken tokenHash => web.serve input.fault (AuthRepository.getRefreshToken tokenHash)
  | .getUser userId => web.serve input.fault (AuthRepository.getUser userId)
  | .getMembership tenantId userId =>
    web.serve input.fault (AuthRepository.getMembership tenantId userId)
  | .rotateRefreshToken currentHash replacement revokedAt =>
    web.serve input.fault
      (AuthRepository.rotateRefreshToken request currentHash replacement revokedAt)
  | .revokeTokenFamily familyId revokedAt =>
    web.serve input.fault (AuthRepository.revokeTokens (.family familyId) revokedAt)
  | .receive setCookie => (.ok (), { web with cookies := web.cookies.after setCookie })

def component : Component WebOp WebOp.Answer WebError Nat Web WebInput where
  respond request input web op := web.answer request input op

end Web

section

variable (service : AccountService)

def revokeAndRefuse (familyId : String) (now : Int) (message : String) :
  WebProgram AuthSession := do
  let _ ← (WebOp.revokeTokenFamily familyId now).ask
  .raised (.refused (.auth (.authentication message)))

def rotate (rawToken : String) (current : RefreshToken) (draws : Draws) :
  WebProgram AuthSession := do
  let user ← (WebOp.getUser current.userId).ask
  let membership ← (WebOp.getMembership current.tenantId current.userId).ask
  let replacement := service.newRefreshToken user membership (some current.familyId) draws
  let rotated ←
    (WebOp.rotateRefreshToken (service.auth.hashToken rawToken) replacement draws.now).ask
  if rotated then return service.sessionResponse user membership draws
  else revokeAndRefuse current.familyId draws.now "refresh token reuse detected"

def refresh (rawToken : String) (draws : Draws) : WebProgram AuthSession := do
  let found ← (WebOp.getRefreshToken (service.auth.hashToken rawToken)).ask
  match found with
  | none => .raised (.refused (.auth (.authentication "refresh token is invalid")))
  | some current =>
    if current.revokedAt.isSome then
      revokeAndRefuse current.familyId draws.now "refresh token reuse detected"
    else if current.expiresAt ≤ draws.now then
      revokeAndRefuse current.familyId draws.now "refresh token has expired"
    else rotate service rawToken current draws

/-- `refreshSession`: any answer that is not ok counts as no session. -/
def refreshSession (cookies : Cookies) (draws : Draws) : WebProgram (Option AuthSession) :=
  match cookies.refresh.filter (fun refreshToken => refreshToken ≠ "") with
  | none => .done none
  | some refreshToken =>
    ((refresh service refreshToken draws).bind fun session => .done (some session)).catching
      fun (error : WebError) =>
        match error with
        | .refused _ => .done none
        | .unreachable => .raised .unreachable

def forwarded (cookies : Cookies) (draws : Draws) : WebProgram (Nat × SetCookie) := do
  let status ← (WebOp.api cookies.access none).ask
  if status = 401 then do
    let refreshed ← refreshSession service cookies draws
    match refreshed with
    | some session => do
        let retried ← (WebOp.api (some session.accessToken) (some session)).ask
        return (retried, .session session)
    | none => return (status, .clear)
  else return (status, .keep)

/-- `forward`, from the browser to the browser. -/
def forward (draws : Draws) : WebProgram Nat := do
  let cookies ← WebOp.send.ask
  let (status, setCookie) ←
    (forwarded service cookies draws).catching fun _ => .done (502, .keep)
  let _ ← (WebOp.receive setCookie).ask
  return status

end

end AgentHarness.Console
