import AgentHarness.Auth.Service
import AgentHarness.Collections.LockedTable
import AgentHarness.Interaction.Pool

/-!
The authentication tables under any number of concurrent calls.

A statement that waits for a row lock has not been answered yet; one that is answered while
another transaction holds its row has failed, as it does at a deadlock or a timeout.  A
failed statement rolls its transaction back.  Beside the tables the state keeps a trail of
every call, and the moment at which a family's password was verified; no program reads them.
-/

namespace AgentHarness.Auth

open Collections Interaction

inductive Transaction where
  | closed
  | fixed (rows : TokenRows) (hashes : List String)
  | claimed (tokenHash : String) (moment : Nat)
  | rotating (tokenHash replacement : String) (moment : Nat)
  | opening (tokenHash : String)
  | revoking (rows : TokenRows) (moment : Nat)
  deriving DecidableEq

structure Trail where
  token : Option RefreshToken := none
  account : Option AuthUser := none
  readAt : Nat := 0
  changed : Option (String × Nat) := none
  minted : Option String := none
  transaction : Transaction := .closed
  rotated : Bool := false
  revoked : Option (TokenRows × Nat) := none

namespace Trail

def revocations (trail : Trail) : List (TokenRows × Option Nat) := (match trail.transaction with
    | .fixed rows _ => [(rows, none)]
    | .revoking rows moment => [(rows, some moment)]
    | _ => []) ++ (trail.revoked.map fun revoked => (revoked.1, some revoked.2)).toList

def claimedAt (trail : Trail) : Option Nat :=
  match trail.transaction with
  | .claimed _ moment | .rotating _ _ moment => some moment
  | _ => none

def afterWrite (moment : Nat) (rows : TokenRows) (rowcount : Nat) : Transaction :=
  match rows with
  | .token tokenHash => if rowcount = 0 then .closed else .claimed tokenHash moment
  | _ => .revoking rows moment

def afterInsert (trail : Trail) (token : RefreshToken) : Transaction :=
  match trail.transaction with
  | .claimed tokenHash moment => .rotating tokenHash token.tokenHash moment
  | _ => .opening token.tokenHash

def afterCommit (trail : Trail) : Trail :=
  match trail.transaction with
  | .revoking rows moment => { trail with transaction := .closed, revoked := some (rows, moment) }
  | .rotating _ _ _ => { trail with transaction := .closed, rotated := true }
  | _ => { trail with transaction := .closed }

def after (trail : Trail) (moment : Nat) : (op : AuthOp) → Except AuthError op.Answer → Trail
  | .getUserByEmail _, .ok found => { trail with account := found, readAt := moment }
  | .getUser _, .ok user => { trail with account := some user, readAt := moment }
  | .saveUser user, .ok _ => { trail with changed := some (user.userId, moment) }
  | .getRefreshToken _, .ok found => { trail with token := found }
  | .generate .uuid, .ok id => { trail with minted := some id }
  | .fixRows rows, .ok hashes => { trail with transaction := .fixed rows hashes }
  | .writeRows rows _ _ _, .ok rowcount =>
    { trail with transaction := afterWrite moment rows rowcount }
  | .insertRow token, .ok _ => { trail with transaction := trail.afterInsert token, minted := none }
  | .commit, .ok _ => trail.afterCommit
  | .rollback, .ok _ => { trail with transaction := .closed }
  | _, .ok _ => trail
  | _, .error _ => { trail with transaction := .closed }

end Trail

structure AuthDatabase where
  users : Dict String AuthUser := Dict.empty
  memberships : Dict (String × String) Membership := Dict.empty
  tokens : LockedTable Nat String RefreshToken := ⟨Dict.empty, Dict.empty⟩
  generated : Nat := 0
  moment : Nat := 0
  trails : Dict Nat Trail := Dict.empty
  /-- When the login that opened a family read the account; zero for older families. -/
  verified : String → Nat := fun _ => 0

/-- The connection may be lost before a statement takes effect, or before its answer arrives. -/
inductive AuthFault where
  | none
  | before (message : String)
  | after (message : String)

structure AuthInput where
  now : Int := 0
  fault : AuthFault := .none

structure AuthPlatform where
  generated : Draw → Nat → String
  distinct : ∀ draw, Function.Injective (generated draw)

namespace AuthDatabase

variable (database : AuthDatabase)

def trail (actor : Nat) : Trail := (database.trails.get? actor).getD {}

def userWithEmail (email : String) : Option AuthUser :=
  database.users.values.find? fun user => user.email = email

def revision (rows : TokenRows) (revokedAt : Int) (replacedByHash : Option String)
  (token : RefreshToken) : Option RefreshToken :=
  if rows.selects token then
    some { token with
      revokedAt := some revokedAt, replacedByHash := replacedByHash <|> token.replacedByHash }
  else none

def answer (platform : AuthPlatform) (actor : Nat) (input : AuthInput) :
    (op : AuthOp) → Except AuthError op.Answer × AuthDatabase
  | .clock => (.ok input.now, database)
  | .generate draw =>
    (.ok (platform.generated draw database.generated),
      { database with generated := database.generated + 1 })
  | .getUserByEmail email => (.ok (database.userWithEmail email), database)
  | .getUser userId =>
    match database.users.get? userId with
    | none => (.error (.notFound "user not found"), database)
    | some user => (.ok user, database)
  | .saveUser user =>
    match database.users.get? user.userId with
    | none => (.error (.notFound "user not found"), database)
    | some stored =>
      (.ok (),
        { database with
          users := database.users.set user.userId
            { user with email := stored.email, createdAt := stored.createdAt } })
  | .getMembership tenantId userId =>
    match database.memberships.get? (tenantId, userId) with
    | none => (.error (.notFound "tenant membership not found"), database)
    | some membership => (.ok membership, database)
  | .getRefreshToken tokenHash => (.ok (database.tokens.committed.get? tokenHash), database)
  | .fixRows rows => (.ok (database.tokens.select rows.selects), database)
  | .writeRows rows hashes revokedAt replacedByHash =>
    if ∃ tokenHash ∈ hashes, database.tokens.Locked actor tokenHash then
      (.error (.database "could not obtain lock on row"), database)
    else
      let change := revision rows revokedAt replacedByHash
      (.ok (hashes.filter (fun tokenHash =>
          ((database.tokens.committed.get? tokenHash).bind change).isSome)).length,
        { database with tokens := database.tokens.revise actor change hashes })
  | .insertRow token =>
    if (database.tokens.committed.get? token.tokenHash).isSome ∨
        (database.tokens.written.get? token.tokenHash).isSome then
      (.error (.database "duplicate key value violates unique constraint"), database)
    else
      (.ok (),
        { database with
          tokens := database.tokens.write actor token.tokenHash token
          verified :=
            if (database.trail actor).transaction = .closed then
              Function.update database.verified token.familyId (database.trail actor).readAt
            else database.verified })
  | .commit => (.ok (), { database with tokens := database.tokens.commit actor })
  | .rollback => (.ok (), { database with tokens := database.tokens.rollback actor })

def rollback (database : AuthDatabase) (actor : Nat) : AuthDatabase :=
  { database with tokens := database.tokens.rollback actor }

def settle (actor : Nat) (fault : AuthFault) (op : AuthOp)
  (reply : Except AuthError op.Answer × AuthDatabase) :
  Except AuthError op.Answer × AuthDatabase :=
  match reply.1, fault with
  | .ok answer, .none => (.ok answer, reply.2)
  | .ok _, .before message => (.error (.database message), database.rollback actor)
  | .ok _, .after message =>
    (.error (.database message), if op.commits then reply.2 else database.rollback actor)
  | .error error, _ => (.error error, database.rollback actor)

def moved (actor : Nat) (trail : Trail) : AuthDatabase :=
  { database with
    moment := database.moment + 1, trails := database.trails.set actor trail }

def respond (platform : AuthPlatform) (actor : Nat) (input : AuthInput) (database : AuthDatabase)
  (op : AuthOp) : Except AuthError op.Answer × AuthDatabase :=
  let fault := if op.isLocal then .none else input.fault
  let reply := database.settle actor fault op (database.answer platform actor input op)
  (reply.1, reply.2.moved actor ((database.trail actor).after database.moment op reply.1))

def component (platform : AuthPlatform) :
  Component AuthOp AuthOp.Answer AuthError Nat AuthDatabase AuthInput where
  respond := respond platform

end AuthDatabase

inductive AuthRequest where
  | login (email password : String)
  | refresh (rawToken : String)
  | logout (rawToken : String)
  | changePassword (tenantId userId currentPassword newPassword : String)

namespace AuthService

def serve (service : AuthService) : AuthRequest → AuthProgram (Option AuthSession)
  | .login email password =>
    (service.login email password).bind fun session => .done (some session)
  | .refresh rawToken => (service.refresh rawToken).bind fun session => .done (some session)
  | .logout rawToken => (service.logout rawToken).bind fun _ => .done none
  | .changePassword tenantId userId currentPassword newPassword =>
    (service.changePassword tenantId userId currentPassword newPassword).bind
      (fun _ => .done none)

end AuthService

abbrev AuthPool := Pool AuthOp AuthOp.Answer AuthError Nat AuthDatabase (Option AuthSession)

def authPool (service : AuthService) (requests : Nat → AuthRequest) (database : AuthDatabase) :
  AuthPool where
  state := database
  thread actor := service.serve (requests actor)

end AgentHarness.Auth
