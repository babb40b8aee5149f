import AgentHarness.Auth.Accounts
import AgentHarness.Interaction.Serial

/-!
Calls that read a user record and write it back: `update_profile`, `change_password`, and any
other of this kind.
-/

namespace AgentHarness.Auth

open Collections Interaction Program AccountService

/-- The rows of `auth_users`, each under its own key. -/
structure UserTable where
  rows : Dict String AuthUser
  keyed : ∀ userId user, rows.get? userId = some user → user.userId = userId

namespace UserTable

def put (table : UserTable) (user : AuthUser) : UserTable where
  rows := table.rows.set user.userId user
  keyed := Dict.forall_set rfl table.keyed

/-- The `UPDATE` of `save_user`; no row, no table. -/
def save (table : UserTable) (user : AuthUser) : Option UserTable :=
  (table.rows.get? user.userId).map fun row =>
    table.put
      { row with
        displayName := user.displayName, passwordHash := user.passwordHash
        emailVerified := user.emailVerified, disabled := user.disabled
        updatedAt := user.updatedAt }

end UserTable

structure UserRecords where
  users : UserTable
  memberships : Dict (String × String) Membership
  refreshTokens : Dict String RefreshToken
  /-- History: the record that the call of an actor has read. -/
  readBy : Dict Nat AuthUser

inductive UserOp where
  | getMembership (tenantId userId : String)
  | getUser (userId : String)
  | saveUser (user : AuthUser)
  | revokeUserTokens (userId : String) (revokedAt : Int)

abbrev UserOp.Answer : UserOp → Type
  | .getMembership _ _ => Membership
  | .getUser _ | .saveUser _ => AuthUser
  | .revokeUserTokens _ _ => Unit

abbrev UserProgram (α : Type) : Type := Program UserOp UserOp.Answer AuthError α

abbrev UserOp.ask (op : UserOp) : UserProgram op.Answer := perform op id

namespace UserRecords

def answer (records : UserRecords) (actor : Nat) :
    (op : UserOp) → Except AuthError op.Answer × UserRecords
  | .getMembership tenantId userId =>
    match records.memberships.get? (tenantId, userId) with
    | some membership => (.ok membership, records)
    | none => (.error (.notFound "tenant membership not found"), records)
  | .getUser userId =>
    match records.users.rows.get? userId with
    | some user => (.ok user, { records with readBy := records.readBy.set actor user })
    | none => (.error (.notFound "user not found"), records)
  | .saveUser user =>
    match records.users.save user with
    | some users => (.ok user, { records with users })
    | none => (.error (.notFound "user not found"), records)
  | .revokeUserTokens userId revokedAt =>
    (.ok (), { records with
      refreshTokens := AuthRepository.revoked records.refreshTokens (.user userId) revokedAt })

def component : Component UserOp UserOp.Answer AuthError Nat UserRecords Unit where
  respond actor _ records op := records.answer actor op

end UserRecords

def updateProfile (tenantId userId displayName : String) (now : Int) : UserProgram AuthUser := do
  let _ ← (UserOp.getMembership tenantId userId).ask
  let name := strip displayName
  if name = "" then .raised (.value "display name is required")
  else do
    let user ← (UserOp.getUser userId).ask
    (UserOp.saveUser { user with displayName := short name, updatedAt := now }).ask

def changePassword (service : AuthService) (tenantId userId currentPassword newPassword : String)
  (now : Int) (salt : String) : UserProgram Unit := do
  let _ ← (UserOp.getMembership tenantId userId).ask
  let user ← (UserOp.getUser userId).ask
  match service.checkChange user currentPassword newPassword with
  | .error error => .raised error
  | .ok _ => do
      let _ ← (UserOp.saveUser
        { user with
          passwordHash := some (service.hashPassword newPassword salt), updatedAt := now }).ask
      (UserOp.revokeUserTokens userId now).ask

structure UserChange where
  (tenantId userId : String)
  check : Except AuthError Unit
  modify : AuthUser → Except AuthError AuthUser
  revokedAt : Option Int
  keeps : ∀ user updated, modify user = .ok updated → updated.userId = user.userId

namespace UserChange

def perform (change : UserChange) : UserProgram AuthUser := do
  let _ ← (UserOp.getMembership change.tenantId change.userId).ask
  match change.check with
  | .error error => .raised error
  | .ok _ => do
      let user ← (UserOp.getUser change.userId).ask
      match change.modify user with
      | .error error => .raised error
      | .ok updated => do
          let saved ← (UserOp.saveUser updated).ask
          match change.revokedAt with
          | none => return saved
          | some now => do
              let _ ← (UserOp.revokeUserTokens change.userId now).ask
              return saved

def ofProfile (tenantId userId displayName : String) (now : Int) : UserChange where
  tenantId
  userId
  check := if strip displayName = "" then .error (.value "display name is required") else .ok ()
  modify user :=
    .ok { user with
      displayName := short (strip displayName), updatedAt := now }
  revokedAt := none
  keeps := by
    rintro user updated ⟨⟩
    rfl

def ofPassword (service : AuthService) (tenantId userId currentPassword newPassword : String)
  (now : Int) (salt : String) : UserChange where
  tenantId
  userId
  check := .ok ()
  modify user :=
    (service.checkChange user currentPassword newPassword).map fun _ =>
      { user with
        passwordHash := some (service.hashPassword newPassword salt), updatedAt := now }
  revokedAt := some now
  keeps := by
    intro user updated changed
    cases checked : service.checkChange user currentPassword newPassword with
    | error error =>
      rw [checked] at changed
      cases changed
    | ok _ =>
      rw [checked] at changed
      cases changed
      rfl

end UserChange

inductive UserRequest where
  | updateProfile (tenantId userId displayName : String) (now : Int)
  | changePassword (tenantId userId currentPassword newPassword : String) (now : Int)
      (salt : String)
  | other (change : UserChange)

namespace UserRequest

def serve (service : AuthService) : UserRequest → UserProgram (Option AuthUser)
  | .updateProfile tenantId userId displayName now =>
    (Auth.updateProfile tenantId userId displayName now).bind fun user => .done (some user)
  | .changePassword tenantId userId currentPassword newPassword now salt =>
    (Auth.changePassword service tenantId userId currentPassword newPassword now salt).bind
      fun _ => .done none
  | .other change => change.perform.bind fun user => .done (some user)

def change (service : AuthService) : UserRequest → UserChange
  | .updateProfile tenantId userId displayName now =>
    UserChange.ofProfile tenantId userId displayName now
  | .changePassword tenantId userId currentPassword newPassword now salt =>
    UserChange.ofPassword service tenantId userId currentPassword newPassword now salt
  | .other change => change

def returns : UserRequest → AuthUser → Option AuthUser
  | .changePassword _ _ _ _ _ _, _ => none
  | _, user => some user

theorem serve_eq (service : AuthService) (request : UserRequest) : request.serve service =
  (request.change service).perform.bind fun user => .done (request.returns user) := by
  cases request with
  | other change => rfl
  | updateProfile tenantId userId displayName now =>
    by_cases empty : strip displayName = ""
    · simp [serve, Auth.updateProfile, UserChange.perform, change, UserChange.ofProfile, if_pos empty, bind_eq, bind_assoc, raised_bind]
    simp only [serve, Auth.updateProfile, UserChange.perform, change, UserChange.ofProfile,
      if_neg empty, bind_eq, bind_assoc, pure_eq, done_bind]
    rfl
  | changePassword tenantId userId currentPassword newPassword now salt =>
    simp only [serve, Auth.changePassword, UserChange.perform, change, UserChange.ofPassword,
      bind_eq, bind_assoc]
    congr 1
    funext membership
    congr 1
    funext user
    cases service.checkChange user currentPassword newPassword with
    | error error => rfl
    | ok _ =>
      dsimp only [Except.map]
      simp only [bind_assoc, pure_eq, done_bind]
      rfl

end UserRequest

end AgentHarness.Auth
