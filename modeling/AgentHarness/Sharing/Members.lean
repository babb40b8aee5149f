import AgentHarness.Auth.Repositories
import AgentHarness.Collections.Dict

/-!
The members of tenants and of team spaces, and the calls that change who they are.
-/

namespace AgentHarness.Sharing

open Interaction
open Auth (AuthUser Membership Role)

inductive SpaceRole
  | owner
  | admin
  | contributor
  | viewer
  deriving DecidableEq

def SpaceRole.value : SpaceRole → String
  | .owner => "owner"
  | .admin => "admin"
  | .contributor => "contributor"
  | .viewer => "viewer"

structure TeamSpace where
  (tenantId spaceId name : String)
  description : String := ""
  createdBy : String
  createdAt : Int

structure TeamSpaceMember where
  (tenantId spaceId userId : String)
  role : SpaceRole
  createdAt : Int

structure TenantMember where
  user : AuthUser
  membership : Membership

inductive MemberError
  | permission (message : String)
  | conflict (message : String)
  | notFound (message : String)

inductive MemberOp
  | clock
  | generateId (label : String)
  | createUser (user : AuthUser) (membership : Membership)
  | getUser (userId : String)
  | getMembership (tenantId userId : String)
  | countMembersWithRole (tenantId : String) (role : Role)
  | saveMembership (membership : Membership)
  | addSpace (space : TeamSpace) (owner : TeamSpaceMember)
  | getMember (tenantId spaceId userId : String)
  | listMembers (tenantId spaceId : String)
  | putMember (member : TeamSpaceMember)
  | deleteMember (tenantId spaceId userId : String)

namespace MemberOp

abbrev Answer : MemberOp → Type
  | clock => Int
  | generateId _ => String
  | createUser _ _ => Unit
  | getUser _ => AuthUser
  | getMembership _ _ => Membership
  | countMembersWithRole _ _ => Nat
  | saveMembership _ | addSpace _ _ => Unit
  | getMember _ _ _ => Option TeamSpaceMember
  | listMembers _ _ => List TeamSpaceMember
  | putMember _ => Unit
  | deleteMember _ _ _ => Bool

end MemberOp

abbrev MemberProgram (α : Type) := Program MemberOp MemberOp.Answer MemberError α

namespace MemberOp

abbrev ask (op : MemberOp) : MemberProgram op.Answer := Program.perform op fun answer => answer

def refuse (refused : Prop) [Decidable refused] (error : MemberError) : MemberProgram Unit :=
  if refused then .raised error else .done ()

end MemberOp

open MemberOp Program

namespace AuthService

def manages (role : Role) : Prop := role = .owner ∨ role = .admin

instance (role : Role) : Decidable (manages role) := inferInstanceAs (Decidable (_ ∨ _))

/-- `target.role == "owner" and role != "owner" and await count(…) <= 1`. -/
def keepAnOwner (tenantId : String) (current role : Role) : MemberProgram Unit :=
  if current = .owner ∧ role ≠ .owner then do
    let owners ← ask (.countMembersWithRole tenantId .owner)
    refuse (owners ≤ 1) (.permission "the workspace must keep at least one owner")
  else done ()

def updateMemberRole (tenantId actorUserId targetUserId : String) (role : Role) :
  MemberProgram TenantMember := do
  let actor ← ask (.getMembership tenantId actorUserId)
  let target ← ask (.getMembership tenantId targetUserId)
  refuse (¬ manages actor.role) (.permission "only owners and admins can manage members")
  refuse (actor.role ≠ .owner ∧ (manages target.role ∨ manages role))
    (.permission "admins can only manage member and viewer roles")
  keepAnOwner tenantId target.role role
  let updated := { target with role }
  ask (.saveMembership updated)
  let user ← ask (.getUser targetUserId)
  done { user, membership := updated }

end AuthService

namespace TeamSpaceService

def manageRoles : List SpaceRole := [.owner, .admin]

def ownerCount (members : List TeamSpaceMember) : Nat :=
  members.countP fun member => member.role = .owner

def requireMember (tenantId spaceId userId : String) : MemberProgram TeamSpaceMember := do
  match ← ask (.getMember tenantId spaceId userId) with
  | none => raised (.notFound ("team space not found: " ++ spaceId))
  | some member => done member

def requireRole (tenantId spaceId userId : String) (roles : List SpaceRole) :
  MemberProgram TeamSpaceMember := do
  let member ← requireMember tenantId spaceId userId
  refuse (member.role ∉ roles) (.permission "team space role does not allow this action")
  done member

/-- `sum(item.role is OWNER …) == 1` over the members, once an owner is to go. -/
def retainAnOwner (tenantId spaceId : String) (ownerGoes : Prop) [Decidable ownerGoes] :
  MemberProgram Unit :=
  if ownerGoes then do
    let members ← ask (.listMembers tenantId spaceId)
    refuse (ownerCount members = 1) (.conflict "team space must retain at least one owner")
  else done ()

def create (tenantId actorId name description : String) : MemberProgram TeamSpace := do
  let now ← ask .clock
  let spaceId ← ask (.generateId "space")
  let space : TeamSpace :=
    { tenantId, spaceId
      name := Auth.strip name
      description := Auth.strip description
      createdBy := actorId
      createdAt := now }
  refuse (space.name = "") (.conflict "team space name must not be empty")
  ask (.addSpace space { tenantId, spaceId, userId := actorId, role := .owner, createdAt := now })
  done space

def putMember (tenantId actorId spaceId userId : String) (role : SpaceRole) :
  MemberProgram TeamSpaceMember := do
  let actor ← requireRole tenantId spaceId actorId manageRoles
  let current ← ask (.getMember tenantId spaceId userId)
  refuse (actor.role = .admin ∧
      (role ∈ manageRoles ∨ ∃ member ∈ current, member.role ∈ manageRoles))
    (.permission "space admins cannot manage owners or other admins")
  retainAnOwner tenantId spaceId ((∃ member ∈ current, member.role = .owner) ∧ role ≠ .owner)
  let createdAt ←
    match current with
    | some member => done member.createdAt
    | none => ask .clock
  let member : TeamSpaceMember := { tenantId, spaceId, userId, role, createdAt }
  ask (.putMember member)
  done member

def removeMember (tenantId actorId spaceId userId : String) : MemberProgram Unit := do
  let actor ← requireMember tenantId spaceId actorId
  let target ← requireMember tenantId spaceId userId
  refuse (actorId ≠ userId ∧ actor.role ∉ manageRoles)
    (.permission "only space managers can remove another member")
  refuse (actor.role = .admin ∧ target.role ∈ manageRoles)
    (.permission "space admins cannot remove owners or other admins")
  retainAnOwner tenantId spaceId (target.role = .owner)
  let _ ← ask (.deleteMember tenantId spaceId userId)
  done ()

end TeamSpaceService

/-- The calls that change members; `createUser` is the last step of a registration. -/
inductive MemberRequest
  | createUser (user : AuthUser) (membership : Membership)
  | updateMemberRole (tenantId actorUserId targetUserId : String) (role : Role)
  | createSpace (tenantId actorId name description : String)
  | putMember (tenantId actorId spaceId userId : String) (role : SpaceRole)
  | removeMember (tenantId actorId spaceId userId : String)

def serve : MemberRequest → MemberProgram Unit
  | .createUser user membership => ask (.createUser user membership)
  | .updateMemberRole tenantId actorUserId targetUserId role => do
      let _ ← AuthService.updateMemberRole tenantId actorUserId targetUserId role
      done ()
  | .createSpace tenantId actorId name description => do
      let _ ← TeamSpaceService.create tenantId actorId name description
      done ()
  | .putMember tenantId actorId spaceId userId role => do
      let _ ← TeamSpaceService.putMember tenantId actorId spaceId userId role
      done ()
  | .removeMember tenantId actorId spaceId userId =>
    TeamSpaceService.removeMember tenantId actorId spaceId userId

end AgentHarness.Sharing
