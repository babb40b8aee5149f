import Mathlib.Data.List.Sort
import AgentHarness.Interaction.Pool
import AgentHarness.Sharing.Members

/-!
Any number of calls that change members over one database.

Each operation is one statement, or one transaction. The roster also keeps a record that nobody
reads: which callers have counted the owners of a tenant or a space since an owner last left it.
-/

namespace AgentHarness.Sharing

open Collections Interaction
open Auth (AuthUser Membership Role)

inductive Group
  | tenant (tenantId : String)
  | space (tenantId spaceId : String)
  deriving DecidableEq

structure MembershipRow where
  role : Role
  createdAt : Int

structure MemberTables where
  users : Dict String AuthUser := Dict.empty
  memberships : Dict (String × String) MembershipRow := Dict.empty
  spaces : Dict (String × String) TeamSpace := Dict.empty
  members : Dict (String × String × String) TeamSpaceMember := Dict.empty

structure Roster where
  tables : MemberTables := {}
  generated : Nat := 0
  counted : List (Nat × Group) := []

def TeamSpaceMember.before (left right : TeamSpaceMember) : Prop :=
  left.role.value < right.role.value ∨
    (left.role.value = right.role.value ∧ left.userId ≤ right.userId)

instance (left right : TeamSpaceMember) : Decidable (left.before right) :=
  inferInstanceAs (Decidable (_ ∨ _))

def ownsTenant (tenantId : String) (key : String × String) (row : MembershipRow) : Bool :=
  key.1 = tenantId && row.role = .owner

def ownsSpace (tenantId spaceId : String) (key : String × String × String)
  (member : TeamSpaceMember) : Bool :=
  key.1 = tenantId && key.2.1 = spaceId && member.role = .owner

namespace MemberTables

variable (tables : MemberTables)

def getMembership (tenantId userId : String) : Except MemberError Membership :=
  match tables.memberships.get? (tenantId, userId) with
  | none => .error (.notFound "tenant membership not found")
  | some row => .ok { tenantId, userId, role := row.role, createdAt := row.createdAt }

def countMembersWithRole (tenantId : String) (role : Role) : Nat :=
  tables.memberships.countWhere fun key row => key.1 = tenantId && row.role = role

def listMembers (tenantId spaceId : String) : List TeamSpaceMember :=
  ((tables.members.entries.filter fun entry =>
    entry.1.1 = tenantId && entry.1.2.1 = spaceId).map Prod.snd).insertionSort
      TeamSpaceMember.before

def createUser (user : AuthUser) (membership : Membership) :
  Except MemberError Unit × MemberTables :=
  let key := (membership.tenantId, membership.userId)
  if (tables.users.values.any fun stored => stored.email = user.email) ∨
      (tables.users.get? user.userId).isSome ∨ (tables.memberships.get? key).isSome then
    (.error (.conflict "an account with this email already exists"), tables)
  else
    (.ok (),
      { tables with
        users := tables.users.set user.userId user
        memberships := tables.memberships.set key
          { role := membership.role, createdAt := membership.createdAt } })

def saveMembership (membership : Membership) : Except MemberError Unit × MemberTables :=
  let key := (membership.tenantId, membership.userId)
  match tables.memberships.get? key with
  | none => (.error (.notFound "tenant membership not found"), tables)
  | some row =>
    (.ok (),
      { tables with
        memberships := tables.memberships.set key { row with role := membership.role } })

def addSpace (space : TeamSpace) (owner : TeamSpaceMember) :
  Except MemberError Unit × MemberTables :=
  let key := (owner.tenantId, owner.spaceId, owner.userId)
  if (tables.spaces.get? (space.tenantId, space.spaceId)).isSome ∨
      (tables.members.get? key).isSome then
    (.error (.conflict ("team space already exists: " ++ space.spaceId)), tables)
  else
    (.ok (),
      { tables with
        spaces := tables.spaces.set (space.tenantId, space.spaceId) space
        members := tables.members.set key owner })

def putMember (member : TeamSpaceMember) : MemberTables :=
  { tables with
    members := tables.members.set (member.tenantId, member.spaceId, member.userId) member }

def deleteMember (tenantId spaceId userId : String) : Bool × MemberTables :=
  let key := (tenantId, spaceId, userId)
  ((tables.members.get? key).isSome, { tables with members := tables.members.erase key })

def ownerLeaves : MemberOp → Option Group
  | .saveMembership membership =>
    if membership.role ≠ .owner ∧
        ∃ row ∈ tables.memberships.get? (membership.tenantId, membership.userId),
          row.role = .owner then
      some (.tenant membership.tenantId)
    else none
  | .putMember member =>
    if member.role ≠ .owner ∧
        ∃ stored ∈ tables.members.get? (member.tenantId, member.spaceId, member.userId),
          stored.role = .owner then
      some (.space member.tenantId member.spaceId)
    else none
  | .deleteMember tenantId spaceId userId =>
    if ∃ stored ∈ tables.members.get? (tenantId, spaceId, userId), stored.role = .owner then
      some (.space tenantId spaceId)
    else none
  | _ => none

end MemberTables

structure MemberPlatform where
  generatedId : String → Nat → String

namespace MemberPlatform

variable (platform : MemberPlatform)

def answer (now : Int) (roster : Roster) :
    (op : MemberOp) → Except MemberError op.Answer × MemberTables
  | .clock => (.ok now, roster.tables)
  | .generateId label => (.ok (platform.generatedId label roster.generated), roster.tables)
  | .createUser user membership => roster.tables.createUser user membership
  | .getUser userId =>
    match roster.tables.users.get? userId with
    | none => (.error (.notFound "user not found"), roster.tables)
    | some user => (.ok user, roster.tables)
  | .getMembership tenantId userId => (roster.tables.getMembership tenantId userId, roster.tables)
  | .countMembersWithRole tenantId role =>
    (.ok (roster.tables.countMembersWithRole tenantId role), roster.tables)
  | .saveMembership membership => roster.tables.saveMembership membership
  | .addSpace space owner => roster.tables.addSpace space owner
  | .getMember tenantId spaceId userId =>
    (.ok (roster.tables.members.get? (tenantId, spaceId, userId)), roster.tables)
  | .listMembers tenantId spaceId =>
    (.ok (roster.tables.listMembers tenantId spaceId), roster.tables)
  | .putMember member => (.ok (), roster.tables.putMember member)
  | .deleteMember tenantId spaceId userId =>
    let reply := roster.tables.deleteMember tenantId spaceId userId
    (.ok reply.1, reply.2)

def ownersCounted : MemberOp → Option Group
  | .countMembersWithRole tenantId .owner => some (.tenant tenantId)
  | .listMembers tenantId spaceId => some (.space tenantId spaceId)
  | _ => none

def recounted (actor : Nat) (roster : Roster) (op : MemberOp) : List (Nat × Group) :=
  match ownersCounted op, roster.tables.ownerLeaves op with
  | some group, _ => (actor, group) :: roster.counted
  | none, some group => roster.counted.filter fun count => count.2 ≠ group
  | none, none => roster.counted

def respond (actor : Nat) (now : Int) (roster : Roster) (op : MemberOp) :
  Except MemberError op.Answer × Roster :=
  let reply := platform.answer now roster op
  (reply.1,
    { tables := reply.2
      generated := match op with
        | .generateId _ => roster.generated + 1
        | _ => roster.generated
      counted := recounted actor roster op })

def component : Component MemberOp MemberOp.Answer MemberError Nat Roster Int where
  respond := platform.respond

end MemberPlatform

abbrev MemberPool := Pool MemberOp MemberOp.Answer MemberError Nat Roster Unit

/-- One call for each actor; a caller that makes several calls stands for several actors. -/
def memberPool (tables : MemberTables) (requests : Nat → MemberRequest) : MemberPool where
  state := { tables }
  thread actor := serve (requests actor)

def CountStands (roster : Roster) (actor : Nat) (op : MemberOp) (_ : Int) : Prop :=
  ∀ group ∈ roster.tables.ownerLeaves op, (actor, group) ∈ roster.counted

instance (roster : Roster) (actor : Nat) (op : MemberOp) (now : Int) :
  Decidable (CountStands roster actor op now) :=
  inferInstanceAs (Decidable (∀ group ∈ roster.tables.ownerLeaves op, _))

end AgentHarness.Sharing
