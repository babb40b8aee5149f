import AgentHarness.Sharing.Roster

/-!
A tenant or a team space that has an owner keeps one, as long as no owner leaves it between the
count of a call and the write of that call.
-/

namespace AgentHarness.Sharing

open Collections Interaction Dict Function List TeamSpaceService MemberPlatform
open Auth (AuthUser Membership Role)

def HasOwner (tables : MemberTables) : Group → Prop
  | .tenant tenantId =>
    ∃ userId row, tables.memberships.get? (tenantId, userId) = some row ∧ row.role = .owner
  | .space tenantId spaceId =>
    ∃ userId member, tables.members.get? (tenantId, spaceId, userId) = some member ∧
      member.role = .owner

namespace MemberTables

variable (tables : MemberTables)

def ownerCount : Group → Nat
  | .tenant tenantId => tables.memberships.countWhere (ownsTenant tenantId)
  | .space tenantId spaceId => tables.members.countWhere (ownsSpace tenantId spaceId)

theorem ownerCount_pos {tables : MemberTables} {group : Group} :
  0 < tables.ownerCount group ↔ HasOwner tables group := by
  cases group with
  | tenant tenantId =>
    rw [ownerCount, countWhere_pos]
    simp only [ownsTenant, Bool.and_eq_true, decide_eq_true_eq]
    constructor
    · rintro ⟨⟨_, userId⟩, row, stored, rfl, role⟩
      exact ⟨userId, row, stored, role⟩
    rintro ⟨userId, row, stored, role⟩
    exact ⟨(tenantId, userId), row, stored, rfl, role⟩
  | space tenantId spaceId =>
    rw [ownerCount, countWhere_pos]
    simp only [ownsSpace, Bool.and_eq_true, decide_eq_true_eq]
    constructor
    · rintro ⟨⟨_, _, userId⟩, member, stored, ⟨rfl, rfl⟩, role⟩
      exact ⟨userId, member, stored, role⟩
    rintro ⟨userId, member, stored, role⟩
    exact ⟨(tenantId, spaceId, userId), member, stored, ⟨rfl, rfl⟩, role⟩

theorem ownerCount_listMembers (tenantId spaceId : String) :
  TeamSpaceService.ownerCount (tables.listMembers tenantId spaceId) =
    tables.ownerCount (.space tenantId spaceId) := by
  rw [TeamSpaceService.ownerCount, listMembers, (perm_insertionSort _ _).countP_eq,
    countP_map, countP_filter, ownerCount, Dict.countWhere]
  apply countP_congr
  intro entry _
  simp only [ownsSpace, Function.comp_apply, Bool.and_eq_true, decide_eq_true_eq]
  tauto

def leaving (op : MemberOp) (group : Group) : Nat :=
  if tables.ownerLeaves op = some group then 1 else 0

section

variable {tables : MemberTables} {group : Group}

theorem ownerCount_createUser (user : AuthUser) (membership : Membership) :
  tables.ownerCount group ≤ (tables.createUser user membership).2.ownerCount group := by
  unfold createUser
  dsimp only
  split
  · exact Nat.le_refl _
  case isFalse fresh =>
    cases group with
    | space tenantId spaceId => exact Nat.le_refl _
    | tenant tenantId =>
      have absent : tables.memberships.get? (membership.tenantId, membership.userId) = none := by
        rw [not_or, not_or] at fresh
        exact Option.not_isSome_iff_eq_none.mp fresh.2.2
      have counted := @countWhere_set _ _ _ (ownsTenant tenantId) tables.memberships
        (membership.tenantId, membership.userId)
        { role := membership.role, createdAt := membership.createdAt }
      rw [absent] at counted
      have nothing : Dict.weigh (ownsTenant tenantId) (membership.tenantId, membership.userId)
        none = 0 := rfl
      simp only [ownerCount]
      omega

theorem ownerCount_addSpace (space : TeamSpace) (owner : TeamSpaceMember) :
  tables.ownerCount group ≤ (tables.addSpace space owner).2.ownerCount group := by
  unfold addSpace
  dsimp only
  split
  · exact Nat.le_refl _
  case isFalse fresh =>
    cases group with
    | tenant tenantId => exact Nat.le_refl _
    | space tenantId spaceId =>
      have absent : tables.members.get? (owner.tenantId, owner.spaceId, owner.userId) = none := by
        rw [not_or] at fresh
        exact Option.not_isSome_iff_eq_none.mp fresh.2
      have counted := @countWhere_set _ _ _ (ownsSpace tenantId spaceId) tables.members
        (owner.tenantId, owner.spaceId, owner.userId) owner
      rw [absent] at counted
      have nothing : Dict.weigh (ownsSpace tenantId spaceId)
        (owner.tenantId, owner.spaceId, owner.userId) none = 0 := rfl
      simp only [ownerCount]
      omega

theorem ownerCount_saveMembership (membership : Membership) :
  tables.ownerCount group ≤ (tables.saveMembership membership).2.ownerCount group +
    tables.leaving (.saveMembership membership) group := by
  unfold saveMembership
  dsimp only
  split
  · exact Nat.le_add_right _ _
  case h_2 row stored =>
    cases group with
    | space tenantId spaceId => exact Nat.le_add_right _ _
    | tenant tenantId =>
      have counted := @countWhere_set _ _ _ (ownsTenant tenantId) tables.memberships
        (membership.tenantId, membership.userId) { row with role := membership.role }
      rw [stored] at counted
      have moved : Dict.weigh (ownsTenant tenantId) (membership.tenantId, membership.userId)
            (some row) ≤
          Dict.weigh (ownsTenant tenantId) (membership.tenantId, membership.userId)
              (some { row with role := membership.role }) +
            tables.leaving (.saveMembership membership) (.tenant tenantId) := by
        simp only [Dict.weigh, Option.any_some, ownsTenant, leaving, ownerLeaves, stored]
        by_cases here : membership.tenantId = tenantId <;>
          by_cases was : row.role = .owner <;>
            by_cases stays : membership.role = .owner <;> simp [here, was, stays]
      simp only [ownerCount]
      omega

theorem ownerCount_putMember (member : TeamSpaceMember) :
  tables.ownerCount group ≤ (tables.putMember member).ownerCount group +
    tables.leaving (.putMember member) group := by
  cases group with
  | tenant tenantId => exact Nat.le_add_right _ _
  | space tenantId spaceId =>
    have counted := @countWhere_set _ _ _ (ownsSpace tenantId spaceId) tables.members
      (member.tenantId, member.spaceId, member.userId) member
    have moved : Dict.weigh (ownsSpace tenantId spaceId)
          (member.tenantId, member.spaceId, member.userId)
          (tables.members.get? (member.tenantId, member.spaceId, member.userId)) ≤
        Dict.weigh (ownsSpace tenantId spaceId)
          (member.tenantId, member.spaceId, member.userId) (some member) +
          tables.leaving (.putMember member) (.space tenantId spaceId) := by
      cases stored : tables.members.get? (member.tenantId, member.spaceId, member.userId) with
      | none => exact Nat.zero_le _
      | some old =>
        simp only [Dict.weigh, Option.any_some, ownsSpace, leaving, ownerLeaves, stored]
        by_cases inTenant : member.tenantId = tenantId <;>
          by_cases inSpace : member.spaceId = spaceId <;>
            by_cases was : old.role = .owner <;>
              by_cases stays : member.role = .owner <;> simp [inTenant, inSpace, was, stays]
    simp only [ownerCount, putMember]
    omega

theorem ownerCount_deleteMember (tenantId spaceId userId : String) :
  tables.ownerCount group ≤ (tables.deleteMember tenantId spaceId userId).2.ownerCount group +
    tables.leaving (.deleteMember tenantId spaceId userId) group := by
  cases group with
  | tenant other => exact Nat.le_add_right _ _
  | space otherTenant otherSpace =>
    have counted := @countWhere_erase _ _ _ (ownsSpace otherTenant otherSpace)
      tables.members (tenantId, spaceId, userId)
    have moved : Dict.weigh (ownsSpace otherTenant otherSpace) (tenantId, spaceId, userId)
          (tables.members.get? (tenantId, spaceId, userId)) ≤
        tables.leaving (.deleteMember tenantId spaceId userId)
          (.space otherTenant otherSpace) := by
      cases stored : tables.members.get? (tenantId, spaceId, userId) with
      | none => exact Nat.zero_le _
      | some old =>
        simp only [Dict.weigh, Option.any_some, ownsSpace, leaving, ownerLeaves, stored]
        by_cases inTenant : tenantId = otherTenant <;>
          by_cases inSpace : spaceId = otherSpace <;>
            by_cases was : old.role = .owner <;> simp [inTenant, inSpace, was]
    simp only [ownerCount, deleteMember]
    omega

end

end MemberTables

theorem answer_ownerCount (platform : MemberPlatform) (now : Int) (roster : Roster)
  (op : MemberOp) (group : Group) :
  roster.tables.ownerCount group ≤
    (platform.answer now roster op).2.ownerCount group + roster.tables.leaving op group := by
  cases op with
  | createUser user membership =>
    exact (MemberTables.ownerCount_createUser user membership).trans (Nat.le_add_right _ _)
  | addSpace space owner =>
    exact (MemberTables.ownerCount_addSpace space owner).trans (Nat.le_add_right _ _)
  | saveMembership membership => exact MemberTables.ownerCount_saveMembership membership
  | putMember member => exact MemberTables.ownerCount_putMember member
  | deleteMember tenantId spaceId userId =>
    exact MemberTables.ownerCount_deleteMember tenantId spaceId userId
  | getUser userId =>
    simp only [MemberPlatform.answer]
    split <;> exact Nat.le_add_right _ _
  | clock | generateId _ | getMembership _ _ | countMembersWithRole _ _ | getMember _ _ _
  | listMembers _ _ => exact Nat.le_add_right _ _

structure Census where
  owned : List Group := []
  counts : List (Group × Nat) := []

namespace Census

def after (known : Census) : (op : MemberOp) → Except MemberError op.Answer → Census
  | .getMembership tenantId _, .ok membership =>
    if membership.role = .owner then { known with owned := .tenant tenantId :: known.owned }
    else known
  | .getMember tenantId spaceId _, .ok (some member) =>
    if member.role = .owner then { known with owned := .space tenantId spaceId :: known.owned }
    else known
  | .countMembersWithRole tenantId .owner, .ok owners =>
    { known with counts := (.tenant tenantId, owners) :: known.counts }
  | .listMembers tenantId spaceId, .ok members =>
    { known with
      counts := (.space tenantId spaceId, TeamSpaceService.ownerCount members) :: known.counts }
  | _, _ => known

def Spares (known : Census) (group : Group) : Prop :=
  ∀ owners, (group, owners) ∈ known.counts → 2 ≤ owners

end Census

def Allows (known : Census) : MemberOp → Prop
  | .saveMembership membership =>
    membership.role = .owner ∨ known.Spares (.tenant membership.tenantId)
  | .putMember member => member.role = .owner ∨ known.Spares (.space member.tenantId member.spaceId)
  | .deleteMember tenantId spaceId _ => known.Spares (.space tenantId spaceId)
  | _ => True

def Foreseen (known : Census) : (op : MemberOp) → Except MemberError op.Answer → Prop
  | .getMembership tenantId userId, .ok membership =>
    membership.tenantId = tenantId ∧ membership.userId = userId
  | .listMembers tenantId spaceId, .ok members =>
    .space tenantId spaceId ∈ known.owned → 1 ≤ TeamSpaceService.ownerCount members
  | _, _ => True

def memberContract : Contract MemberOp MemberOp.Answer MemberError Census where
  allowed := Allows
  learns known op answer later := later = known.after op answer ∧ Foreseen known op answer

section

open Program MemberOp

variable {known : Census} {α : Type}

def Keeps (known : Census) (program : MemberProgram α) : Prop :=
  program.wp memberContract (fun _ _ => True) (fun _ _ => True) known

theorem keeps_done (value : α) : Keeps known (done value) := trivial

theorem keeps_ask {op : MemberOp} {next : op.Answer → MemberProgram α} (allowed : Allows known op)
  (rest : ∀ answer, Foreseen known op (.ok answer) →
    Keeps (known.after op (.ok answer)) (next answer)) :
  Keeps known ((ask op).bind next) := by
  unfold Keeps
  rw [wp_bind, wp_perform]
  refine ⟨allowed, fun answer later learned => ?_, fun _ _ _ => trivial⟩
  rw [learned.1]
  exact rest answer learned.2

variable {next : Unit → MemberProgram α}

theorem keeps_refuse {refused : Prop} [Decidable refused] {error : MemberError}
  (rest : ¬ refused → Keeps known (next ())) : Keeps known ((refuse refused error).bind next) := by
  unfold refuse
  split
  · trivial
  case isFalse accepted => exact rest accepted

variable {tenantId spaceId userId : String}

theorem keeps_requireMember {next : TeamSpaceMember → MemberProgram α} (rest : ∀ member, Keeps
    (known.after (.getMember tenantId spaceId userId) (.ok (some member))) (next member)) :
  Keeps known ((requireMember tenantId spaceId userId).bind next) := by
  unfold requireMember
  rw [bind_eq, bind_assoc]
  apply keeps_ask (by trivial)
  intro answer _
  cases answer with
  | none => trivial
  | some member => exact rest member

theorem keeps_retain {tenantId spaceId : String} {ownerGoes : Prop} [Decidable ownerGoes]
  (seen : ownerGoes → .space tenantId spaceId ∈ known.owned) (uncounted : known.counts = [])
  (rest : ∀ later : Census, later.Spares (.space tenantId spaceId) → Keeps later (next ())) :
  Keeps known ((retainAnOwner tenantId spaceId ownerGoes).bind next) := by
  unfold retainAnOwner
  split
  case isTrue goes =>
    rw [bind_eq, bind_assoc]
    apply keeps_ask (by trivial)
    intro members foreseen
    apply keeps_refuse
    intro several
    apply rest
    intro owners counted
    have some : 1 ≤ TeamSpaceService.ownerCount members := foreseen (seen goes)
    simp only [Census.after, uncounted, mem_singleton, Prod.mk.injEq, true_and] at counted
    omega
  · apply rest
    intro owners counted
    rw [uncounted] at counted
    cases counted

theorem getMember_counts {answer : Option TeamSpaceMember} :
  (known.after (.getMember tenantId spaceId userId) (.ok answer)).counts = known.counts := by
  cases answer with
  | none => rfl
  | some member =>
    simp only [Census.after]
    split <;> rfl

theorem getMembership_counts {tenantId userId : String} {membership : Membership} :
  (known.after (.getMembership tenantId userId) (.ok membership)).counts = known.counts := by
  simp only [Census.after]
  split <;> rfl

theorem getMember_owned {member : TeamSpaceMember} (owner : member.role = .owner) :
  .space tenantId spaceId ∈
    (known.after (.getMember tenantId spaceId userId) (.ok (some member))).owned := by
  simp only [Census.after, if_pos owner]
  exact mem_cons_self

variable (tenantId : String)

theorem keeps_removeMember (actorId spaceId userId : String) :
  Keeps {} (TeamSpaceService.removeMember tenantId actorId spaceId userId) := by
  apply keeps_requireMember
  intro actor
  apply keeps_requireMember
  intro target
  apply keeps_refuse
  intro _
  apply keeps_refuse
  intro _
  apply keeps_retain getMember_owned
  · rw [getMember_counts, getMember_counts]
  intro later spares
  exact keeps_ask spares fun _ _ => keeps_done ()

theorem keeps_putMember (actorId spaceId userId : String) (role : SpaceRole) :
  Keeps {} ((TeamSpaceService.putMember tenantId actorId spaceId userId role).bind
    fun _ => done ()) := by
  unfold TeamSpaceService.putMember requireRole
  simp only [bind_eq, bind_assoc]
  apply keeps_requireMember
  intro actor
  apply keeps_refuse
  intro _
  rw [done_bind]
  apply keeps_ask (by trivial)
  intro current _
  apply keeps_refuse
  intro _
  apply keeps_retain
  · rintro ⟨⟨member, rfl, owner⟩, _⟩
    exact getMember_owned owner
  · rw [getMember_counts, getMember_counts]
  intro later spares
  have written : ∀ createdAt, Keeps later
      (((ask (.putMember { tenantId, spaceId, userId, role, createdAt })).bind fun _ =>
        done ({ tenantId, spaceId, userId, role, createdAt } : TeamSpaceMember)).bind
          fun _ => done ()) := by
    intro createdAt
    rw [bind_assoc]
    exact keeps_ask (.inr spares) fun _ _ => keeps_done ()
  cases current with
  | some member => exact written member.createdAt
  | none =>
    rw [bind_assoc]
    apply keeps_ask (by trivial)
    intro now _
    exact written now

theorem keeps_updateMemberRole (actorUserId targetUserId : String) (role : Role) :
  Keeps {} ((AuthService.updateMemberRole tenantId actorUserId targetUserId role).bind
    fun _ => done ()) := by
  unfold AuthService.updateMemberRole AuthService.keepAnOwner
  simp only [bind_eq, bind_assoc]
  apply keeps_ask (by trivial)
  intro actor _
  apply keeps_ask (by trivial)
  intro target foreseen
  apply keeps_refuse
  intro _
  apply keeps_refuse
  intro _
  have written : ∀ later : Census, (role = .owner ∨ later.Spares (.tenant tenantId)) →
      Keeps later ((ask (.saveMembership { target with role })).bind fun _ =>
        (ask (.getUser targetUserId)).bind fun user =>
          (done ({ user, membership := { target with role } } : TenantMember)).bind
            fun _ => done ()) := by
    intro later spares
    have named : target.tenantId = tenantId := foreseen.1
    rw [← named] at spares
    apply keeps_ask
    · exact spares
    intro _ _
    exact keeps_ask (by trivial) fun _ _ => keeps_done ()
  split
  · rw [bind_assoc]
    apply keeps_ask (by trivial)
    intro owners _
    apply keeps_refuse
    intro several
    apply written
    apply Or.inr
    intro counted member
    cases mem_cons.mp member with
    | inl newest =>
      have same : counted = owners := (Prod.mk.inj newest).2
      rw [same]
      exact Nat.lt_of_not_le several
    | inr earlier =>
      rw [getMembership_counts, getMembership_counts] at earlier
      cases earlier
  apply written
  apply Or.inr
  intro owners member
  rw [getMembership_counts, getMembership_counts] at member
  cases member

theorem keeps_create (actorId name description : String) :
  Keeps {} ((create tenantId actorId name description).bind
    fun _ => done ()) := by
  unfold create
  simp only [bind_eq, bind_assoc]
  apply keeps_ask (by trivial)
  intro now _
  apply keeps_ask (by trivial)
  intro spaceId _
  apply keeps_refuse
  intro _
  exact keeps_ask (by trivial) fun _ _ => keeps_done ()

theorem serve_keeps (request : MemberRequest) : Keeps {} (serve request) := by
  cases request with
  | createUser user membership =>
    unfold Keeps serve
    rw [wp_perform]
    exact ⟨trivial, fun _ _ _ => trivial, fun _ _ _ => trivial⟩
  | updateMemberRole tenantId actorUserId targetUserId role =>
    exact keeps_updateMemberRole tenantId actorUserId targetUserId role
  | createSpace tenantId actorId name description =>
    exact keeps_create tenantId actorId name description
  | putMember tenantId actorId spaceId userId role =>
    exact keeps_putMember tenantId actorId spaceId userId role
  | removeMember tenantId actorId spaceId userId =>
    exact keeps_removeMember tenantId actorId spaceId userId

end

structure Recalls (roster : Roster) (actor : Nat) (known : Census) : Prop where
  owned : ∀ group ∈ known.owned, HasOwner roster.tables group
  counted : ∀ group, (actor, group) ∈ roster.counted →
    ∃ owners, (group, owners) ∈ known.counts ∧ owners ≤ roster.tables.ownerCount group

def Orderly (roster : Roster) (known : Nat → Census) : Prop :=
  ∀ actor, Recalls roster actor (known actor)

def KeepsOwners (roster later : Roster) : Prop :=
  ∀ group, HasOwner roster.tables group → HasOwner later.tables group

section

variable {platform : MemberPlatform} {roster : Roster} {actor : Nat} {op : MemberOp} {now : Int}
  {known : Nat → Census}

theorem leaving_spares (allowed : Allows (known actor) op) {group : Group}
  (leaves : roster.tables.ownerLeaves op = some group) : (known actor).Spares group := by
  cases op with
  | saveMembership membership | putMember member =>
    simp only [MemberTables.ownerLeaves] at leaves
    split at leaves
    case isTrue departs =>
      cases leaves
      exact allowed.resolve_left departs.1
    · cases leaves
  | deleteMember tenantId spaceId userId =>
    simp only [MemberTables.ownerLeaves] at leaves
    split at leaves
    · cases leaves
      exact allowed
    cases leaves
  | clock | generateId _ | createUser _ _ | getUser _ | getMembership _ _
  | countMembersWithRole _ _ | addSpace _ _ | getMember _ _ _ | listMembers _ _ => cases leaves

theorem keepsOwners_respond (orderly : Orderly roster known)
  (stands : CountStands roster actor op now) (allowed : Allows (known actor) op) :
  KeepsOwners roster (platform.respond actor now roster op).2 := by
  intro group owner
  have moved := answer_ownerCount platform now roster op group
  rw [← MemberTables.ownerCount_pos] at owner ⊢
  by_cases leaves : roster.tables.ownerLeaves op = some group
  · obtain ⟨owners, counted, bound⟩ := (orderly actor).counted group (stands group leaves)
    have several : 2 ≤ owners := leaving_spares allowed leaves owners counted
    simp only [MemberTables.leaving, if_pos leaves] at moved
    exact Nat.lt_of_lt_of_le (by omega : 0 < roster.tables.ownerCount group - 1) (by
      simp only [respond]
      omega)
  simp only [MemberTables.leaving, if_neg leaves] at moved
  exact Nat.lt_of_lt_of_le owner moved

theorem recounted_mem {counter : Nat} {group : Group}
  (stands : (counter, group) ∈ recounted actor roster op) :
  (counter = actor ∧ ownersCounted op = some group) ∨
    ((counter, group) ∈ roster.counted ∧ roster.tables.ownerLeaves op ≠ some group) := by
  unfold recounted at stands
  split at stands
  case h_1 counted found =>
    cases mem_cons.mp stands with
    | inl newest =>
      obtain ⟨same, equal⟩ := Prod.mk.inj newest
      rw [same, equal]
      exact .inl ⟨rfl, found⟩
    | inr earlier =>
      refine .inr ⟨earlier, ?_⟩
      cases op with
      | countMembersWithRole _ _ | listMembers _ _ => exact (Option.some_ne_none group).symm
      | clock | generateId _ | createUser _ _ | getUser _ | getMembership _ _
      | saveMembership _ | addSpace _ _ | getMember _ _ _ | putMember _
      | deleteMember _ _ _ => cases found
  case h_2 left none leaves =>
    rw [mem_filter, decide_eq_true_eq] at stands
    refine .inr ⟨stands.1, ?_⟩
    intro same
    rw [leaves] at same
    exact stands.2 (Option.some.inj same).symm
  case h_3 none leaves =>
    refine .inr ⟨stands, ?_⟩
    rw [leaves]
    exact (Option.some_ne_none group).symm

theorem bound_respond {group : Group} {owners : Nat}
  (bound : owners ≤ roster.tables.ownerCount group)
  (remains : roster.tables.ownerLeaves op ≠ some group) :
  owners ≤ (platform.respond actor now roster op).2.tables.ownerCount group := by
  have moved := answer_ownerCount platform now roster op group
  simp only [MemberTables.leaving, if_neg remains] at moved
  exact bound.trans moved

theorem after_counts {known : Census} {count : Group × Nat}
  {answer : Except MemberError op.Answer} (member : count ∈ known.counts) :
  count ∈ (known.after op answer).counts := by
  unfold Census.after
  split
  · split <;> exact member
  · split <;> exact member
  · exact mem_cons_of_mem _ member
  · exact mem_cons_of_mem _ member
  exact member

theorem counted_answer {known : Census} {group : Group} (counts : ownersCounted op = some group) :
  (group, (platform.respond actor now roster op).2.tables.ownerCount group) ∈
    (known.after op (platform.respond actor now roster op).1).counts := by
  unfold ownersCounted at counts
  split at counts
  · cases counts
    exact mem_cons_self
  · cases counts
    simp only [respond, MemberPlatform.answer, Census.after]
    rw [MemberTables.ownerCount_listMembers]
    exact mem_cons_self
  cases counts

theorem after_owned {known : Census} {group : Group}
  (held : ∀ group ∈ known.owned, HasOwner roster.tables group)
  (member : group ∈ (known.after op (platform.respond actor now roster op).1).owned) :
  HasOwner roster.tables group := by
  cases op with
  | getMembership tenantId userId =>
    simp only [respond, MemberPlatform.answer, MemberTables.getMembership] at member
    cases stored : roster.tables.memberships.get? (tenantId, userId) with
    | none =>
      rw [stored] at member
      exact held group member
    | some row =>
      rw [stored] at member
      simp only [Census.after] at member
      split at member
      case isTrue owner =>
        cases mem_cons.mp member with
        | inl seen =>
          rw [seen]
          exact ⟨userId, row, stored, owner⟩
        | inr earlier => exact held group earlier
      · exact held group member
  | getMember tenantId spaceId userId =>
    simp only [respond, MemberPlatform.answer] at member
    cases stored : roster.tables.members.get? (tenantId, spaceId, userId) with
    | none =>
      rw [stored] at member
      exact held group member
    | some found =>
      rw [stored] at member
      simp only [Census.after] at member
      split at member
      case isTrue owner =>
        cases mem_cons.mp member with
        | inl seen =>
          rw [seen]
          exact ⟨userId, found, stored, owner⟩
        | inr earlier => exact held group earlier
      · exact held group member
  | countMembersWithRole tenantId role =>
    cases role with
    | owner | admin | member | viewer => exact held group member
  | getUser userId =>
    simp only [respond, MemberPlatform.answer] at member
    split at member <;> exact held group member
  | createUser user membership | saveMembership membership | addSpace space owner
  | clock | generateId _ | listMembers _ _ | putMember _ | deleteMember _ _ _ =>
    exact held group member

theorem foreseen_respond {known : Census} (recalls : Recalls roster actor known) :
  Foreseen known op (platform.respond actor now roster op).1 := by
  cases op with
  | getMembership tenantId userId =>
    simp only [respond, MemberPlatform.answer, MemberTables.getMembership]
    cases roster.tables.memberships.get? (tenantId, userId) with
    | none => trivial
    | some row => exact ⟨rfl, rfl⟩
  | listMembers tenantId spaceId =>
    intro seen
    rw [MemberTables.ownerCount_listMembers]
    exact MemberTables.ownerCount_pos.mpr (recalls.owned _ seen)
  | clock | generateId _ | createUser _ _ | getUser _ | countMembersWithRole _ _
  | saveMembership _ | addSpace _ _ | getMember _ _ _ | putMember _ | deleteMember _ _ _ => trivial

theorem members_adhere (platform : MemberPlatform) :
  Pool.Adheres platform.component (fun _ => memberContract) Orderly CountStands := by
  intro roster known actor op now orderly stands allowed
  have keeps : KeepsOwners roster (platform.respond actor now roster op).2 :=
    keepsOwners_respond orderly stands allowed
  refine ⟨(known actor).after op (platform.respond actor now roster op).1,
    ⟨rfl, foreseen_respond (orderly actor)⟩, ?_⟩
  intro other
  constructor
  · intro group member
    apply keeps
    by_cases same : other = actor
    · subst other
      rw [update_self] at member
      exact after_owned (orderly actor).owned member
    rw [update_of_ne same] at member
    exact (orderly other).owned group member
  intro group counts
  cases recounted_mem counts with
  | inl newest =>
    obtain ⟨same, counted⟩ := newest
    subst other
    rw [update_self]
    exact ⟨_, counted_answer counted, Nat.le_refl _⟩
  | inr earlier =>
    obtain ⟨owners, counted, bound⟩ := (orderly other).counted group earlier.1
    refine ⟨owners, ?_, bound_respond bound earlier.2⟩
    by_cases same : other = actor
    · subst other
      rw [update_self]
      exact after_counts counted
    rw [update_of_ne same]
    exact counted

end

theorem members_ready (tables : MemberTables) (requests : Nat → MemberRequest) :
  (memberPool tables requests).Ready (fun _ => memberContract) Orderly (fun _ _ _ => True)
    (fun _ _ _ => True) (fun _ => {}) := by
  constructor
  · intro actor
    exact
      { owned := fun _ member => (nomatch member)
        counted := fun _ member => (nomatch member) }
  intro actor
  exact serve_keeps (requests actor)

/-- As long as no owner leaves a tenant or a space between the count and the write of a call that
takes an owner away, no step of any calls takes the last one. -/
theorem owners_remain (platform : MemberPlatform) (tables : MemberTables)
  (requests : Nat → MemberRequest) (schedule : List (Nat × Int))
  (stands : (memberPool tables requests).Along platform.component CountStands schedule) :
  ((memberPool tables requests).visited platform.component schedule).IsChain KeepsOwners := by
  apply Pool.visited_chain (members_adhere platform) (fun _ _ => id) ?_
    (members_ready tables requests) schedule stands
  intro roster known actor op now orderly guarded allowed
  exact keepsOwners_respond orderly guarded allowed

theorem visited_keeps {platform : MemberPlatform} {pool : MemberPool} {schedule : List (Nat × Int)}
  (chain : (pool.visited platform.component schedule).IsChain KeepsOwners) :
  KeepsOwners pool.state (pool.run platform.component schedule).state := by
  induction schedule generalizing pool with
  | nil => exact fun _ => id
  | cons move rest ih =>
    cases rest with
    | nil => exact isChain_pair.mp chain
    | cons second remaining =>
      obtain ⟨first, later⟩ := isChain_cons_cons.mp chain
      exact fun group owner => ih later group (first group owner)

def person (userId : String) : AuthUser where
  userId
  email := userId ++ "@acme.test"
  displayName := userId
  emailVerified := true
  disabled := false
  createdAt := 0
  updatedAt := 0

def ownerOfTeam (userId : String) : TeamSpaceMember where
  tenantId := "acme"
  spaceId := "team"
  userId
  role := .owner
  createdAt := 0

def twoOwners : MemberTables where
  users := (Dict.empty.set "alice" (person "alice")).set "bob" (person "bob")
  memberships :=
    ((Dict.empty.set ("acme", "alice") { role := .owner, createdAt := 0 }).set
      ("acme", "bob") { role := .owner, createdAt := 0 })
  members :=
    (Dict.empty.set ("acme", "team", "alice") (ownerOfTeam "alice")).set
      ("acme", "team", "bob") (ownerOfTeam "bob")

def counting : MemberPlatform where
  generatedId label count := label ++ "-" ++ toString count

def eachOther : Nat → MemberRequest
  | 0 => .updateMemberRole "acme" "alice" "bob" .member
  | 1 => .updateMemberRole "acme" "bob" "alice" .member
  | 2 => .removeMember "acme" "alice" "team" "alice"
  | _ => .removeMember "acme" "bob" "team" "bob"

def steps (actor count : Nat) : List (Nat × Int) := List.replicate count (actor, 0)

theorem owners_remain_in_turn : ((memberPool twoOwners eachOther).visited counting.component
  (steps 0 5 ++ steps 1 5 ++ steps 2 4 ++ steps 3 4)).IsChain KeepsOwners :=
  owners_remain counting twoOwners eachOther _ (by decide +kernel)

def bothCount : List (Nat × Int) := steps 0 3 ++ steps 1 3 ++ steps 0 1 ++ steps 1 1

theorem both_count_both_demote :
  ¬ ∀ (platform : MemberPlatform) (tables : MemberTables) (requests : Nat → MemberRequest)
    (schedule : List (Nat × Int)),
    ((memberPool tables requests).visited platform.component schedule).IsChain KeepsOwners := by
  intro always
  have keeps := visited_keeps (always counting twoOwners eachOther bothCount)
  have owner : HasOwner twoOwners (.tenant "acme") :=
    MemberTables.ownerCount_pos.mp (by decide +kernel)
  have left : ((memberPool twoOwners eachOther).run counting.component
    bothCount).state.tables.ownerCount (.tenant "acme") = 0 := by
    decide +kernel
  have kept := MemberTables.ownerCount_pos.mpr (keeps (.tenant "acme") owner)
  omega

example : ((memberPool twoOwners eachOther).run counting.component
  (steps 2 3 ++ steps 3 3 ++ steps 2 1 ++ steps 3 1)).state.tables.ownerCount
    (.space "acme" "team") = 0 := by
  decide +kernel

end AgentHarness.Sharing
