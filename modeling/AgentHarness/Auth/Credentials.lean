import AgentHarness.Auth.Accounts

/-!
Who made the password and the refresh tokens of an account.
-/

namespace AgentHarness.Auth

open Collections Dict List Option

namespace AccountTables

def Made (tables : AccountTables) (maker : Option Nat) (email : String) : Prop :=
  maker.any (fun person => decide ((person, email) ∈ tables.verified)) = true

def Proven (tables : AccountTables) (userId email : String) : Prop :=
  (∀ user ∈ tables.users.get? userId, user.passwordHash.isSome = true →
    tables.Made (tables.passwordBy.get? userId) email) ∧
  ∀ entry ∈ tables.refreshTokens.entries, entry.2.userId = userId → entry.2.revokedAt = none →
    tables.Made (tables.tokenBy.get? entry.1) email

def Sealed (tables : AccountTables) : Prop :=
  ∀ entry ∈ tables.identities.entries, tables.Proven entry.2.userId entry.2.providerEmail

instance (tables : AccountTables) (maker : Option Nat) (email : String) :
  Decidable (tables.Made maker email) := by
  unfold Made
  infer_instance

instance (tables : AccountTables) (userId email : String) :
  Decidable (tables.Proven userId email) := by
  unfold Proven
  infer_instance

instance (tables : AccountTables) : Decidable tables.Sealed := by
  unfold Sealed
  infer_instance

structure Kept (personOf : OAuthProvider → String → Nat) (tables : AccountTables) : Prop where
  keyed : ∀ userId user, tables.users.get? userId = some user → user.userId = userId
  linked : ∀ place identity, tables.identities.get? place = some identity →
    ∃ user, tables.users.get? identity.userId = some user ∧ user.email = identity.providerEmail
  owned : ∀ tokenHash token, tables.refreshTokens.get? tokenHash = some token →
    ∃ user, tables.users.get? token.userId = some user
  proved : ∀ place identity, tables.identities.get? place = some identity →
    (personOf place.1 place.2, identity.providerEmail) ∈ tables.verified
  guarded : ∀ place identity, tables.identities.get? place = some identity →
    tables.Proven identity.userId identity.providerEmail

theorem Kept.sealed {personOf : OAuthProvider → String → Nat} {tables : AccountTables}
  (kept : Kept personOf tables) : tables.Sealed :=
  fun entry member => kept.guarded entry.1 entry.2 (get?_eq_some.mpr member)

section

variable {personOf : OAuthProvider → String → Nat} {tables : AccountTables} {person : Nat}
  {userId email : String}

theorem made_some : tables.Made (some person) email ↔ (person, email) ∈ tables.verified := by
  unfold Made
  rw [any_some, decide_eq_true_eq]

variable {user : AuthUser}

theorem Proven.password (proven : tables.Proven userId email)
  (found : tables.users.get? userId = some user) (enabled : user.passwordHash.isSome = true) :
  tables.Made (tables.passwordBy.get? userId) email :=
  proven.1 user found enabled

theorem Proven.token (proven : tables.Proven userId email) {tokenHash : String}
  {token : RefreshToken} (found : tables.refreshTokens.get? tokenHash = some token)
  (owner : token.userId = userId) (live : token.revokedAt = none) :
  tables.Made (tables.tokenBy.get? tokenHash) email :=
  proven.2 (tokenHash, token) (get?_eq_some.mp found) owner live

theorem made_verified {maker : Option Nat} {proof : Nat × String} (made : tables.Made maker email) :
  { tables with verified := proof :: tables.verified }.Made maker email := by
  cases maker with
  | none => exact made
  | some person => exact made_some.mpr (mem_cons_of_mem _ (made_some.mp made))

section

variable (kept : Kept personOf tables)

include kept

theorem Kept.verifies (proof : Nat × String) :
  Kept personOf { tables with verified := proof :: tables.verified } where
  keyed := kept.keyed
  linked := kept.linked
  owned := kept.owned
  proved place identity found := mem_cons_of_mem _ (kept.proved place identity found)
  guarded place identity found := by
    obtain ⟨password, tokens⟩ := kept.guarded place identity found
    constructor
    · exact fun user member enabled => made_verified (password user member enabled)
    exact fun entry member owner live => made_verified (tokens entry member owner live)

def Entitled (tables : AccountTables) (person : Nat) (userId : String) : Prop :=
  ∀ place identity, tables.identities.get? place = some identity → identity.userId = userId →
    (person, identity.providerEmail) ∈ tables.verified

theorem Kept.creates (free : tables.users.get? user.userId = none)
  (memberships : Dict (String × String) Membership) :
  Kept personOf
    { tables with
      users := tables.users.set user.userId user, memberships
      passwordBy := tables.passwordBy.set user.userId person } := by
  have older : ∀ other found, tables.users.get? other = some found → other ≠ user.userId := by
    rintro other found stored rfl
    rw [free] at stored
    cases stored
  have stays : ∀ other found, tables.users.get? other = some found →
    (tables.users.set user.userId user).get? other = some found :=
    fun other found stored => (get?_set_other _ _ (older other found stored)).trans stored
  constructor
  · exact forall_set rfl kept.keyed
  · intro place identity found
    obtain ⟨owner, stored, same⟩ := kept.linked place identity found
    exact ⟨owner, stays _ owner stored, same⟩
  · intro tokenHash token found
    obtain ⟨owner, stored⟩ := kept.owned tokenHash token found
    exact ⟨owner, stays _ owner stored⟩
  · exact kept.proved
  intro place identity found
  obtain ⟨owner, stored, _⟩ := kept.linked place identity found
  have distinct := older _ owner stored
  obtain ⟨password, tokens⟩ := kept.guarded place identity found
  constructor
  · intro other there enabled
    have before : tables.users.get? identity.userId = some other :=
      (get?_set_other _ _ distinct).symm.trans there
    have made := password other before enabled
    rw [get?_set_other _ _ distinct]
    exact made
  exact tokens

theorem Kept.stores {token : RefreshToken} (owner : tables.users.get? token.userId = some user)
  (entitled : tables.Entitled person token.userId) :
  Kept personOf
    { tables with
      refreshTokens := tables.refreshTokens.set token.tokenHash token
      tokenBy := tables.tokenBy.set token.tokenHash person } where
  keyed := kept.keyed
  linked := kept.linked
  owned := forall_set ⟨user, owner⟩ kept.owned
  proved := kept.proved
  guarded place identity found := by
    have proven := kept.guarded place identity found
    refine ⟨proven.1, ?_⟩
    rintro ⟨tokenHash, other⟩ member ownedBy live
    have stored := get?_eq_some.mpr member
    rw [get?_set] at stored ⊢
    split at stored
    case isTrue same =>
      cases stored
      rw [if_pos same]
      exact made_some.mpr (entitled place identity found ownedBy.symm)
    case isFalse distinct =>
      rw [if_neg distinct]
      exact proven.token stored ownedBy live

theorem Kept.revokes {later : Dict String RefreshToken}
  (fewer : ∀ tokenHash token, later.get? tokenHash = some token →
    ∃ before, tables.refreshTokens.get? tokenHash = some before ∧
    before.userId = token.userId ∧ (token.revokedAt = none → before.revokedAt = none)) :
  Kept personOf { tables with refreshTokens := later } where
  keyed := kept.keyed
  linked := kept.linked
  owned tokenHash token found := by
    obtain ⟨before, stored, same, _⟩ := fewer tokenHash token found
    rw [← same]
    exact kept.owned tokenHash before stored
  proved := kept.proved
  guarded place identity found := by
    have proven := kept.guarded place identity found
    refine ⟨proven.1, ?_⟩
    rintro ⟨tokenHash, token⟩ member owner live
    obtain ⟨before, stored, same, alive⟩ := fewer tokenHash token (get?_eq_some.mpr member)
    exact proven.token stored (same.trans owner) (alive live)

theorem Kept.changes {next : AuthUser} (found : tables.users.get? userId = some user)
  (email : next.email = user.email) (named : next.userId = userId)
  (entitled : tables.Entitled person userId) :
  Kept personOf
    { tables with
      users := tables.users.set userId next
      passwordBy := tables.passwordBy.set userId person } := by
  constructor
  · exact forall_set named kept.keyed
  · intro place identity linked
    obtain ⟨owner, stored, same⟩ := kept.linked place identity linked
    rw [get?_set]
    split
    case isTrue here =>
      rw [here, found] at stored
      cases stored
      exact ⟨next, rfl, email.trans same⟩
    · exact ⟨owner, stored, same⟩
  · intro tokenHash token stored
    obtain ⟨owner, there⟩ := kept.owned tokenHash token stored
    rw [get?_set]
    split
    · exact ⟨next, rfl⟩
    exact ⟨owner, there⟩
  · exact kept.proved
  intro place identity linked
  have proven := kept.guarded place identity linked
  refine ⟨?_, proven.2⟩
  intro other there enabled
  have stored := mem_def.mp there
  rw [get?_set] at stored ⊢
  split at stored
  case isTrue same =>
    rw [if_pos same]
    exact made_some.mpr (entitled place identity linked same)
  case isFalse distinct =>
    rw [if_neg distinct]
    exact proven.password stored enabled

end

theorem Kept.links (kept : Kept personOf tables) {place : OAuthProvider × String} {user : AuthUser}
  (found : tables.users.get? userId = some user) (proven : tables.Proven userId user.email)
  (proof : (personOf place.1 place.2, user.email) ∈ tables.verified) :
  Kept personOf
    { tables with
      identities :=
        tables.identities.set place { userId, providerEmail := user.email } } where
  keyed := kept.keyed
  linked := forall_set ⟨user, found, rfl⟩ kept.linked
  owned := kept.owned
  proved := forall_set proof kept.proved
  guarded := forall_set proven kept.guarded

section

variable (kept : Kept personOf tables)

include kept

theorem Kept.entitled_email (found : tables.users.get? userId = some user)
  (proof : (person, user.email) ∈ tables.verified) : tables.Entitled person userId := by
  intro place identity linked same
  obtain ⟨owner, stored, email⟩ := kept.linked place identity linked
  rw [same, found] at stored
  cases stored
  rw [← email]
  exact proof

theorem Kept.entitled_password (found : tables.users.get? userId = some user)
  (enabled : user.passwordHash.isSome = true)
  (own : tables.passwordBy.get? userId = some person) : tables.Entitled person userId := by
  intro place identity linked same
  have proven := kept.guarded place identity linked
  rw [same] at proven
  have made := proven.password found enabled
  rw [own] at made
  exact made_some.mp made

theorem Kept.entitled_token {tokenHash : String} {token : RefreshToken}
  (found : tables.refreshTokens.get? tokenHash = some token) (live : token.revokedAt = none)
  (own : tables.tokenBy.get? tokenHash = some person) : tables.Entitled person token.userId := by
  intro place identity linked same
  have made := (kept.guarded place identity linked).token found same.symm live
  rw [own] at made
  exact made_some.mp made

theorem Kept.entitled_free (free : tables.users.get? userId = none) :
  tables.Entitled person userId := by
  intro place identity linked same
  obtain ⟨owner, stored, _⟩ := kept.linked place identity linked
  rw [same, free] at stored
  cases stored

theorem Kept.byEmail (found : AuthRepository.byEmail tables email = some user) :
  tables.users.get? user.userId = some user ∧ user.email = email := by
  have listed := mem_of_find?_eq_some found
  obtain ⟨key, stored⟩ := mem_values.mp listed
  have named := kept.keyed key user stored
  constructor
  · rw [named]
    exact stored
  have meets : decide (user.email = email) = true :=
    find?_some (p := fun user : AuthUser => decide (user.email = email)) found
  exact of_decide_eq_true meets

end

end

end AccountTables

end AgentHarness.Auth
