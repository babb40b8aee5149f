import AgentHarness.Auth.Credentials

/-!
An account that a verified identity is linked to belongs to people who proved control of its email.
-/

namespace AgentHarness.Auth

open Collections Interaction Dict List Option

inductive AccountRequest where
  | register (person : Nat) (email password displayName : String)
  | login (person : Nat) (email password : String)
  | refresh (person : Nat) (rawToken : String)
  | changePassword (person : Nat) (tenantId userId currentPassword newPassword : String)
  | exchangeOauthCode (profile : OAuthProfile)

namespace AccountService

open AccountTables AuthRepository Fallible

variable (service : AccountService)

def perform (tables : AccountTables) : AccountRequest × Draws → AccountTables
  | (.register person email password displayName, draws) =>
    (service.register person email password displayName draws tables).2
  | (.login person email password, draws) => (service.login person email password draws tables).2
  | (.refresh person rawToken, draws) => (service.refresh person rawToken draws tables).2
  | (.changePassword person tenantId userId currentPassword newPassword, draws) =>
    (service.changePassword person tenantId userId currentPassword newPassword draws tables).2
  | (.exchangeOauthCode profile, draws) => (service.exchangeOauthCode profile draws tables).2

/-- Who presents a password or a refresh token made it, and an identity is linked to an account
that exists only where its credentials were made by people who proved control of the email. -/
def Honest (tables : AccountTables) : AccountRequest × Draws → Prop
  | (.register _ _ _ _, _) => True
  | (.login person email password, _) =>
    ∀ user ∈ service.auth.authenticate (byEmail tables (service.loginEmail email)) password,
      tables.passwordBy.get? user.userId = some person
  | (.refresh person rawToken, _) =>
    (tables.refreshTokens.get? (service.auth.hashToken rawToken)).isSome = true →
      tables.tokenBy.get? (service.auth.hashToken rawToken) = some person
  | (.changePassword person _ userId _ _, _) =>
    (tables.users.get? userId).isSome = true → tables.passwordBy.get? userId = some person
  | (.exchangeOauthCode profile, _) =>
    profile.emailVerified = true →
      tables.identities.get? (profile.provider, profile.subject) = none →
        ∀ user ∈ byEmail tables profile.email, Proven
            { tables with
              verified :=
                (service.personOf profile.provider profile.subject, profile.email) ::
                  tables.verified } user.userId profile.email

instance (tables : AccountTables) (call : AccountRequest × Draws) :
  Decidable (service.Honest tables call) := by
  unfold Honest
  split <;> infer_instance

section

variable {service : AccountService} {tables : AccountTables} {person : Nat} {draws : Draws}
  {α : Type} {after : α → AccountTables → Prop}

theorem ensures_each {before : AccountTables → Prop} {call : AccountCall α}
  {raised : AccountTables → Prop}
  (each : ∀ tables, before tables → Ensures (· = tables) call after raised) :
  Ensures before call after raised :=
  fun tables holds => each tables holds tables rfl

theorem ensures_look (kept : Kept service.personOf tables)
  (value : AccountTables → Except AccountError α) :
  Ensures (· = tables) (look value)
    (fun found later => later = tables ∧ value tables = .ok found) (Kept service.personOf) := by
  rintro state rfl
  unfold look
  cases same : value state with
  | ok found => exact ⟨rfl, rfl⟩
  | error error => exact kept

theorem ensures_require (kept : Kept service.personOf tables) (outcome : Except AuthError α) :
  Ensures (· = tables) (require outcome)
    (fun value later => later = tables ∧ outcome = .ok value) (Kept service.personOf) := by
  rintro state rfl
  cases outcome with
  | ok value => exact ⟨rfl, rfl⟩
  | error error => exact kept

theorem ensures_refuse (message : String) :
  Ensures (Kept service.personOf) (refuse message) after (Kept service.personOf) :=
  fun _ => id

theorem found_ok {message : String} {value : Option α} {result : α}
  (same : found message value = .ok result) : value = some result := by
  cases value with
  | none => cases same
  | some other =>
    cases same
    rfl

variable {user : AuthUser} {profile : OAuthProfile}

section

variable (kept : Kept service.personOf tables)

include kept

theorem issueSession_keeps (membership : Membership)
  (owner : tables.users.get? user.userId = some user)
  (entitled : tables.Entitled person user.userId) :
  Ensures (· = tables) (service.issueSession person user membership draws)
    (fun _ => Kept service.personOf) (Kept service.personOf) := by
  have added : Ensures (· = tables)
    (addRefreshToken person (service.newRefreshToken user membership none draws))
    (fun _ => Kept service.personOf) (Kept service.personOf) := by
    rintro state rfl
    unfold addRefreshToken
    split
    case h_1 value later same =>
      split at same
      · cases same
      cases same
      exact kept.stores owner entitled
    case h_2 error later same =>
      split at same
      · cases same
        exact kept
      cases same
  exact added.bind fun _ => Ensures.pure (fun _ => id)

def created (tables : AccountTables) (person : Nat) (user : AuthUser) (membership : Membership) :
  AccountTables :=
  { tables with
    users := tables.users.set user.userId user
    memberships := tables.memberships.set (membership.tenantId, membership.userId) membership
    passwordBy := tables.passwordBy.set user.userId person }

theorem createUser_creates (user : AuthUser) (membership : Membership) :
  Ensures (· = tables) (createUser person user membership)
    (fun _ later => later = created tables person user membership ∧
    tables.users.get? user.userId = none) (Kept service.personOf) := by
  rintro state rfl
  unfold createUser
  split
  case h_1 value later same =>
    split at same
    · cases same
    case isFalse untaken =>
      cases same
      refine ⟨rfl, ?_⟩
      cases stored : state.users.get? user.userId with
      | none => rfl
      | some other =>
        unfold isTaken at untaken
        rw [stored] at untaken
        exact absurd rfl untaken
  case h_2 error later same =>
    split at same
    · cases same
      exact kept
    cases same

theorem register_keeps (email password displayName : String) :
  Ensures (· = tables) (service.register person email password displayName draws)
    (fun _ => Kept service.personOf) (Kept service.personOf) := by
  unfold register
  split
  case isFalse =>
    rintro state rfl
    exact kept
  case isTrue =>
    refine (ensures_require kept _).bind fun normalizedEmail => Ensures.given fun _ => ?_
    refine (ensures_require kept _).bind fun _ => Ensures.given fun _ => ?_
    refine (ensures_look kept _).bind fun members => Ensures.given fun _ => ?_
    refine (createUser_creates kept _ _).bind fun _ => Ensures.given fun free => ?_
    apply issueSession_keeps
    · exact kept.creates free _
    · exact get?_set_self _ _ _
    exact kept.entitled_free free

theorem login_keeps {email password : String}
  (honest : service.Honest tables (.login person email password, draws)) :
  Ensures (· = tables) (service.login person email password draws)
    (fun _ => Kept service.personOf) (Kept service.personOf) := by
  refine (ensures_look kept _).bind fun found => Ensures.given fun same => ?_
  cases same
  cases opened : service.auth.authenticate (byEmail tables (service.loginEmail email)) password with
  | none =>
    rintro state rfl
    exact kept
  | some user =>
    obtain ⟨known, accepted⟩ := filter_eq_some_iff.mp opened
    obtain ⟨stored, _⟩ := kept.byEmail known
    have enabled : user.passwordHash.isSome = true := by
      simp only [Bool.and_eq_true] at accepted
      exact accepted.1.1
    refine (ensures_look kept _).bind fun membership => Ensures.given fun _ => ?_
    exact issueSession_keeps kept membership stored
      (kept.entitled_password stored enabled (honest user opened))

end

theorem get?_revoked {tokens : Dict String RefreshToken} {rows : TokenRows}
  {revokedAt : Int} {tokenHash : String} {token : RefreshToken}
  (found : (revoked tokens rows revokedAt).get? tokenHash = some token) :
  ∃ before, tokens.get? tokenHash = some before ∧ before.userId = token.userId ∧
    (token.revokedAt = none → before.revokedAt = none) := by
  have listed := get?_eq_some.mp found
  obtain ⟨⟨key, before⟩, member, same⟩ := mem_map.mp listed
  cases same
  refine ⟨before, get?_eq_some.mpr member, ?_⟩
  split
  · refine ⟨rfl, ?_⟩
    intro live
    cases live
  exact ⟨rfl, id⟩

theorem revokeTokens_keeps (rows : TokenRows) (revokedAt : Int) :
  Ensures (Kept service.personOf) (revokeTokens rows revokedAt)
    (fun _ => Kept service.personOf) (Kept service.personOf) :=
  fun _ kept => kept.revokes fun _ _ found => get?_revoked found

theorem revokeAndRefuse_keeps (familyId : String) (now : Int) (message : String) :
  Ensures (Kept service.personOf) (revokeAndRefuse familyId now message)
    (fun _ => Kept service.personOf) (Kept service.personOf) :=
  (revokeTokens_keeps _ _).bind fun _ => ensures_refuse message

section

variable (kept : Kept service.personOf tables)

include kept

theorem rotateRefreshToken_keeps {replacement : RefreshToken} (currentHash : String)
  (revokedAt : Int) (owner : tables.users.get? replacement.userId = some user)
  (entitled : tables.Entitled person replacement.userId) :
  Ensures (· = tables) (rotateRefreshToken person currentHash replacement revokedAt)
    (fun _ => Kept service.personOf) (Kept service.personOf) := by
  rintro state rfl
  unfold rotateRefreshToken
  cases stored : state.refreshTokens.get? currentHash with
  | none => exact kept
  | some current =>
    dsimp only
    by_cases spent : current.revokedAt.isSome = true
    · rw [if_pos spent]
      exact kept
    rw [if_neg spent]
    let claimed := state.refreshTokens.set currentHash
      { current with
        revokedAt := some revokedAt, replacedByHash := some replacement.tokenHash }
    have fewer : ∀ tokenHash token, claimed.get? tokenHash = some token →
      ∃ before, state.refreshTokens.get? tokenHash = some before ∧ before.userId = token.userId ∧
        (token.revokedAt = none → before.revokedAt = none) := by
      intro tokenHash token found
      rw [get?_set] at found
      split at found
      case isTrue same =>
        cases found
        refine ⟨current, by rw [same]; exact stored, rfl, ?_⟩
        intro live
        cases live
      · exact ⟨token, found, rfl, id⟩
    have revoked : Kept service.personOf { state with refreshTokens := claimed } :=
      kept.revokes fewer
    by_cases used : (claimed.get? replacement.tokenHash).isSome = true
    · rw [if_pos used]
      exact kept
    rw [if_neg used]
    exact revoked.stores owner entitled

theorem rotate_keeps {tokenHash : String} {current : RefreshToken}
  (entitled : tables.Entitled person current.userId) :
  Ensures (· = tables) (service.rotate person tokenHash current draws)
    (fun _ => Kept service.personOf) (Kept service.personOf) := by
  refine (ensures_look kept _).bind fun user => Ensures.given fun read => ?_
  have stored := found_ok read
  have named := kept.keyed _ user stored
  refine (ensures_look kept _).bind fun membership => Ensures.given fun _ => ?_
  have owner : tables.users.get?
    (service.newRefreshToken user membership (some current.familyId) draws).userId = some user := by
    rw [newRefreshToken, named]
    exact stored
  have own : tables.Entitled person
    (service.newRefreshToken user membership (some current.familyId) draws).userId := by
    rw [newRefreshToken, named]
    exact entitled
  refine (rotateRefreshToken_keeps kept tokenHash draws.now owner own).bind fun rotated => ?_
  cases rotated with
  | true => exact Ensures.pure fun _ => id
  | false => exact revokeAndRefuse_keeps _ _ _

theorem refresh_keeps {rawToken : String}
  (honest : service.Honest tables (.refresh person rawToken, draws)) :
  Ensures (· = tables) (service.refresh person rawToken draws)
    (fun _ => Kept service.personOf) (Kept service.personOf) := by
  have refuses : ∀ familyId message, Ensures (· = tables)
    (revokeAndRefuse familyId draws.now message) (fun _ => Kept service.personOf)
    (Kept service.personOf) := by
    rintro familyId message state rfl
    exact revokeAndRefuse_keeps familyId draws.now message state kept
  refine (ensures_look kept _).bind fun found => Ensures.given fun same => ?_
  have stored : tables.refreshTokens.get? (service.auth.hashToken rawToken) = found :=
    Except.ok.inj same
  cases found with
  | none =>
    rintro state rfl
    exact kept
  | some current =>
    dsimp only
    split
    · exact refuses _ _
    rename_i live
    split
    · exact refuses _ _
    have own := honest (by rw [stored]; rfl)
    have alive : current.revokedAt = none := by
      cases revoked : current.revokedAt with
      | none => rfl
      | some moment =>
        rw [revoked] at live
        exact absurd rfl live
    exact rotate_keeps kept (kept.entitled_token stored alive own)

theorem saveUser_keeps {next : AuthUser} (found : tables.users.get? next.userId = some user)
  (email : next.email = user.email) (entitled : tables.Entitled person next.userId) :
  Ensures (· = tables) (saveUser person next) (fun _ => Kept service.personOf)
    (Kept service.personOf) := by
  rintro state rfl
  unfold saveUser
  rw [if_pos (by rw [found]; rfl)]
  exact kept.changes found email rfl entitled

end

theorem checkChange_enabled {currentPassword newPassword : String}
  (passed : service.auth.checkChange user currentPassword newPassword = .ok ()) :
  user.passwordHash.isSome = true := by
  unfold AuthService.checkChange at passed
  cases stored : user.passwordHash with
  | none =>
    rw [stored] at passed
    cases passed
  | some passwordHash => rfl

theorem changePassword_keeps (kept : Kept service.personOf tables)
  {tenantId userId currentPassword newPassword : String}
  (honest : service.Honest tables
    (.changePassword person tenantId userId currentPassword newPassword, draws)) :
  Ensures (· = tables)
    (service.changePassword person tenantId userId currentPassword newPassword draws)
    (fun _ => Kept service.personOf) (Kept service.personOf) := by
  refine (ensures_look kept _).bind fun _ => Ensures.given fun _ => ?_
  refine (ensures_look kept _).bind fun user => Ensures.given fun read => ?_
  have stored := found_ok read
  have named := kept.keyed _ user stored
  refine (ensures_require kept _).bind fun _ => Ensures.given fun passed => ?_
  have own := honest (by rw [stored]; rfl)
  have entitled := kept.entitled_password stored (checkChange_enabled passed) own
  subst named
  refine Ensures.bind (saveUser_keeps kept stored rfl entitled) fun _ => ?_
  exact revokeTokens_keeps _ _

def Opened (service : AccountService) (profile : OAuthProfile) (user : AuthUser)
  (later : AccountTables) : Prop :=
  Kept service.personOf later ∧ later.users.get? user.userId = some user ∧
    user.email = profile.email ∧ later.Proven user.userId profile.email ∧
      (service.personOf profile.provider profile.subject, profile.email) ∈ later.verified

theorem accountOf_opens (kept : Kept service.personOf tables)
  (proof : (service.personOf profile.provider profile.subject, profile.email) ∈ tables.verified)
  (proven : ∀ user ∈ byEmail tables profile.email, tables.Proven user.userId profile.email) :
  Ensures (· = tables) (service.accountOf person profile draws) (Opened service profile)
    (Kept service.personOf) := by
  refine (ensures_look kept _).bind fun found => Ensures.given fun same => ?_
  have known : byEmail tables profile.email = found := Except.ok.inj same
  cases found with
  | some user =>
    rintro state rfl
    obtain ⟨stored, email⟩ := kept.byEmail known
    exact ⟨kept, stored, email, proven user known, proof⟩
  | none =>
    refine (ensures_look kept _).bind fun members => Ensures.given fun _ => ?_
    refine (createUser_creates kept _ _).bind fun _ => Ensures.given fun free => ?_
    rintro state rfl
    refine ⟨kept.creates free _, get?_set_self _ _ _, rfl, ⟨?_, ?_⟩, proof⟩
    · intro user there enabled
      have stored := (get?_set_self _ _ _).symm.trans (mem_def.mp there)
      cases stored
      cases enabled
    rintro ⟨tokenHash, token⟩ member owner live
    obtain ⟨other, stored⟩ := kept.owned tokenHash token (get?_eq_some.mpr member)
    rw [owner, free] at stored
    cases stored

def Linked (service : AccountService) (profile : OAuthProfile) (user : AuthUser)
  (later : AccountTables) : Prop :=
  Kept service.personOf later ∧ later.users.get? user.userId = some user ∧
    later.Entitled (service.personOf profile.provider profile.subject) user.userId

theorem linkOauthIdentity_links (opened : Opened service profile user tables) : Ensures (· = tables)
    (linkOauthIdentity profile.provider profile.subject
    { userId := user.userId, providerEmail := profile.email })
    (fun _ => Linked service profile user) (Kept service.personOf) := by
  obtain ⟨kept, stored, email, proven, proof⟩ := opened
  rintro state rfl
  unfold linkOauthIdentity
  by_cases used : (state.identities.get? (profile.provider, profile.subject)).isSome = true
  · rw [if_pos used]
    exact kept
  rw [if_neg used]
  rw [← email] at proven proof ⊢
  have linked := @Kept.links _ _ _ kept (profile.provider, profile.subject) user stored proven proof
  exact ⟨linked, stored, linked.entitled_email stored proof⟩

theorem linkedAccount_links (kept : Kept service.personOf tables)
  (proof : (service.personOf profile.provider profile.subject, profile.email) ∈ tables.verified)
  (proven : tables.identities.get? (profile.provider, profile.subject) = none →
    ∀ user ∈ byEmail tables profile.email, tables.Proven user.userId profile.email) :
  Ensures (· = tables) (service.linkedAccount person profile draws) (Linked service profile)
    (Kept service.personOf) := by
  refine (ensures_look kept _).bind fun found => Ensures.given fun same => ?_
  have known : (tables.identities.get? (profile.provider, profile.subject)).bind
    (fun identity => tables.users.get? identity.userId) = found := Except.ok.inj same
  cases found with
  | some user =>
    rintro state rfl
    obtain ⟨identity, linked, stored⟩ := bind_eq_some_iff.mp known
    have named := kept.keyed _ user stored
    obtain ⟨owner, there, email⟩ := kept.linked _ identity linked
    rw [stored] at there
    cases there
    rw [← named] at stored
    refine ⟨kept, stored, kept.entitled_email stored ?_⟩
    rw [email]
    exact kept.proved _ identity linked
  | none =>
    have unlinked : tables.identities.get? (profile.provider, profile.subject) = none := by
      cases linked : tables.identities.get? (profile.provider, profile.subject) with
      | none => rfl
      | some identity =>
        obtain ⟨owner, stored, _⟩ := kept.linked _ identity linked
        rw [linked, bind_some, stored] at known
        cases known
    refine (accountOf_opens kept proof (proven unlinked)).bind fun user => ?_
    refine Ensures.bind (ensures_each fun later opened => linkOauthIdentity_links opened)
      (fun _ => ?_)
    exact Ensures.pure fun _ => id

theorem exchangeOauthCode_keeps (kept : Kept service.personOf tables)
  (honest : service.Honest tables (.exchangeOauthCode profile, draws)) :
  Ensures (· = tables) (service.exchangeOauthCode profile draws)
    (fun _ => Kept service.personOf) (Kept service.personOf) := by
  have refuses : ∀ message, Ensures (· = tables) (refuse message : AccountCall AuthSession)
    (fun _ => Kept service.personOf) (Kept service.personOf) := by
    rintro message state rfl
    exact kept
  unfold exchangeOauthCode
  split
  case isFalse => exact refuses _
  case isTrue =>
    split
    case isFalse => exact refuses _
    case isTrue checked =>
      let person := service.personOf profile.provider profile.subject
      have noted : Ensures (· = tables) (noteVerified person profile.email)
          (fun _ later =>
            later = { tables with verified := (person, profile.email) :: tables.verified })
          (Kept service.personOf) := by
        rintro state rfl
        rfl
      refine noted.bind fun _ => ?_
      have verified := kept.verifies (person, profile.email)
      refine (linkedAccount_links verified (mem_cons_self) (honest checked)).bind
        (fun user => ensures_each fun later linked => ?_)
      obtain ⟨linkedKept, stored, entitled⟩ := linked
      split
      · rintro state rfl
        exact linkedKept
      refine (ensures_look linkedKept _).bind fun membership => Ensures.given fun _ => ?_
      exact issueSession_keeps linkedKept membership stored entitled

end

theorem perform_keeps {service : AccountService} (tables : AccountTables)
  (call : AccountRequest × Draws) (kept : Kept service.personOf tables)
  (honest : service.Honest tables call) : Kept service.personOf (service.perform tables call) := by
  obtain ⟨request, draws⟩ := call
  cases request with
  | register person email password displayName =>
    exact (register_keeps kept email password displayName).final rfl
  | login person email password => exact (login_keeps kept honest).final rfl
  | refresh person rawToken => exact (refresh_keeps kept honest).final rfl
  | changePassword person tenantId userId currentPassword newPassword =>
    exact (changePassword_keeps kept honest).final rfl
  | exchangeOauthCode profile => exact (exchangeOauthCode_keeps kept honest).final rfl

/-- Once an identity is linked to an account, its password and its live refresh tokens are of people
who proved control of the email. -/
theorem accounts_sealed (service : AccountService) (calls : List (AccountRequest × Draws))
  (honest : Meets service.perform service.Honest {} calls) :
  (calls.foldl service.perform {}).Sealed := by
  have start : Kept service.personOf {} :=
    { keyed := fun _ _ found => (nomatch found)
      linked := fun _ _ found => (nomatch found)
      owned := fun _ _ found => (nomatch found)
      proved := fun _ _ found => (nomatch found)
      guarded := fun _ _ found => (nomatch found) }
  exact (foldl_invariant perform_keeps start honest).sealed

end AccountService

namespace Merging

open AccountService Fallible

def service : AccountService where
  auth :=
    { jwtSecret := "secret", issuer := "harness", audience := "harness-web"
      accessTokenSeconds := 900, refreshTokenDays := 30, defaultTenantId := "default"
      dummyHash := "argon2:", hashPassword := fun password _ => "argon2:" ++ password
      verifyPassword := fun stored password => stored = "argon2:" ++ password
      hashToken := fun raw => "sha256:" ++ raw
      encodeJwt := fun _ _ => "jwt"
      lower := fun text => if text = "Fresh-secret-2" then "fresh-secret-2" else text
      upper := fun text => if text = "Fresh-secret-2" then "FRESH-SECRET-2" else text
      isDigit := fun char => char.isDigit }
  allowRegistration := true
  enabled _ := true
  personOf _ _ := 1

def profile : OAuthProfile where
  provider := .google
  subject := "ada"
  email := "ada@example.org"
  displayName := "Ada"
  emailVerified := true

/-- An account for the email is registered, Ada signs in with Google, and then both credentials of
the account are used. -/
def run (person : Nat) : List (AccountRequest × Draws) :=
  [(.register person "ada@example.org" "Fresh-secret-2" "Ada",
      { userId := "1", familyId := "1", raw := "first" }),
    (.exchangeOauthCode profile, { userId := "2", familyId := "2", raw := "second" }),
    (.login person "ada@example.org" "Fresh-secret-2", { familyId := "3", raw := "third" }),
    (.refresh person "first", { raw := "fourth" })]

theorem sealed_own : ((run 1).foldl service.perform {}).Sealed :=
  accounts_sealed service (run 1) (by decide +kernel)

/-- Somebody else registered the account, and keeps its password and a refresh token. -/
theorem foreign_password_stays : ¬ ((run 2).foldl service.perform {}).Sealed := by
  decide +kernel

end Merging

end AgentHarness.Auth
