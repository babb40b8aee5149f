import AgentHarness.Console.Proxy

/-!
What a proxied request knows of the refresh token it came with.
-/

namespace AgentHarness.Console

open Auth Interaction Program Option

/-- The browser has sent requests with an expired access token and a valid refresh token; `final`
is the last instant that is looked at. -/
structure ConsoleSession where
  service : AccountService
  tables : AccountTables
  cookies : Cookies
  draws : Nat → Draws
  final : Int
  rawToken : String
  token : RefreshToken
  user : AuthUser
  membership : Membership
  held : cookies.refresh = some rawToken
  stored : tables.refreshTokens.get? (service.auth.hashToken rawToken) = some token
  unrevoked : token.revokedAt = none
  unexpired : final < token.expiresAt
  sole : ∀ tokenHash other, tables.refreshTokens.get? tokenHash = some other →
    other.familyId = token.familyId → other.revokedAt = none →
      tokenHash = service.auth.hashToken rawToken
  account : tables.users.get? token.userId = some user
  named : user.userId = token.userId
  belongs : tables.memberships.get? (token.tenantId, token.userId) = some membership
  tenant : membership.tenantId = token.tenantId
  family : token.familyId ≠ ""
  written : rawToken ≠ ""
  drawn : ∀ request, (draws request).raw ≠ ""
  fresh : ∀ request, tables.refreshTokens.get? (service.auth.hashToken (draws request).raw) = none
  distinct : Function.Injective fun request => service.auth.hashToken (draws request).raw
  recent : ∀ request, (draws request).now ≤ final
  lasting : ∀ request, final < (draws request).now + service.auth.refreshTokenDays * day

namespace ConsoleSession

variable (session : ConsoleSession)

def hash (rawToken : String) : String := session.service.auth.hashToken rawToken

structure Valid (row : RefreshToken) : Prop where
  family : row.familyId = session.token.familyId
  user : row.userId = session.token.userId
  tenant : row.tenantId = session.token.tenantId
  unrevoked : row.revokedAt = none
  unexpired : session.final < row.expiresAt

theorem valid_replacement (request : Nat) {row : RefreshToken} (valid : session.Valid row) :
  session.Valid (session.service.newRefreshToken session.user session.membership
    (some row.familyId) (session.draws request)) := by
  have named : (some row.familyId).filter (fun family => decide (family ≠ "")) =
    some row.familyId := by
    rw [filter_some, valid.family, if_pos (decide_eq_true session.family)]
  constructor
  · rw [AccountService.newRefreshToken, named]
    exact valid.family
  · exact session.named
  · exact session.tenant
  · rfl
  exact session.lasting request

end ConsoleSession

inductive Carrying where
  | unsent
  | sent (rawToken : String)
  | looked (rawToken : String) (row : RefreshToken)
  | rotated
  | ended

def Carrying.rawToken : Carrying → Option String
  | .sent rawToken | .looked rawToken _ => some rawToken
  | _ => none

namespace ConsoleSession

variable (session : ConsoleSession) (request : Nat)

def Admits (carrying : Carrying) : WebOp → Prop
  | .send => carrying = .unsent
  | .api _ none => ∃ rawToken, carrying = .sent rawToken
  | .api _ (some _) => carrying = .rotated
  | .getRefreshToken tokenHash =>
    ∃ rawToken, carrying = .sent rawToken ∧ tokenHash = session.hash rawToken
  | .getUser userId => userId = session.token.userId
  | .getMembership tenantId userId =>
    tenantId = session.token.tenantId ∧ userId = session.token.userId
  | .rotateRefreshToken tokenHash replacement _ =>
    ∃ rawToken row, carrying = .looked rawToken row ∧ session.Valid row ∧
      tokenHash = session.hash rawToken ∧
      replacement = session.service.newRefreshToken session.user session.membership
        (some row.familyId) (session.draws request)
  | .revokeTokenFamily _ _ => False
  | .receive .keep => ∃ rawToken, carrying = .sent rawToken
  | .receive (.session renewed) =>
    carrying = .rotated ∧ renewed.refreshToken = (session.draws request).raw
  | .receive .clear => False

def Learns (carrying : Carrying) : (op : WebOp) → Except WebError op.Answer → Carrying → Prop
  | .send, .ok cookies, later =>
    ∃ rawToken, cookies.refresh = some rawToken ∧ rawToken ≠ "" ∧ later = .sent rawToken
  | .api _ _, .ok _, later => later = carrying
  | .api _ carried, .error error, later => carried = none ∧ error = .unreachable ∧ later = carrying
  | .getRefreshToken _, .ok found, later =>
    ∃ rawToken row, carrying = .sent rawToken ∧ found = some row ∧ session.Valid row ∧
      later = .looked rawToken row
  | .getRefreshToken _, .error error, later => error = .unreachable ∧ later = carrying
  | .getUser _, .ok user, later => user = session.user ∧ later = carrying
  | .getMembership _ _, .ok membership, later => membership = session.membership ∧ later = carrying
  | .rotateRefreshToken _ _ _, .ok rotated, later => rotated = true ∧ later = .rotated
  | .receive _, .ok _, later => later = .ended
  | _, _, _ => False

def contract : Contract WebOp WebOp.Answer WebError Carrying where
  allowed := session.Admits request
  learns := session.Learns

def Untouched (rawToken : String) (later : Carrying) (error : WebError) : Prop :=
  error = .unreachable ∧ later = .sent rawToken

theorem wp_refresh (rawToken : String) :
  (refresh session.service rawToken (session.draws request)).wp (session.contract request)
    (fun later renewed => later = .rotated ∧ renewed.refreshToken = (session.draws request).raw)
    (Untouched rawToken) (.sent rawToken) := by
  rw [refresh, wp_do_perform]
  refine ⟨⟨rawToken, rfl, rfl⟩, ?_, fun _ _ => id⟩
  rintro found later ⟨own, row, same, isRow, valid, rfl⟩
  cases same
  have present : id found = some row := isRow
  rw [present]
  have unrevoked : ¬row.revokedAt.isSome = true := by
    rw [valid.unrevoked]
    exact Bool.false_ne_true
  have unexpired : ¬row.expiresAt ≤ (session.draws request).now := by
    have recent := session.recent request
    have later := valid.unexpired
    omega
  dsimp only
  rw [if_neg unrevoked, if_neg unexpired, rotate, wp_do_perform]
  refine ⟨valid.user, ?_, nofun⟩
  rintro user later ⟨rfl, rfl⟩
  rw [wp_do_perform]
  refine ⟨⟨valid.tenant, valid.user⟩, ?_, nofun⟩
  rintro membership later ⟨rfl, rfl⟩
  rw [wp_do_perform]
  refine ⟨⟨rawToken, row, rfl, valid, rfl, rfl⟩, ?_, nofun⟩
  rintro rotated later ⟨rfl, rfl⟩
  exact ⟨rfl, rfl⟩

variable {cookies : Cookies} {rawToken : String}

theorem wp_refreshSession (held : cookies.refresh = some rawToken) (written : rawToken ≠ "") :
  (refreshSession session.service cookies (session.draws request)).wp (session.contract request)
    (fun later refreshed => ∃ renewed, refreshed = some renewed ∧ later = .rotated ∧
    renewed.refreshToken = (session.draws request).raw)
    (Untouched rawToken) (.sent rawToken) := by
  have present : cookies.refresh.filter (fun refreshToken => decide (refreshToken ≠ "")) =
    some rawToken := by
    rw [held, filter_some, if_pos (decide_eq_true written)]
  rw [refreshSession, present]
  rw [wp_catching, wp_bind]
  apply wp_mono (session.wp_refresh request rawToken)
  · intro later renewed holds
    exact ⟨renewed, rfl, holds⟩
  rintro later error ⟨rfl, rfl⟩
  exact ⟨rfl, rfl⟩

def Delivers (later : Carrying) (setCookie : SetCookie) : Prop :=
  (∃ rawToken, setCookie = .keep ∧ later = .sent rawToken) ∨
    ∃ renewed, setCookie = .session renewed ∧ later = .rotated ∧
      renewed.refreshToken = (session.draws request).raw

theorem wp_forwarded (held : cookies.refresh = some rawToken) (written : rawToken ≠ "") :
  (forwarded session.service cookies (session.draws request)).wp (session.contract request)
    (fun later ended => session.Delivers request later ended.2)
    (Untouched rawToken) (.sent rawToken) := by
  rw [forwarded, wp_do_perform]
  refine ⟨⟨rawToken, rfl⟩, ?_, ?_⟩
  · rintro status later rfl
    split
    · rw [wp_do]
      apply wp_mono (session.wp_refreshSession request held written)
      · rintro later refreshed ⟨renewed, rfl, rfl, drawn⟩
        rw [wp_do_perform]
        refine ⟨rfl, ?_, fun _ _ learned => (nomatch learned.1)⟩
        rintro retried last rfl
        exact .inr ⟨renewed, rfl, rfl, drawn⟩
      exact fun _ _ => id
    exact .inl ⟨rawToken, rfl, rfl⟩
  rintro error later ⟨_, rfl, rfl⟩
  exact ⟨rfl, rfl⟩

theorem wp_forward : (forward session.service (session.draws request)).wp (session.contract request)
  (fun later _ => later = .ended) (fun _ _ => False) .unsent := by
  rw [forward, wp_do_perform]
  refine ⟨rfl, ?_, nofun⟩
  rintro cookies later ⟨rawToken, held, written, rfl⟩
  rw [wp_do, wp_catching]
  apply wp_mono (session.wp_forwarded request held written)
  · rintro later ⟨status, setCookie⟩ delivers
    rw [wp_do_perform]
    refine ⟨?_, fun _ _ => id, nofun⟩
    rcases delivers with ⟨own, same, sent⟩ | ⟨renewed, same, rotated, drawn⟩
    · have kept : setCookie = .keep := same
      rw [kept]
      exact ⟨own, sent⟩
    have given : setCookie = .session renewed := same
    rw [given]
    exact ⟨rotated, drawn⟩
  rintro later error ⟨_, rfl⟩
  rw [wp_done, wp_do_perform]
  exact ⟨⟨rawToken, rfl⟩, fun _ _ => id, nofun⟩

end ConsoleSession

end AgentHarness.Console
