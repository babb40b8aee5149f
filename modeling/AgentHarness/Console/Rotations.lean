import AgentHarness.Auth.Sessions
import AgentHarness.Console.Conduct

/-!
The refresh token of a browser over every interleaving of its requests.
-/

namespace AgentHarness.Console

open Auth Collections Interaction Program Dict Function List Web AuthRepository
open Bool String

def Unused (web : Web) (tokenHash : String) : Prop :=
  ∀ row ∈ web.tables.refreshTokens.get? tokenHash, row.revokedAt = none

def Orderly (web : Web) (_request : Nat) : WebOp → WebInput → Prop
  | .getRefreshToken tokenHash, input => Unused web tokenHash ∧ input.fault ≠ .failed
  | .rotateRefreshToken tokenHash _ _, input => Unused web tokenHash ∧ input.fault = .none
  | .getUser _, input | .getMembership _ _, input => input.fault = .none
  | .api _ carried, input => carried.isSome = true → input.fault = .none
  | _, _ => True

def Harmless (_web : Web) (_request : Nat) : WebOp → WebInput → Prop
  | .revokeTokenFamily _ _, _ | .receive .clear, _ => False
  | _, _ => True

instance (web : Web) (tokenHash : String) : Decidable (Unused web tokenHash) := by
  unfold Unused
  infer_instance

instance (web : Web) (request : Nat) (op : WebOp) (input : WebInput) :
  Decidable (Orderly web request op input) := by
  unfold Orderly
  split <;> infer_instance

instance (web : Web) (request : Nat) (op : WebOp) (input : WebInput) :
  Decidable (Harmless web request op input) := by
  unfold Harmless
  split <;> infer_instance

namespace ConsoleSession

variable (session : ConsoleSession)

def drawnHash (request : Nat) : String := session.hash (session.draws request).raw

structure Live (web : Web) (tokenHash : String) : Prop where
  stored : ∃ row, web.tables.refreshTokens.get? tokenHash = some row ∧ session.Valid row
  sole : ∀ other row, web.tables.refreshTokens.get? other = some row →
    row.familyId = session.token.familyId → row.revokedAt = none → other = tokenHash

def Issued (web : Web) (rawToken : String) : Prop :=
  rawToken ≠ "" ∧ ∃ row, web.tables.refreshTokens.get? (session.hash rawToken) = some row ∧
    row.familyId = session.token.familyId

def AtBrowser (web : Web) (known : Nat → Carrying) (rawToken : String) : Prop :=
  session.Live web (session.hash rawToken) ∧ web.cookies.refresh = some rawToken ∧
    ∀ request, known request ≠ .rotated

structure UnderWay (web : Web) (known : Nat → Carrying) (request : Nat) : Prop where
  live : session.Live web (session.drawnHash request)
  rotated : known request = .rotated
  alone : ∀ other, known other = .rotated → other = request
  unseen : ∀ other rawToken, (known other).rawToken = some rawToken →
    session.hash rawToken ≠ session.drawnHash request

structure Kept (web : Web) (known : Nat → Carrying) : Prop where
  users : web.tables.users = session.tables.users
  memberships : web.tables.memberships = session.tables.memberships
  cookie : ∃ rawToken, web.cookies.refresh = some rawToken ∧ session.Issued web rawToken
  issued : ∀ request rawToken, (known request).rawToken = some rawToken →
    session.Issued web rawToken
  undrawn : ∀ request, known request = .unsent ∨ (known request).rawToken.isSome = true →
    web.tables.refreshTokens.get? (session.drawnHash request) = none
  place : (∃ rawToken, session.AtBrowser web known rawToken) ∨
    ∃ request, session.UnderWay web known request ∧
      ∀ rawToken ∈ web.cookies.refresh, session.hash rawToken ≠ session.drawnHash request

section

variable {session : ConsoleSession} {web : Web} {known : Nat → Carrying} {request : Nat}

theorem live_start : session.Live ⟨session.cookies, session.tables⟩
  (session.hash session.rawToken) where
  stored := ⟨session.token, session.stored, rfl, rfl, rfl, session.unrevoked, session.unexpired⟩
  sole := session.sole

theorem kept_start : session.Kept ⟨session.cookies, session.tables⟩ (fun _ => .unsent) where
  users := rfl
  memberships := rfl
  cookie := ⟨session.rawToken, session.held, session.written, session.token, session.stored, rfl⟩
  issued _ _ impossible := nomatch impossible
  undrawn request _ := session.fresh request
  place := .inl ⟨session.rawToken, live_start, session.held, fun _ => nofun⟩

theorem live_unused {tokenHash rawToken : String} (live : session.Live web tokenHash)
  (issued : session.Issued web rawToken) (unused : Unused web (session.hash rawToken)) :
  session.hash rawToken = tokenHash := by
  obtain ⟨_, row, found, family⟩ := issued
  exact live.sole _ row found family (unused row found)

section

variable (kept : session.Kept web known)

include kept

theorem atBrowser_unused {rawToken : String} (carries : (known request).rawToken = some rawToken)
  (unused : Unused web (session.hash rawToken)) :
  ∃ held, session.AtBrowser web known held ∧ session.hash rawToken = session.hash held := by
  have issued := kept.issued request rawToken carries
  rcases kept.place with ⟨held, place⟩ | ⟨other, place, _⟩
  · exact ⟨held, place, live_unused place.1 issued unused⟩
  exact absurd (live_unused place.live issued unused) (place.unseen request rawToken carries)

theorem Kept.carries {later : Carrying} (unrotated : later ≠ .rotated)
  (before : known request ≠ .rotated) (token : ∀ rawToken, later.rawToken = some rawToken →
    web.cookies.refresh = some rawToken ∨ (known request).rawToken = some rawToken)
  (drawn : later = .unsent ∨ later.rawToken.isSome = true →
    known request = .unsent ∨ (known request).rawToken.isSome = true) :
  session.Kept web (update known request later) := by
  have rotated : ∀ other, update known request later other = .rotated → known other = .rotated := by
    intro other reached
    by_cases same : other = request
    · rw [same, update_self] at reached
      exact absurd reached unrotated
    rw [update_of_ne same] at reached
    exact reached
  constructor
  · exact kept.users
  · exact kept.memberships
  · exact kept.cookie
  · intro other rawToken carried
    by_cases same : other = request
    · subst other
      rw [update_self] at carried
      rcases token rawToken carried with cookie | own
      · obtain ⟨held, stored, issued⟩ := kept.cookie
        cases cookie.symm.trans stored
        exact issued
      exact kept.issued request rawToken own
    rw [update_of_ne same] at carried
    exact kept.issued other rawToken carried
  · intro other pending
    by_cases same : other = request
    · subst other
      rw [update_self] at pending
      exact kept.undrawn request (drawn pending)
    rw [update_of_ne same] at pending
    exact kept.undrawn other pending
  rcases kept.place with ⟨held, live, cookie, none⟩ | ⟨holder, way, cookie⟩
  · exact .inl ⟨held, live, cookie, fun other reached => none other (rotated other reached)⟩
  refine .inr ⟨holder, ⟨way.live, ?_, ?_, ?_⟩, cookie⟩
  · have distinct : holder ≠ request := by
      rintro rfl
      exact before way.rotated
    rw [update_of_ne distinct]
    exact way.rotated
  · exact fun other reached => way.alone other (rotated other reached)
  intro other rawToken carried
  by_cases same : other = request
  · subst other
    rw [update_self] at carried
    rcases token rawToken carried with present | own
    · exact cookie rawToken present
    exact way.unseen request rawToken own
  rw [update_of_ne same] at carried
  exact way.unseen other rawToken carried

theorem Kept.same : session.Kept web (update known request (known request)) := by
  rw [update_eq_self]
  exact kept

theorem Kept.rotates {rawToken : String} {row current replacement : RefreshToken}
  {revokedAt : Int} (looked : known request = .looked rawToken row)
  (unused : Unused web (session.hash rawToken))
  (stored : web.tables.refreshTokens.get? (session.hash rawToken) = some current)
  (valid : session.Valid replacement) {tables : AccountTables}
  (named : replacement.tokenHash = session.drawnHash request)
  (users : tables.users = web.tables.users)
  (memberships : tables.memberships = web.tables.memberships) (tokens : tables.refreshTokens =
    (web.tables.refreshTokens.set (session.hash rawToken)
      { current with
        revokedAt := some revokedAt
        replacedByHash := some replacement.tokenHash }).set replacement.tokenHash replacement) :
  session.Kept { web with tables } (update known request .rotated) := by
  have carries : (known request).rawToken = some rawToken := by
    rw [looked]
    rfl
  obtain ⟨held, ⟨live, cookie, none⟩, same⟩ := atBrowser_unused kept carries unused
  have undrawn : web.tables.refreshTokens.get? (session.drawnHash request) = Option.none := by
    apply kept.undrawn request
    rw [carries]
    exact .inr rfl
  have apart : ∀ other, session.Issued web other →
    session.hash other ≠ session.drawnHash request := by
    rintro other ⟨_, before, found, _⟩ clash
    rw [clash, undrawn] at found
    cases found
  have get : ∀ tokenHash, tables.refreshTokens.get? tokenHash =
      if tokenHash = session.drawnHash request then some replacement
      else if tokenHash = session.hash rawToken then
        some { current with
          revokedAt := some revokedAt, replacedByHash := some replacement.tokenHash }
      else web.tables.refreshTokens.get? tokenHash := by
    intro tokenHash
    rw [tokens, get?_set, get?_set, named]
  have issuedRow : session.Issued web rawToken := kept.issued request rawToken carries
  have issues : ∀ other, session.Issued web other → session.Issued { web with tables } other := by
    intro other issued
    refine ⟨issued.1, ?_⟩
    obtain ⟨before, found, family⟩ := issued.2
    rw [get, if_neg (apart other issued)]
    by_cases spent : session.hash other = session.hash rawToken
    · rw [if_pos spent]
      obtain ⟨_, first, firstFound, firstFamily⟩ := issuedRow
      cases firstFound.symm.trans stored
      exact ⟨_, rfl, firstFamily⟩
    rw [if_neg spent]
    exact ⟨before, found, family⟩
  have renewed : session.Live { web with tables } (session.drawnHash request) := by
    constructor
    · exact ⟨replacement, by rw [get, if_pos rfl], valid⟩
    intro other found present family unrevoked
    have present : tables.refreshTokens.get? other = some found := present
    rw [get] at present
    by_cases drawn : other = session.drawnHash request
    · exact drawn
    rw [if_neg drawn] at present
    by_cases spent : other = session.hash rawToken
    · rw [if_pos spent] at present
      cases present
      cases unrevoked
    rw [if_neg spent] at present
    exact absurd ((live.sole other found present family unrevoked).trans same.symm) spent
  have earlier : ∀ other token, (update known request .rotated other).rawToken =
    some token → (known other).rawToken = some token := by
    intro other token carried
    by_cases own : other = request
    · rw [own, update_self] at carried
      cases carried
    rw [update_of_ne own] at carried
    exact carried
  constructor
  · exact users.trans kept.users
  · exact memberships.trans kept.memberships
  · obtain ⟨first, present, issued⟩ := kept.cookie
    exact ⟨first, present, issues first issued⟩
  · intro other token carried
    exact issues token (kept.issued other token (earlier other token carried))
  · intro other pending
    by_cases own : other = request
    · subst other
      rw [update_self] at pending
      rcases pending with impossible | impossible
      · cases impossible
      cases impossible
    rw [update_of_ne own] at pending
    have before := kept.undrawn other pending
    have drawn : session.drawnHash other ≠ session.drawnHash request :=
      fun clash => own (session.distinct clash)
    have spent : session.drawnHash other ≠ session.hash rawToken := by
      intro clash
      rw [clash, stored] at before
      cases before
    rw [get, if_neg drawn, if_neg spent]
    exact before
  refine .inr ⟨request, ⟨renewed, update_self _ _ _, ?_, ?_⟩, ?_⟩
  · intro other reached
    by_cases own : other = request
    · exact own
    rw [update_of_ne own] at reached
    exact absurd reached (none other)
  · intro other token carried
    exact apart token (kept.issued other token (earlier other token carried))
  intro token present
  obtain ⟨first, kept, issued⟩ := kept.cookie
  cases kept.symm.trans present
  exact apart token issued

theorem Kept.delivers {renewed : AuthSession} (rotated : known request = .rotated)
  (drawn : renewed.refreshToken = (session.draws request).raw) :
  session.Kept { web with cookies := web.cookies.after (.session renewed) }
    (update known request .ended) := by
  rcases kept.place with ⟨_, _, _, none⟩ | ⟨holder, way, _⟩
  · exact absurd rotated (none request)
  have own : request = holder := way.alone request rotated
  subst holder
  have brought : (web.cookies.after (.session renewed)).refresh =
    some (session.draws request).raw := congrArg some drawn
  obtain ⟨row, stored, valid⟩ := way.live.stored
  have settled : ∀ other, update known request .ended other ≠ .rotated := by
    intro other reached
    by_cases same : other = request
    · rw [same, update_self] at reached
      cases reached
    rw [update_of_ne same] at reached
    exact same (way.alone other reached)
  constructor
  · exact kept.users
  · exact kept.memberships
  · exact ⟨_, brought, session.drawn request, row, stored, valid.family⟩
  · intro other rawToken carried
    by_cases same : other = request
    · rw [same, update_self] at carried
      cases carried
    rw [update_of_ne same] at carried
    exact kept.issued other rawToken carried
  · intro other pending
    by_cases same : other = request
    · rw [same, update_self] at pending
      rcases pending with impossible | impossible
      · cases impossible
      cases impossible
    rw [update_of_ne same] at pending
    exact kept.undrawn other pending
  have live : session.Live { web with cookies := web.cookies.after (.session renewed) }
      (session.drawnHash request) := ⟨way.live.stored, way.live.sole⟩
  exact .inl ⟨(session.draws request).raw, live, brought, settled⟩

theorem answered (op : WebOp) (input : WebInput) (orderly : Orderly web request op input)
  (admits : session.Admits request (known request) op) :
  ∃ later, session.Learns (known request) op (web.answer request input op).1 later ∧
    session.Kept (web.answer request input op).2 (update known request later) := by
  cases op with
  | send =>
    have unsent : known request = .unsent := admits
    obtain ⟨rawToken, present, issued⟩ := kept.cookie
    refine ⟨.sent rawToken, ⟨rawToken, present, issued.1, rfl⟩, ?_⟩
    apply kept.carries
    · nofun
    · rw [unsent]
      nofun
    · rintro token ⟨⟩
      exact .inl present
    exact fun _ => .inl unsent
  | api accessToken carried =>
    refine ⟨known request, ?_, ?_⟩
    · dsimp only [answer]
      cases fault : input.fault with
      | none => rfl
      | failed | unreachable =>
        cases carried with
        | none => exact ⟨rfl, rfl, rfl⟩
        | some renewed =>
          have answered := orderly rfl
          rw [fault] at answered
          cases answered
    dsimp only [answer]
    split
    · exact kept.same
    exact kept.same
  | getRefreshToken tokenHash =>
    obtain ⟨rawToken, sent, rfl⟩ := admits
    obtain ⟨unused, answers⟩ := orderly
    dsimp only [answer, serve]
    cases fault : input.fault with
    | failed => exact absurd fault answers
    | unreachable => exact ⟨known request, ⟨rfl, rfl⟩, kept.same⟩
    | none =>
      have carries : (known request).rawToken = some rawToken := by
        rw [sent]
        rfl
      obtain ⟨held, ⟨live, _⟩, same⟩ := atBrowser_unused kept carries unused
      obtain ⟨row, found, valid⟩ := live.stored
      have looked : web.tables.refreshTokens.get? (session.hash rawToken) = some row := by
        rw [same]
        exact found
      refine ⟨.looked rawToken row, ⟨rawToken, row, sent, looked, valid, rfl⟩, ?_⟩
      apply kept.carries
      · nofun
      · rw [sent]
        nofun
      · rintro token ⟨⟩
        exact .inr carries
      intro _
      rw [carries]
      exact .inr rfl
  | getUser userId =>
    obtain rfl := admits
    have answers : input.fault = .none := orderly
    have found : web.tables.users.get? session.token.userId = some session.user := by
      rw [kept.users]
      exact session.account
    refine ⟨known request, ?_, ?_⟩
    · dsimp only [answer, serve, AuthRepository.getUser, look]
      rw [answers, found]
      exact ⟨rfl, rfl⟩
    dsimp only [answer, serve]
    rw [answers]
    exact kept.same
  | getMembership tenantId userId =>
    obtain ⟨rfl, rfl⟩ := admits
    have answers : input.fault = .none := orderly
    have found : web.tables.memberships.get? (session.token.tenantId, session.token.userId) =
      some session.membership := by
      rw [kept.memberships]
      exact session.belongs
    refine ⟨known request, ?_, ?_⟩
    · dsimp only [answer, serve, AuthRepository.getMembership, look]
      rw [answers, found]
      exact ⟨rfl, rfl⟩
    dsimp only [answer, serve]
    rw [answers]
    exact kept.same
  | rotateRefreshToken tokenHash replacement revokedAt =>
    obtain ⟨rawToken, row, looked, valid, rfl, same⟩ := admits
    obtain ⟨unused, answers⟩ := orderly
    have carries : (known request).rawToken = some rawToken := by
      rw [looked]
      rfl
    obtain ⟨_, current, stored, _⟩ := kept.issued request rawToken carries
    have named : replacement.tokenHash = session.drawnHash request := by
      rw [same]
      rfl
    have valid : session.Valid replacement := by
      rw [same]
      exact session.valid_replacement request valid
    have undrawn : web.tables.refreshTokens.get? (session.drawnHash request) = none := by
      apply kept.undrawn request
      rw [carries]
      exact .inr rfl
    have apart : session.drawnHash request ≠ session.hash rawToken := by
      intro clash
      rw [clash, stored] at undrawn
      cases undrawn
    have unrevoked : ¬current.revokedAt.isSome = true := by
      rw [unused current stored]
      exact false_ne_true
    have free : ¬((web.tables.refreshTokens.set (session.hash rawToken)
        { current with
          revokedAt := some revokedAt
          replacedByHash := some replacement.tokenHash }).get?
            replacement.tokenHash).isSome = true := by
      rw [named, get?_set_other _ _ apart, undrawn]
      exact false_ne_true
    refine ⟨.rotated, ?_, ?_⟩
    · dsimp only [answer, serve, AuthRepository.rotateRefreshToken]
      rw [answers, stored]
      dsimp only
      rw [if_neg unrevoked, if_neg free]
      exact ⟨rfl, rfl⟩
    dsimp only [answer, serve, AuthRepository.rotateRefreshToken]
    rw [answers, stored]
    dsimp only
    rw [if_neg unrevoked, if_neg free]
    exact kept.rotates looked unused stored valid named rfl rfl rfl
  | revokeTokenFamily familyId revokedAt => exact admits.elim
  | receive setCookie =>
    refine ⟨.ended, rfl, ?_⟩
    cases setCookie with
    | keep =>
      obtain ⟨rawToken, sent⟩ := admits
      apply kept.carries
      · nofun
      · rw [sent]
        nofun
      · exact fun _ => nofun
      rintro (impossible | impossible)
      · cases impossible
      cases impossible
    | session renewed => exact kept.delivers admits.1 admits.2
    | clear => exact admits.elim

end

theorem adheres : Pool.Adheres component session.contract session.Kept Orderly := by
  intro web known request op input kept orderly admits
  exact answered kept op input orderly admits

theorem admits_harmless {carrying : Carrying} {op : WebOp} {input : WebInput}
  (admits : session.Admits request carrying op) : Harmless web request op input := by
  cases op with
  | revokeTokenFamily familyId now => exact admits
  | receive setCookie =>
    cases setCookie with
    | clear => exact admits
    | _ => trivial
  | _ => trivial

end

abbrev ConsolePool := Pool WebOp WebOp.Answer WebError Nat Web Nat

def console : ConsolePool where
  state := ⟨session.cookies, session.tables⟩
  thread request := forward session.service (session.draws request)

def Usable (web : Web) : Prop :=
  ∃ rawToken row, web.cookies.refresh = some rawToken ∧
    web.tables.refreshTokens.get? (session.hash rawToken) = some row ∧ session.Valid row

def Answered (pool : ConsolePool) : Prop :=
  ∀ request, pool.thread request = forward session.service (session.draws request) ∨
    ∃ status, pool.thread request = .done status

/-- In every run in which each token is refreshed with once, no request revokes the family or
clears the cookies, and the browser has a usable token when all are answered. -/
theorem refreshes_in_turn (schedule : List (Nat × WebInput))
  (orderly : session.console.Along component Orderly schedule) :
  session.console.Along component Harmless schedule ∧
    (session.Answered (session.console.run component schedule) →
    session.Usable (session.console.run component schedule).state) := by
  have ready : session.console.Ready session.contract session.Kept
    (fun _ later _ => later = .ended) (fun _ _ _ => False) (fun _ => .unsent) :=
    ⟨kept_start, session.wp_forward⟩
  constructor
  · apply Pool.along_ready adheres _ ready schedule orderly
    intro web known request op input _ _ admits
    exact admits_harmless admits
  intro answered
  obtain ⟨known, kept, threads⟩ := Pool.run_ready adheres ready schedule orderly
  have idle : ∀ request, known request ≠ .rotated := by
    intro request rotated
    have own := threads request
    rcases answered request with start | ⟨status, done⟩
    · rw [start, forward, wp_do_perform] at own
      have unsent : known request = .unsent := own.1
      rw [rotated] at unsent
      cases unsent
    rw [done] at own
    have ended : known request = .ended := own
    rw [rotated] at ended
    cases ended
  rcases kept.place with ⟨rawToken, live, held, _⟩ | ⟨holder, way, _⟩
  · obtain ⟨row, stored, valid⟩ := live.stored
    exact ⟨rawToken, row, held, stored, valid⟩
  exact absurd way.rotated (idle holder)

end ConsoleSession

section

theorem hash_inj {first second : String} (same : "sha256:" ++ first = "sha256:" ++ second) :
  first = second := by
  have lists := congrArg String.toList same
  rw [toList_append, toList_append] at lists
  exact toList_inj.mp (append_cancel_left lists)

def drawn (request : Nat) : String := String.ofList (List.replicate (request + 1) '+')

theorem drawn_inj : Function.Injective drawn := by
  intro first second same
  have lengths := congrArg (fun text => text.toList.length) same
  simpa [drawn] using lengths

theorem drawn_ne {text : String} (plain : '+' ∉ text.toList) (request : Nat) :
  drawn request ≠ text := by
  rintro rfl
  apply plain
  rw [drawn, toList_ofList]
  exact mem_replicate.mpr ⟨Nat.succ_ne_zero request, rfl⟩

theorem drawn_fresh (request : Nat) : "sha256:" ++ drawn request ≠ "sha256:first" := by
  intro same
  have first : "sha256:" ++ drawn request = "sha256:" ++ "first" := same
  exact drawn_ne (by decide) request (hash_inj first)

theorem firstToken_only {tokenHash : String} {row : RefreshToken}
  (found : (Dict.empty.set "sha256:first" firstToken).get? tokenHash = some row) :
  tokenHash = "sha256:first" := by
  rw [get?_set] at found
  split at found
  case isTrue same => exact same
  · cases found

def adaSession : ConsoleSession where
  service :=
    { auth := plainService, allowRegistration := false, enabled := fun _ => false
      personOf := fun _ _ => 0 }
  tables :=
    { users := Dict.empty.set "user_ada" (ada false)
      memberships := Dict.empty.set ("default", "user_ada")
        { tenantId := "default", userId := "user_ada", role := .owner, createdAt := 0 }
      refreshTokens := Dict.empty.set "sha256:first" firstToken }
  cookies := { access := some "jwt", refresh := some "first" }
  draws request := { now := 10, raw := drawn request }
  final := 50
  rawToken := "first"
  token := firstToken
  user := ada false
  membership := { tenantId := "default", userId := "user_ada", role := .owner, createdAt := 0 }
  held := rfl
  stored := rfl
  unrevoked := rfl
  unexpired := by decide
  sole tokenHash _ found _ _ := firstToken_only found
  account := rfl
  named := rfl
  belongs := rfl
  tenant := rfl
  family := by decide
  written := by decide
  drawn := drawn_ne (by decide)
  fresh request := (get?_set_other _ _ (drawn_fresh request)).trans (get?_empty _)
  distinct _ _ same := drawn_inj (hash_inj same)
  recent _ := show (10 : Int) ≤ 50 by decide
  lasting _ := show (50 : Int) < 10 + 30 * day by decide

def expired : WebInput := { status := 401 }

/-- The second request is sent when the first one has brought its new token. -/
theorem refreshes_apart :
  let schedule := [(0, {}), (0, expired), (0, {}), (0, {}), (0, {}), (0, {}), (0, {}), (0, {}),
    (1, {}), (1, {}), (1, {})]
  adaSession.console.Along component Harmless schedule ∧
    (adaSession.Answered (adaSession.console.run component schedule) →
      adaSession.Usable (adaSession.console.run component schedule).state) :=
  adaSession.refreshes_in_turn _ (by decide +kernel)

/-- Two requests are sent with the same cookies, and the second refresh counts as theft. -/
theorem parallel_refresh_revokes : ¬adaSession.console.Along component Harmless
  [(0, {}), (1, {}), (0, expired), (1, expired), (0, {}), (0, {}), (0, {}), (0, {}),
  (1, {}), (1, {})] := by
  decide +kernel

end

end AgentHarness.Console
