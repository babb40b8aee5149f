import AgentHarness.Auth.Consistency

/-!
What a revocation reaches.
-/

namespace AgentHarness.Auth

open Collections Dict Function List Trail LockedTable AuthDatabase Option

/-- The rows that a revocation is meant to end.  A change of the password ends the sessions
whose password was verified before the new one was saved. -/
def Covers (verified : String → Nat) (trail : Trail) : TokenRows → RefreshToken → Prop
  | .token _, _ => False
  | .family familyId, token => token.familyId = familyId
  | .user userId, token =>
    token.userId = userId ∧ ∃ change ∈ trail.changed, verified token.familyId ≤ change.2

instance (verified : String → Nat) (trail : Trail) (selection : TokenRows) (token : RefreshToken) :
  Decidable (Covers verified trail selection token) :=
  match selection with
  | .token _ => inferInstanceAs (Decidable False)
  | .family familyId => inferInstanceAs (Decidable (token.familyId = familyId))
  | .user _ => inferInstanceAs (Decidable (_ ∧ ∃ change ∈ trail.changed, _))

/-- A revocation has fixed its rows, and had not written them when the row was claimed
that the new one replaces, if it replaces one. -/
def Overtaken (verified : String → Nat) (own trail : Trail) (token : RefreshToken) : Prop :=
  ∃ revocation ∈ trail.revocations, Covers verified trail revocation.1 token ∧
    ∀ claimed ∈ own.claimedAt, ∀ written ∈ revocation.2, claimed < written

instance (verified : String → Nat) (own trail : Trail) (token : RefreshToken) :
  Decidable (Overtaken verified own trail token) :=
  inferInstanceAs (Decidable (∃ revocation ∈ trail.revocations, _ ∧ ∀ claimed ∈ own.claimedAt,
    ∀ written ∈ revocation.2, claimed < written))

/-- A new row is committed only when no revocation that covers it overlaps the rotation or
the login it comes from, and a row is rotated only for an account that is not disabled. -/
def Orderly (database : AuthDatabase) (actor : Nat) (op : AuthOp) (_input : AuthInput) : Prop :=
  match op with
  | .commit =>
    ∀ entry ∈ database.tokens.written.entries, entry.2.1 = actor → entry.2.2.revokedAt = none →
      ∀ call ∈ database.trails.entries,
        ¬ Overtaken database.verified (database.trail actor) call.2 entry.2.2
  | .fixRows (.token tokenHash) =>
    ∀ row ∈ database.tokens.committed.get? tokenHash, ∀ user ∈ database.users.get? row.userId,
      user.disabled = false
  | _ => True

instance (database : AuthDatabase) (actor : Nat) (op : AuthOp) (input : AuthInput) :
  Decidable (Orderly database actor op input) := by
  unfold Orderly
  split
  · infer_instance
  · infer_instance
  infer_instance

structure Reaches (tokens : TokenTable) (verified : String → Nat) (actor : Nat) (trail : Trail) :
    Prop where
  fixed : ∀ selection hashes, trail.transaction = .fixed selection hashes →
    ∀ tokenHash row, Live tokens tokenHash row → Covers verified trail selection row →
      tokenHash ∈ hashes
  writing : ∀ selection moment, trail.transaction = .revoking selection moment →
    ∀ tokenHash row, Live tokens tokenHash row → Covers verified trail selection row →
      ∃ version, tokens.written.get? tokenHash = some (actor, version)
  revoked : ∀ selection moment, trail.revoked = some (selection, moment) →
    ∀ tokenHash row, Live tokens tokenHash row → ¬ Covers verified trail selection row

def Overlapping (tokens : TokenTable) (verified : String → Nat) (revoker rotator : Trail) : Prop :=
  ∀ selection moment, revoker.transaction = .revoking selection moment →
    ∀ claim claimed, rotator.transaction.claim = some claim → rotator.claimedAt = some claimed →
      ∀ row, Live tokens claim row → Covers verified revoker selection row → claimed < moment

structure Guarded (database : AuthDatabase) (moment : Nat) (trail : Nat → Trail) : Prop where
  reaches : ∀ actor, Reaches database.tokens database.verified actor (trail actor)
  overlapping : ∀ first second,
    Overlapping database.tokens database.verified (trail first) (trail second)
  past : ∀ actor, ∀ claimed ∈ (trail actor).claimedAt, claimed < moment

def Safe (tokens later : TokenTable) (verified verified' : String → Nat) (trail : Trail) : Prop :=
  ∀ tokenHash row, Live later tokenHash row →
    Live tokens tokenHash row ∧ verified' row.familyId = verified row.familyId ∨
      ∀ revocation ∈ trail.revocations, ¬ Covers verified' trail revocation.1 row

section

variable {tokens later : TokenTable} {verified verified' : String → Nat} {actor : Nat}
  {trail next : Trail}

theorem covers_congr {selection : TokenRows} {row : RefreshToken}
  (changed : next.changed = trail.changed) (same : verified' row.familyId = verified row.familyId) :
  Covers verified' next selection row ↔ Covers verified trail selection row := by
  cases selection with
  | token _ | family _ => exact Iff.rfl
  | user _ => simp only [Covers, changed, same]

theorem Safe.refl (tokens : TokenTable) (verified : String → Nat) (trail : Trail) :
  Safe tokens tokens verified verified trail :=
  fun _ _ live => .inl ⟨live, rfl⟩

section

variable (reaches : Reaches tokens verified actor trail)

include reaches

theorem Reaches.congr (standing : next.transaction = trail.transaction)
  (changed : next.changed = trail.changed) (revoked : next.revoked = trail.revoked) :
  Reaches tokens verified actor next := by
  have covers : ∀ selection row, Covers verified next selection row ↔
    Covers verified trail selection row := fun selection row => covers_congr changed rfl
  refine ⟨?_, ?_, ?_⟩
  · intro selection hashes fixed tokenHash row live covered
    exact reaches.fixed selection hashes (standing ▸ fixed) tokenHash row live
      ((covers _ _).mp covered)
  · intro selection moment written tokenHash row live covered
    exact reaches.writing selection moment (standing ▸ written) tokenHash row live
      ((covers _ _).mp covered)
  intro selection moment done tokenHash row live covered
  exact reaches.revoked selection moment (revoked ▸ done) tokenHash row live
    ((covers _ _).mp covered)

theorem Reaches.closed (safe : Safe tokens later verified verified' trail)
  (unfixed : ∀ selection hashes, next.transaction ≠ .fixed selection hashes)
  (unwritten : ∀ selection moment, next.transaction ≠ .revoking selection moment)
  (changed : next.changed = trail.changed) (revoked : next.revoked = trail.revoked) :
  Reaches later verified' actor next := by
  refine ⟨fun _ _ fixed => absurd fixed (unfixed _ _),
    fun _ _ written => absurd written (unwritten _ _), ?_⟩
  intro selection moment done tokenHash row live covered
  rw [revoked] at done
  rcases safe tokenHash row live with ⟨before, same⟩ | uncovered
  · exact reaches.revoked selection moment done tokenHash row before
      ((covers_congr changed same).mp covered)
  refine uncovered (selection, some moment) ?_ ((covers_congr changed rfl).mp covered)
  rw [revocations, done]
  exact mem_append_right _ (mem_singleton_self _)

theorem Reaches.keep (safe : Safe tokens later verified verified' trail)
  (written : ∀ tokenHash version, tokens.written.get? tokenHash = some (actor, version) →
    later.written.get? tokenHash = some (actor, version)) :
  Reaches later verified' actor trail := by
  refine ⟨?_, ?_, ?_⟩
  · intro selection hashes fixed tokenHash row live covered
    rcases safe tokenHash row live with ⟨before, same⟩ | uncovered
    · exact reaches.fixed selection hashes fixed tokenHash row before
        ((covers_congr rfl same).mp covered)
    refine absurd covered (uncovered (selection, none) ?_)
    rw [revocations, fixed]
    exact mem_append_left _ (mem_singleton_self _)
  · intro selection moment writes tokenHash row live covered
    rcases safe tokenHash row live with ⟨before, same⟩ | uncovered
    · obtain ⟨version, found⟩ := reaches.writing selection moment writes tokenHash row before
        ((covers_congr rfl same).mp covered)
      exact ⟨version, written tokenHash version found⟩
    refine absurd covered (uncovered (selection, some moment) ?_)
    rw [revocations, writes]
    exact mem_append_left _ (mem_singleton_self _)
  intro selection moment done tokenHash row live covered
  rcases safe tokenHash row live with ⟨before, same⟩ | uncovered
  · exact reaches.revoked selection moment done tokenHash row before
      ((covers_congr rfl same).mp covered)
  refine uncovered (selection, some moment) ?_ covered
  rw [revocations, done]
  exact mem_append_right _ (mem_singleton_self _)

end

variable {rotator : Trail}

theorem Overlapping.keep (overlapping : Overlapping tokens verified trail rotator)
  (safe : Safe tokens later verified verified' trail) :
  Overlapping later verified' trail rotator := by
  intro selection moment writes claim claimed claims at_moment row live covered
  rcases safe claim row live with ⟨before, same⟩ | uncovered
  · exact overlapping selection moment writes claim claimed claims at_moment row before
      ((covers_congr rfl same).mp covered)
  refine absurd covered (uncovered (selection, some moment) ?_)
  rw [revocations, writes]
  exact mem_append_left _ (mem_singleton_self _)

theorem Overlapping.congr {rotator' : Trail}
  (overlapping : Overlapping tokens verified trail rotator)
  (standing : next.transaction = trail.transaction) (changed : next.changed = trail.changed)
  (claim : rotator'.transaction.claim = rotator.transaction.claim)
  (claimedAt : rotator'.claimedAt = rotator.claimedAt) :
  Overlapping tokens verified next rotator' := by
  intro selection moment writes tokenHash claimed claims since row live covered
  exact overlapping selection moment (standing ▸ writes) tokenHash claimed (claim ▸ claims)
    (claimedAt ▸ since) row live ((covers_congr changed rfl).mp covered)

theorem overlapping_of_unwritten
  (unwritten : ∀ selection moment, trail.transaction ≠ .revoking selection moment) :
  Overlapping tokens verified trail rotator :=
  fun selection moment writes => absurd writes (unwritten selection moment)

theorem overlapping_of_unclaimed (unclaimed : rotator.transaction.claim = none) :
  Overlapping tokens verified trail rotator := by
  intro _ _ _ tokenHash _ claims
  rw [unclaimed] at claims
  cases claims

theorem overlapping_self : Overlapping tokens verified trail trail := by
  intro selection moment writes tokenHash claimed claims
  rw [writes] at claims
  cases claims

variable {database : AuthDatabase} {after : AuthDatabase} {trails : Nat → Trail} {moment : Nat}

section

variable (guarded : Guarded database moment trails)

include guarded

theorem Guarded.update (safe : ∀ other, other ≠ actor →
    Safe database.tokens after.tokens database.verified after.verified (trails other))
  (written : ∀ other, other ≠ actor → ∀ tokenHash version,
    database.tokens.written.get? tokenHash = some (other, version) →
    after.tokens.written.get? tokenHash = some (other, version))
  (own : Reaches after.tokens after.verified actor next) (revoker : ∀ other, other ≠ actor →
    Overlapping after.tokens after.verified next (trails other))
  (rotator : ∀ other, other ≠ actor → Overlapping after.tokens after.verified (trails other) next)
  (past : ∀ claimed ∈ next.claimedAt, claimed < moment + 1) :
  Guarded after (moment + 1) (update trails actor next) := by
  refine ⟨fun other => ?_, fun first second => ?_, fun other => ?_⟩
  · by_cases same : other = actor
    · subst other
      rw [update_self]
      exact own
    rw [update_of_ne same]
    exact (guarded.reaches other).keep (safe other same) (written other same)
  · by_cases one : first = actor
    · subst first
      rw [update_self]
      by_cases two : second = actor
      · subst second
        rw [update_self]
        exact overlapping_self
      rw [update_of_ne two]
      exact revoker second two
    rw [update_of_ne one]
    by_cases two : second = actor
    · subst second
      rw [update_self]
      exact rotator first one
    rw [update_of_ne two]
    exact (guarded.overlapping first second).keep (safe first one)
  by_cases same : other = actor
  · subst other
    rw [update_self]
    exact past
  rw [update_of_ne same]
  exact fun claimed since => Nat.lt_succ_of_lt (guarded.past other claimed since)

theorem Guarded.stand (tokens : after.tokens = database.tokens)
  (verified : after.verified = database.verified)
  (standing : next.transaction = (trails actor).transaction)
  (changed : next.changed = (trails actor).changed)
  (revoked : next.revoked = (trails actor).revoked) :
  Guarded after (moment + 1) (Function.update trails actor next) := by
  have claimedAt : next.claimedAt = (trails actor).claimedAt := by
    unfold Trail.claimedAt
    rw [standing]
  have claim : next.transaction.claim = (trails actor).transaction.claim := by rw [standing]
  refine guarded.update ?_ ?_ ?_ ?_ ?_ ?_
  · rw [tokens, verified]
    exact fun other _ => Safe.refl _ _ _
  · rw [tokens]
    exact fun _ _ _ _ => id
  · rw [tokens, verified]
    exact (guarded.reaches actor).congr standing changed revoked
  · rw [tokens, verified]
    exact fun other _ => (guarded.overlapping actor other).congr standing changed rfl rfl
  · rw [tokens, verified]
    exact fun other _ => (guarded.overlapping other actor).congr rfl rfl claim claimedAt
  rw [claimedAt]
  exact fun claimed since => Nat.lt_succ_of_lt (guarded.past actor claimed since)

theorem Guarded.close (safe : ∀ other,
    Safe database.tokens after.tokens database.verified after.verified (trails other))
  (written : ∀ other, other ≠ actor → ∀ tokenHash version,
    database.tokens.written.get? tokenHash = some (other, version) →
    after.tokens.written.get? tokenHash = some (other, version))
  (closed : next.transaction = .closed) (own : Reaches after.tokens after.verified actor next) :
  Guarded after (moment + 1) (Function.update trails actor next) := by
  refine guarded.update (fun other _ => safe other) written own ?_ ?_ ?_
  · exact fun other _ => overlapping_of_unwritten fun _ _ => by rw [closed]; exact nofun
  · exact fun other _ => overlapping_of_unclaimed (by rw [closed]; rfl)
  unfold Trail.claimedAt
  rw [closed]
  exact fun _ => nofun

end

end

section

variable {platform : AuthPlatform} {database : AuthDatabase} {actor : Nat} {moment : Nat}
  {trails : Nat → Trail} {selection : TokenRows} {hashes : List String} {trail : Trail}
  {input : AuthInput}

theorem Covers.selects {verified : String → Nat} {row : RefreshToken}
  (covered : Covers verified trail selection row) (live : row.revokedAt = none) :
  selection.selects row := by
  unfold TokenRows.selects
  rw [live, isNone_none, Bool.true_and]
  cases selection with
  | token _ => cases covered
  | family _ => exact decide_eq_true covered
  | user _ => exact decide_eq_true covered.1

theorem covers_kin {verified : String → Nat} {old row : RefreshToken}
  (covered : Covers verified trail selection row) (kin : Kin old row) :
  Covers verified trail selection old := by
  cases selection with
  | token _ => exact covered
  | family _ => exact kin.1.trans covered
  | user _ =>
    refine ⟨kin.2.trans covered.1, ?_⟩
    rw [kin.1]
    exact covered.2

theorem Guarded.fix (guarded : Guarded database moment trails)
  (unused : (trails actor).revoked = none) :
  Guarded database (moment + 1) (Function.update trails actor
    { trails actor with
      transaction := .fixed selection (database.tokens.select selection.selects) }) := by
  refine guarded.update (fun _ _ => Safe.refl _ _ _) (fun _ _ _ _ => id) ⟨?_, ?_, ?_⟩
    (fun _ _ => overlapping_of_unwritten fun _ _ => nofun)
    (fun _ _ => overlapping_of_unclaimed rfl) fun _ => nofun
  · rintro _ _ fixed tokenHash row live covered
    cases fixed
    exact mem_select.mpr ⟨row, live.1, covered.selects live.2⟩
  · exact fun _ _ => nofun
  intro _ _ done
  rw [unused] at done
  cases done

theorem Guarded.write (consistent : Consistent platform database trails)
  (guarded : Guarded database database.moment trails) (revokedAt : Int)
  (replacedBy : Option String) (standing : (trails actor).transaction = .fixed selection hashes)
  (unlocked : ∀ tokenHash ∈ hashes, ¬ database.tokens.Locked actor tokenHash) :
  Guarded
    { database with
      tokens := database.tokens.revise actor
        (revision selection revokedAt replacedBy) hashes }
    (database.moment + 1) (Function.update trails actor
      { trails actor with
        transaction := afterWrite database.moment selection (rowcount database.tokens
          (revision selection revokedAt replacedBy) hashes) }) := by
  have committed : (database.tokens.revise actor
    (revision selection revokedAt replacedBy) hashes).committed =
    database.tokens.committed :=
    revise_committed _ _
  have lives : ∀ {tokenHash row}, Live (database.tokens.revise actor
    (revision selection revokedAt replacedBy) hashes) tokenHash row →
      Live database.tokens tokenHash row :=
    fun live => live.of_committed (by rw [committed])
  have safe : ∀ trail, Safe database.tokens (database.tokens.revise actor
    (revision selection revokedAt replacedBy) hashes) database.verified
    database.verified trail := fun _ _ _ live => .inl ⟨lives live, rfl⟩
  have locked : ∀ other, other ≠ actor → ∀ tokenHash version,
    database.tokens.written.get? tokenHash = some (other, version) → tokenHash ∉ hashes :=
    fun other distinct tokenHash version held member =>
      unlocked tokenHash member ⟨(other, version), held, distinct⟩
  have kept : ∀ other, other ≠ actor → ∀ tokenHash version,
    database.tokens.written.get? tokenHash = some (other, version) →
      (database.tokens.revise actor (revision selection revokedAt replacedBy)
        hashes).written.get? tokenHash = some (other, version) :=
    fun _ distinct _ _ held => get?_revise_other unlocked distinct held
  have before := guarded.reaches actor
  -- A revocation writes every row it has fixed that is still live, while the rotations under
  -- way have all claimed their rows before.
  have whole : afterWrite database.moment selection (rowcount database.tokens
        (revision selection revokedAt replacedBy) hashes) =
      .revoking selection database.moment →
      Guarded
        { database with
          tokens := database.tokens.revise actor
            (revision selection revokedAt replacedBy) hashes }
        (database.moment + 1) (Function.update trails actor
          { trails actor with
            transaction := afterWrite database.moment selection (rowcount database.tokens
              (revision selection revokedAt replacedBy) hashes) }) := by
    intro revoking
    rw [revoking]
    refine guarded.update (fun other _ => safe _) kept ⟨by rintro _ _ ⟨⟩, ?_, ?_⟩ ?_
      (fun _ _ => overlapping_of_unclaimed rfl) fun _ never => by cases never
    · rintro _ _ writes tokenHash row live covered
      cases writes
      have member := before.fixed selection hashes standing tokenHash row (lives live) covered
      obtain ⟨version, revised⟩ := revision_of_selects revokedAt replacedBy (covered.selects live.2)
      exact ⟨version, get?_revise_changed member (lives live).1 revised⟩
    · exact fun ended wrote done tokenHash row live covered =>
        before.revoked ended wrote done tokenHash row (lives live) covered
    intro other _ _ _ writes claim claimed _ since row _ _
    cases writes
    exact guarded.past other claimed since
  cases selection with
  | token aim =>
    rw [afterWrite]
    split
    · exact guarded.close (fun other => safe _) kept rfl
        (before.closed (safe _) (by rintro _ _ ⟨⟩) (by rintro _ _ ⟨⟩) rfl rfl)
    rename_i some
    refine guarded.update (fun other _ => safe _) kept
      (before.closed (safe _) (by rintro _ _ ⟨⟩) (by rintro _ _ ⟨⟩) rfl rfl)
      (fun _ _ => overlapping_of_unwritten (by rintro _ _ ⟨⟩)) (fun other distinct => ?_)
      (fun claimed since => by cases since; exact Nat.lt_succ_self _)
    intro revoking wrote writes claim claimed claims since row live covered
    cases claims
    obtain ⟨version, held⟩ := (guarded.reaches other).writing revoking wrote writes aim row
      (lives live) covered
    exact absurd (consistent.rows.aim_mem some) (locked other distinct aim version held)
  | family familyId | user userId => exact whole rfl

theorem mem_revocations {wrote : Nat} : (selection, some wrote) ∈ trail.revocations ↔
  trail.transaction = .revoking selection wrote ∨ trail.revoked = some (selection, wrote) := by
  unfold revocations
  rw [mem_append]
  refine or_congr ?_ ?_
  · cases trail.transaction <;> simp [eq_comm]
  cases trail.revoked with
  | none => simp
  | some revoked => simp [Prod.ext_iff, eq_comm]

theorem commit_safe (consistent : Consistent platform database database.trail)
  (guarded : Guarded database moment database.trail)
  (orderly : Orderly database actor .commit input) (other : Nat) :
  Safe database.tokens (database.tokens.commit actor) database.verified database.verified
    (database.trail other) := by
  intro tokenHash row live
  rcases get?_commit_cases live.1 with written | ⟨_, stored⟩
  · refine .inr (fun revocation member covered => ?_)
    have listed := get?_eq_some.mp written
    cases called : database.trails.get? other with
    | none =>
      have default : database.trail other = {} := by rw [AuthDatabase.trail, called]; rfl
      rw [default] at member
      cases member
    | some trail =>
      have same : database.trail other = trail := by rw [AuthDatabase.trail, called]; rfl
      refine orderly _ listed rfl live.2 _ (get?_eq_some.mp called) ?_
      rw [same] at member covered
      refine ⟨revocation, member, covered, fun claimed since wrote done => ?_⟩
      obtain ⟨ended, written⟩ := revocation
      cases done
      rw [← same] at member covered
      rcases commit_live consistent.rows live with
        ⟨_, rfl, ⟨claim, moment, standing, _, _, old, held, kin⟩ | ⟨standing, _⟩⟩ | ⟨free, _⟩
      · have claims : claimed = moment := by
          rw [Trail.claimedAt, standing] at since
          exact (some.inj since).symm
        rcases mem_revocations.mp member with writes | done
        · refine guarded.overlapping other actor ended wrote writes claim claimed ?_ since old held
            (covers_kin covered kin)
          rw [standing]
          rfl
        exact absurd (covers_kin covered kin)
          ((guarded.reaches other).revoked ended wrote done claim old held)
      · rw [Trail.claimedAt, standing] at since
        cases since
      exact absurd written (free _)
  exact .inl ⟨⟨stored, live.2⟩, rfl⟩

theorem Guarded.insert (consistent : Consistent platform database trails)
  (guarded : Guarded database moment trails) {token : RefreshToken} {verified : String → Nat}
  (stores : Stores (trails actor) token)
  (free : database.tokens.written.get? token.tokenHash = none)
  (same : ∀ familyId, familyId ≠ token.familyId → verified familyId = database.verified familyId)
  (kept : (trails actor).transaction ≠ .closed → verified = database.verified) :
  Guarded
    { database with
      tokens := database.tokens.write actor token.tokenHash token, verified }
    (moment + 1) (Function.update trails actor
      { trails actor with
        transaction := (trails actor).afterInsert token, minted := none }) := by
  have safe : ∀ trail, Safe database.tokens (database.tokens.write actor token.tokenHash token)
    database.verified verified trail := by
    intro trail tokenHash row live
    refine .inl ⟨live, ?_⟩
    rcases stores with ⟨closed, id, mark, named⟩ | ⟨current, since, claimed, read, kin⟩
    · refine same _ (fun family => ?_)
      exact consistent.named.unused actor id tokenHash row mark (.inl live.1)
        (family.trans named)
    rw [kept (by rw [claimed]; rintro ⟨⟩)]
  have written : ∀ other, other ≠ actor → ∀ tokenHash version,
    database.tokens.written.get? tokenHash = some (other, version) →
      (database.tokens.write actor token.tokenHash token).written.get? tokenHash =
        some (other, version) := by
    intro other _ tokenHash version held
    refine (Dict.get?_set_other _ _ ?_).trans held
    rintro rfl
    rw [free] at held
    cases held
  have before := guarded.reaches actor
  rcases stores with ⟨closed, id, mark, named⟩ | ⟨current, since, claimed, read, kin⟩
  · have opening : (trails actor).afterInsert token = .opening token.tokenHash := by
      rw [afterInsert, closed]
    rw [opening]
    exact guarded.update (fun other _ => safe _) written
      (before.closed (safe _) (by rintro _ _ ⟨⟩) (by rintro _ _ ⟨⟩) rfl rfl)
      (fun _ _ => overlapping_of_unwritten (by rintro _ _ ⟨⟩))
      (fun _ _ => overlapping_of_unclaimed rfl) fun _ never => by cases never
  have rotating : (trails actor).afterInsert token =
    .rotating current.tokenHash token.tokenHash since := by
    rw [afterInsert, claimed]
  have claim : (trails actor).transaction.claim = some current.tokenHash := by
    rw [claimed]
    rfl
  have claimedAt : (trails actor).claimedAt = some since := by
    rw [Trail.claimedAt, claimed]
  rw [rotating]
  refine guarded.update (fun other _ => safe _) written
    (before.closed (safe _) (by rintro _ _ ⟨⟩) (by rintro _ _ ⟨⟩) rfl rfl)
    (fun _ _ => overlapping_of_unwritten (by rintro _ _ ⟨⟩)) (fun other _ => ?_) ?_
  · exact ((guarded.overlapping other actor).keep (safe _)).congr rfl rfl claim.symm claimedAt.symm
  intro moment here
  cases here
  exact Nat.lt_succ_of_lt (guarded.past actor since claimedAt)

theorem Guarded.commit (consistent : Consistent platform database database.trail)
  (guarded : Guarded database moment database.trail)
  (orderly : Orderly database actor .commit input) {next : Trail}
  (known : next = (database.trail actor).afterCommit ∨ next = (database.trail actor).abandoned) :
  Guarded { database with tokens := database.tokens.commit actor } (moment + 1)
    (Function.update database.trail actor next) := by
  have safe := commit_safe consistent guarded orderly
  have written : ∀ other, other ≠ actor → ∀ tokenHash version,
    database.tokens.written.get? tokenHash = some (other, version) →
      (database.tokens.commit actor).written.get? tokenHash = some (other, version) := by
    intro other distinct tokenHash version held
    rw [commit_written]
    exact get?_released.mpr ⟨held, distinct⟩
  have before := guarded.reaches actor
  have closed : next.transaction = .closed := by
    rcases known with rfl | rfl
    · obtain ⟨rotated, revoked, same⟩ := (database.trail actor).afterCommit_eq
      rw [same]
    rfl
  refine guarded.close safe written closed ?_
  have same : ∀ later : Trail, later.transaction = .closed →
    later.changed = (database.trail actor).changed →
    later.revoked = (database.trail actor).revoked →
      Reaches (database.tokens.commit actor) database.verified actor later :=
    fun later ended changed revoked => before.closed (safe actor)
      (fun _ _ => by rw [ended]; rintro ⟨⟩) (fun _ _ => by rw [ended]; rintro ⟨⟩)
      changed revoked
  rcases known with rfl | rfl
  · unfold afterCommit
    split
    · rename_i selection wrote writes
      refine ⟨by rintro _ _ ⟨⟩, by rintro _ _ ⟨⟩, ?_⟩
      rintro _ _ done tokenHash row live covered
      cases done
      rcases commit_live consistent.rows live with ⟨_, rfl, added⟩ | ⟨free, old⟩
      · rcases added with ⟨_, _, standing, _⟩ | ⟨standing, _⟩
        · cases writes.symm.trans standing
        cases writes.symm.trans standing
      obtain ⟨version, own⟩ := before.writing selection wrote writes tokenHash row old covered
      exact free version own
    · exact same _ rfl rfl rfl
    exact same _ rfl rfl rfl
  exact same _ rfl rfl rfl

theorem Guarded.effect (consistent : Consistent platform database database.trail)
  (guarded : Guarded database database.moment database.trail) {op : AuthOp}
  (orderly : Orderly database actor op input) {later : AuthDatabase} {next : Trail}
  (effect : Effect platform database actor (database.trail actor) op later next) :
  Guarded later (database.moment + 1) (Function.update database.trail actor next) := by
  cases effect with
  | read standing minted token account changed revoked rotated =>
    exact guarded.stand rfl rfl standing changed revoked
  | undo =>
    refine guarded.close (fun other _ _ live => .inl ⟨live, rfl⟩) ?_ rfl ?_
    · exact fun other distinct tokenHash version held => get?_released.mpr ⟨held, distinct⟩
    exact (guarded.reaches actor).closed (fun _ _ live => .inl ⟨live, rfl⟩)
      (by rintro _ _ ⟨⟩) (by rintro _ _ ⟨⟩) rfl rfl
  | draw draw moment => cases draw <;> exact guarded.stand rfl rfl rfl rfl rfl
  | save found flag closed unused standing revoked minted token account rotated =>
    refine guarded.close (fun other => Safe.refl _ _ _) (fun _ _ _ _ => id) standing
      ⟨fun _ _ => by rw [standing]; rintro ⟨⟩, fun _ _ => by rw [standing]; rintro ⟨⟩, ?_⟩
    intro selection wrote done
    rw [revoked] at done
    cases done
  | fix closed unused aims => exact guarded.fix unused
  | write standing unlocked => exact Guarded.write consistent guarded _ _ standing unlocked
  | insert live family stores stored free same kept =>
    exact Guarded.insert consistent guarded stores free same kept
  | commit known => exact Guarded.commit consistent guarded orderly known

end

end AgentHarness.Auth
