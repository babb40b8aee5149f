import AgentHarness.Auth.Rows

/-!
The authentication tables stay consistent under every operation that a call may ask for.
-/

namespace AgentHarness.Auth

open Collections Dict Function List LockedTable AuthDatabase Trail Option String

structure Named (platform : AuthPlatform) (tokens : TokenTable) (generated : Nat)
    (minted : Nat → Option String) : Prop where
  drawn : ∀ actor id, minted actor = some id →
    ∃ count < generated, id = platform.generated .uuid count
  unused : ∀ actor id tokenHash row, minted actor = some id → Present tokens tokenHash row →
    row.familyId ≠ "session_" ++ id
  unshared : ∀ first second id, minted first = some id → minted second = some id → first = second
  undrawn : ∀ count tokenHash row, generated ≤ count → Present tokens tokenHash row →
    row.familyId ≠ "session_" ++ platform.generated .uuid count

structure Seen (database : AuthDatabase) (trail : Nat → Trail) : Prop where
  users : ∀ userId user, database.users.get? userId = some user → user.userId = userId
  token : ∀ actor token, (trail actor).token = some token →
    ∃ row, database.tokens.committed.get? token.tokenHash = some row ∧ Kin row token
  account : ∀ actor user, (trail actor).account = some user →
    ∃ stored, database.users.get? user.userId = some stored ∧ stored.disabled = user.disabled

structure Consistent (platform : AuthPlatform) (database : AuthDatabase) (trail : Nat → Trail) :
    Prop where
  rows : Rows database.tokens (fun actor => (trail actor).transaction)
  named : Named platform database.tokens database.generated (fun actor => (trail actor).minted)
  seen : Seen database trail

section

variable {platform : AuthPlatform} {tokens later : TokenTable} {generated : Nat}
  {minted : Nat → Option String} {actor : Nat}

theorem minted_of_update {mark : Option String} {other : Nat} {id : String}
  (holds : update minted actor mark other = some id) :
  other = actor ∧ mark = some id ∨ other ≠ actor ∧ minted other = some id := by
  by_cases same : other = actor
  · subst other
    rw [update_self] at holds
    exact .inl ⟨rfl, holds⟩
  rw [update_of_ne same] at holds
  exact .inr ⟨same, holds⟩

theorem session_inj {first second : String} (same : "session_" ++ first = "session_" ++ second) :
  first = second := by
  have lists := congrArg String.toList same
  rw [toList_append, toList_append] at lists
  exact toList_injective (append_cancel_left lists)

section

variable (named : Named platform tokens generated minted)

include named

theorem Named.grow (families : ∀ tokenHash row, Present later tokenHash row →
    ∃ other before, Present tokens other before ∧ before.familyId = row.familyId) :
  Named platform later generated minted := by
  refine ⟨named.drawn, fun actor id tokenHash row mark present => ?_, named.unshared,
    fun count tokenHash row drawn present => ?_⟩
  · obtain ⟨other, before, seen, family⟩ := families tokenHash row present
    rw [← family]
    exact named.unused actor id other before mark seen
  obtain ⟨other, before, seen, family⟩ := families tokenHash row present
  rw [← family]
  exact named.undrawn count other before drawn seen

theorem Named.forget (actor : Nat) :
  Named platform tokens generated (update minted actor none) := by
  have before : ∀ {other id}, update minted actor none other = some id →
    minted other = some id := by
    intro other id mark
    rcases minted_of_update mark with ⟨_, impossible⟩ | ⟨_, kept⟩
    · cases impossible
    exact kept
  exact ⟨fun other id mark => named.drawn other id (before mark),
    fun other id tokenHash row mark => named.unused other id tokenHash row (before mark),
    fun first second id one two => named.unshared first second id (before one) (before two),
    named.undrawn⟩

theorem Named.skip : Named platform tokens (generated + 1) minted := by
  refine ⟨fun actor id mark => ?_, named.unused, named.unshared,
    fun count tokenHash row drawn => named.undrawn count tokenHash row (Nat.le_of_succ_le drawn)⟩
  obtain ⟨count, before, rfl⟩ := named.drawn actor id mark
  exact ⟨count, Nat.lt_succ_of_lt before, rfl⟩

theorem Named.draw (actor : Nat) : Named platform tokens (generated + 1)
  (update minted actor (some (platform.generated .uuid generated))) := by
  have fresh : ∀ other, minted other ≠ some (platform.generated .uuid generated) := by
    intro other mark
    obtain ⟨count, before, same⟩ := named.drawn other _ mark
    exact absurd (platform.distinct .uuid same) (Nat.ne_of_gt before)
  constructor
  · intro other id mark
    rcases minted_of_update mark with ⟨_, same⟩ | ⟨_, kept⟩
    · exact ⟨generated, Nat.lt_succ_self _, (some.inj same).symm⟩
    obtain ⟨count, before, rfl⟩ := named.drawn other id kept
    exact ⟨count, Nat.lt_succ_of_lt before, rfl⟩
  · intro other id tokenHash row mark present
    rcases minted_of_update mark with ⟨_, same⟩ | ⟨_, kept⟩
    · cases same
      exact named.undrawn generated tokenHash row (Nat.le_refl _) present
    exact named.unused other id tokenHash row kept present
  · intro first second id one two
    rcases minted_of_update one with ⟨here, same⟩ | ⟨_, kept⟩
    · rcases minted_of_update two with ⟨there, _⟩ | ⟨_, other⟩
      · exact here.trans there.symm
      cases same
      exact absurd other (fresh second)
    rcases minted_of_update two with ⟨_, same⟩ | ⟨_, other⟩
    · cases same
      exact absurd kept (fresh first)
    exact named.unshared first second id kept other
  exact fun count tokenHash row drawn => named.undrawn count tokenHash row (Nat.le_of_succ_le drawn)

end

theorem Named.insert (named : Named platform tokens generated minted) {token : RefreshToken}
  {id : String} (mark : minted actor = some id) (family : token.familyId = "session_" ++ id) :
  Named platform (tokens.write actor token.tokenHash token) generated
    (update minted actor none) := by
  have forgotten := named.forget actor
  obtain ⟨count, before, drawn⟩ := named.drawn actor id mark
  have present : ∀ {tokenHash row}, Present (tokens.write actor token.tokenHash token) tokenHash
    row → row = token ∨ Present tokens tokenHash row := by
    intro tokenHash row seen
    rcases present_insert seen with ⟨_, same⟩ | old
    · exact .inl same
    exact .inr old
  refine ⟨forgotten.drawn, fun other otherId tokenHash row otherMark seen => ?_,
    forgotten.unshared, fun later tokenHash row undrawn seen => ?_⟩
  · rcases present seen with rfl | old
    · rw [family]
      intro same
      cases session_inj same
      rcases minted_of_update otherMark with ⟨_, impossible⟩ | ⟨distinct, kept⟩
      · cases impossible
      exact distinct (named.unshared other actor id kept mark)
    exact forgotten.unused other otherId tokenHash row otherMark old
  rcases present seen with rfl | old
  · rw [family, drawn]
    intro same
    have count_eq := platform.distinct .uuid (session_inj same)
    omega
  exact named.undrawn later tokenHash row undrawn old

end

section

variable {platform : AuthPlatform} {database : AuthDatabase} {trail : Nat → Trail} {actor : Nat}
  {Part : Type}

theorem part_update (part : Trail → Part) (next : Trail) :
  (fun other => part (update trail actor next other)) =
    update (fun other => part (trail other)) actor (part next) := by
  funext other
  by_cases same : other = actor
  · subst other
    simp only [update_self]
  simp only [update_of_ne same]

variable {next : Trail}

theorem part_kept (part : Trail → Part) (same : part next = part (trail actor)) :
  (fun other => part (update trail actor next other)) = fun other => part (trail other) := by
  rw [part_update, same]
  exact update_eq_self actor fun other => part (trail other)

theorem Seen.step (seen : Seen database trail) {later : AuthDatabase}
  (users : ∀ userId user, later.users.get? userId = some user → user.userId = userId)
  (tokens : ∀ tokenHash row, database.tokens.committed.get? tokenHash = some row →
    ∃ grown, later.tokens.committed.get? tokenHash = some grown ∧ Kin grown row)
  (accounts : ∀ userId user, database.users.get? userId = some user →
    ∃ stored, later.users.get? userId = some stored ∧ stored.disabled = user.disabled)
  (token : next.token = (trail actor).token ∨ ∀ found, next.token = some found →
    later.tokens.committed.get? found.tokenHash = some found)
  (account : next.account = (trail actor).account ∨ ∀ user, next.account = some user →
    later.users.get? user.userId = some user) : Seen later (update trail actor next) := by
  have tokenKept : ∀ actor found, (trail actor).token = some found →
    ∃ row, later.tokens.committed.get? found.tokenHash = some row ∧ Kin row found := by
    intro actor found read
    obtain ⟨row, stored, family, user⟩ := seen.token actor found read
    obtain ⟨grown, present, alike⟩ := tokens _ row stored
    exact ⟨grown, present, alike.1.trans family, alike.2.trans user⟩
  have accountKept : ∀ actor user, (trail actor).account = some user →
    ∃ stored, later.users.get? user.userId = some stored ∧ stored.disabled = user.disabled := by
    intro actor user read
    obtain ⟨stored, found, flag⟩ := seen.account actor user read
    obtain ⟨next, present, same⟩ := accounts _ stored found
    exact ⟨next, present, same.trans flag⟩
  refine ⟨users, fun other found read => ?_, fun other user read => ?_⟩
  · by_cases same : other = actor
    · subst other
      rw [update_self] at read
      rcases token with kept | fresh
      · exact tokenKept actor found (kept ▸ read)
      exact ⟨found, fresh found read, rfl, rfl⟩
    rw [update_of_ne same] at read
    exact tokenKept other found read
  by_cases same : other = actor
  · subst other
    rw [update_self] at read
    rcases account with kept | fresh
    · exact accountKept actor user (kept ▸ read)
    exact ⟨user, fresh user read, rfl⟩
  rw [update_of_ne same] at read
  exact accountKept other user read

section

variable (consistent : Consistent platform database trail)

include consistent

theorem Consistent.read {next : Trail} (standing : next.transaction = (trail actor).transaction)
  (minted : next.minted = (trail actor).minted)
  (token : next.token = (trail actor).token ∨ ∀ found, next.token = some found →
    database.tokens.committed.get? found.tokenHash = some found)
  (account : next.account = (trail actor).account ∨ ∀ user, next.account = some user →
    database.users.get? user.userId = some user) :
  Consistent platform database (update trail actor next) where
  rows := by
    rw [part_kept Trail.transaction standing]
    exact consistent.rows
  named := by
    rw [part_kept Trail.minted minted]
    exact consistent.named
  seen := consistent.seen.step consistent.seen.users (fun _ row stored => ⟨row, stored, rfl, rfl⟩)
    (fun _ user stored => ⟨user, stored, rfl⟩) token account

theorem Consistent.rollback (actor : Nat) :
  Consistent platform { database with tokens := database.tokens.rollback actor }
    (update trail actor (trail actor).abandoned) where
  rows := by
    rw [part_update Trail.transaction]
    exact consistent.rows.rollback actor
  named := by
    have kept : (trail actor).abandoned.minted = (trail actor).minted := rfl
    rw [part_kept Trail.minted kept]
    refine consistent.named.grow fun tokenHash row present => ⟨tokenHash, row, ?_, rfl⟩
    rcases present with stored | ⟨writer, written⟩
    · exact .inl stored
    exact .inr ⟨writer, (get?_released.mp written).1⟩
  seen := consistent.seen.step consistent.seen.users (fun _ row stored => ⟨row, stored, rfl, rfl⟩)
    (fun _ user stored => ⟨user, stored, rfl⟩) (.inl rfl) (.inl rfl)

theorem Consistent.commit {next : Trail} (closed : next.transaction = .closed)
  (minted : next.minted = (trail actor).minted) (token : next.token = (trail actor).token)
  (account : next.account = (trail actor).account) :
  Consistent platform { database with tokens := database.tokens.commit actor }
    (update trail actor next) where
  rows := by
    rw [part_update Trail.transaction, closed]
    exact consistent.rows.commit actor
  named := by
    rw [part_kept Trail.minted minted]
    refine consistent.named.grow fun tokenHash row present => ⟨tokenHash, row, ?_, rfl⟩
    rcases present with stored | ⟨writer, written⟩
    · rcases get?_commit_cases stored with written | ⟨_, before⟩
      · exact .inr ⟨actor, written⟩
      exact .inl before
    exact .inr ⟨writer, (get?_released.mp written).1⟩
  seen := by
    refine consistent.seen.step consistent.seen.users (fun tokenHash row stored => ?_)
      (fun _ user stored => ⟨user, stored, rfl⟩) (.inl token) (.inl account)
    by_cases own : ∃ version, database.tokens.written.get? tokenHash = some (actor, version)
    · obtain ⟨version, written⟩ := own
      exact ⟨version, get?_commit_own written, consistent.rows.kin_of_written written stored⟩
    refine ⟨row, ?_, rfl, rfl⟩
    rw [get?_commit_other fun version written => own ⟨version, written⟩]
    exact stored

theorem Consistent.save {updated stored : AuthUser} {next : Trail}
  (found : database.users.get? updated.userId = some stored)
  (flag : updated.disabled = stored.disabled)
  (standing : next.transaction = (trail actor).transaction)
  (minted : next.minted = (trail actor).minted) (token : next.token = (trail actor).token)
  (account : next.account = (trail actor).account) :
  Consistent platform
    { database with
      users := database.users.set updated.userId
        { updated with email := stored.email, createdAt := stored.createdAt } }
    (update trail actor next) where
  rows := by
    rw [part_kept Trail.transaction standing]
    exact consistent.rows
  named := by
    rw [part_kept Trail.minted minted]
    exact consistent.named
  seen := by
    refine consistent.seen.step (fun userId user present => ?_)
      (fun _ row stored => ⟨row, stored, rfl, rfl⟩) (fun userId user present => ?_)
      (.inl token) (.inl account)
    · rw [get?_set] at present
      split at present
      · rename_i here
        cases present
        exact here.symm
      exact consistent.seen.users userId user present
    by_cases here : userId = updated.userId
    · subst here
      cases found.symm.trans present
      exact ⟨_, get?_set_self _ _ _, flag⟩
    exact ⟨user, (get?_set_other _ _ here).trans present, rfl⟩

theorem Consistent.draw (draw : Draw) (moment : Nat) :
  Consistent platform { database with generated := database.generated + 1 }
    (update trail actor ((trail actor).after moment (.generate draw)
    (.ok (platform.generated draw database.generated)))) := by
  have seen : ∀ next : Trail, next.token = (trail actor).token →
      next.account = (trail actor).account →
        Seen { database with generated := database.generated + 1 }
          (update trail actor next) := fun next token account =>
    consistent.seen.step consistent.seen.users (fun _ row stored => ⟨row, stored, rfl, rfl⟩)
      (fun _ user stored => ⟨user, stored, rfl⟩) (.inl token) (.inl account)
  have quiet : Consistent platform { database with generated := database.generated + 1 }
      (update trail actor (trail actor)) :=
    ⟨by rw [update_eq_self]; exact consistent.rows,
      by rw [update_eq_self]; exact consistent.named.skip, seen _ rfl rfl⟩
  cases draw with
  | urlsafe | salt => exact quiet
  | uuid =>
    constructor
    · rw [part_kept Trail.transaction (by rfl)]
      exact consistent.rows
    · rw [part_update Trail.minted]
      exact consistent.named.draw actor
    exact seen _ rfl rfl

theorem Consistent.stage {standing : Transaction} (unclaimed : standing.claim = none)
  (closed : (trail actor).transaction = .closed) :
  Consistent platform database
    (update trail actor { trail actor with transaction := standing }) where
  rows := by
    rw [part_update Trail.transaction]
    refine consistent.rows.stage unclaimed fun tokenHash row entry => ?_
    rw [closed] at entry
    exact entry
  named := by
    rw [part_kept Trail.minted (by rfl)]
    exact consistent.named
  seen := consistent.seen.step consistent.seen.users (fun _ row stored => ⟨row, stored, rfl, rfl⟩)
    (fun _ user stored => ⟨user, stored, rfl⟩) (.inl rfl) (.inl rfl)

end

theorem Consistent.write (consistent : Consistent platform database trail) {selection : TokenRows}
  {hashes : List String} (revokedAt : Int) (replacedBy : Option String) (moment : Nat)
  (standing : (trail actor).transaction = .fixed selection hashes)
  (unlocked : ∀ tokenHash ∈ hashes, ¬ database.tokens.Locked actor tokenHash) :
  Consistent platform
    { database with
      tokens := database.tokens.revise actor
        (revision selection revokedAt replacedBy) hashes }
    (update trail actor
      { trail actor with
        transaction := afterWrite moment selection (rowcount database.tokens
          (revision selection revokedAt replacedBy) hashes) }) where
  rows := by
    rw [part_update Trail.transaction]
    exact consistent.rows.write moment standing unlocked
  named := by
    rw [part_kept Trail.minted (by rfl)]
    refine consistent.named.grow fun tokenHash row present => ?_
    rcases present with stored | ⟨writer, written⟩
    · rw [revise_committed] at stored
      exact ⟨tokenHash, row, .inl stored, rfl⟩
    rcases get?_revise_cases written with before | ⟨_, _, old, stored, revised⟩
    · exact ⟨tokenHash, row, .inr ⟨writer, before⟩, rfl⟩
    exact ⟨tokenHash, old, .inl stored, (revision_eq_some revised).2.2.2.1⟩
  seen := by
    refine consistent.seen.step consistent.seen.users (fun tokenHash row stored => ?_)
      (fun _ user stored => ⟨user, stored, rfl⟩) (.inl rfl) (.inl rfl)
    rw [revise_committed]
    exact ⟨row, stored, rfl, rfl⟩

theorem Consistent.insert (consistent : Consistent platform database trail)
  {token : RefreshToken} (verified : String → Nat) (live : token.revokedAt = none)
  (family : token.familyId ≠ "") (stores : Stores (trail actor) token)
  (stored : database.tokens.committed.get? token.tokenHash = none)
  (free : database.tokens.written.get? token.tokenHash = none) :
  Consistent platform
    { database with
      tokens := database.tokens.write actor token.tokenHash token, verified }
    (update trail actor
      { trail actor with transaction := (trail actor).afterInsert token, minted := none }) where
  rows := by
    rw [part_update Trail.transaction]
    rcases stores with ⟨closed, id, mark, named⟩ | ⟨current, moment, claimed, read, kin⟩
    · rw [afterInsert, closed]
      refine consistent.rows.insert_opening closed live family stored free
        (fun other found present => ?_)
      rw [named]
      exact consistent.named.unused actor id other found mark present
    rw [afterInsert, claimed]
    refine consistent.rows.insert_replacement claimed live family stored free
      (fun old present => ?_)
    obtain ⟨row, here, same⟩ := consistent.seen.token actor current read
    cases present.symm.trans here
    exact ⟨same.1.trans kin.1.symm, same.2.trans kin.2.symm⟩
  named := by
    rw [part_update Trail.minted]
    rcases stores with ⟨closed, id, mark, named⟩ | ⟨current, moment, claimed, read, kin⟩
    · exact consistent.named.insert mark named
    refine (consistent.named.grow fun tokenHash row present => ?_).forget actor
    rcases present_insert present with ⟨_, rfl⟩ | before
    · obtain ⟨old, here, same⟩ := consistent.seen.token actor current read
      exact ⟨_, old, .inl here, same.1.trans kin.1.symm⟩
    exact ⟨tokenHash, row, before, rfl⟩
  seen := consistent.seen.step consistent.seen.users (fun _ row stored => ⟨row, stored, rfl, rfl⟩)
    (fun _ user stored => ⟨user, stored, rfl⟩) (.inl rfl) (.inl rfl)

end

theorem Trail.afterCommit_eq (trail : Trail) : ∃ rotated revoked, trail.afterCommit =
  { trail with transaction := .closed, rotated, revoked } := by
  unfold afterCommit
  split
  · exact ⟨_, _, rfl⟩
  · exact ⟨_, _, rfl⟩
  exact ⟨_, _, rfl⟩

inductive Effect (platform : AuthPlatform) (database : AuthDatabase) (actor : Nat) (own : Trail) :
    AuthOp → AuthDatabase → Trail → Prop where
  | read {op : AuthOp} {next : Trail} (standing : next.transaction = own.transaction)
      (minted : next.minted = own.minted)
      (token : next.token = own.token ∨ ∀ found, next.token = some found →
        database.tokens.committed.get? found.tokenHash = some found)
      (account : next.account = own.account ∨ own.transaction = .closed ∧ own.rotated = false ∧
        ∀ user, next.account = some user → database.users.get? user.userId = some user)
      (changed : next.changed = own.changed) (revoked : next.revoked = own.revoked)
      (rotated : next.rotated = own.rotated) : Effect platform database actor own op database next
  | undo {op : AuthOp} :
      Effect platform database actor own op (database.rollback actor) own.abandoned
  | draw (draw : Draw) (moment : Nat) :
      Effect platform database actor own (.generate draw)
        { database with generated := database.generated + 1 }
        (own.after moment (.generate draw) (.ok (platform.generated draw database.generated)))
  | save {updated stored : AuthUser} {next : Trail}
      (found : database.users.get? updated.userId = some stored)
      (flag : updated.disabled = stored.disabled) (closed : own.transaction = .closed)
      (unused : own.revoked = none) (standing : next.transaction = .closed)
      (revoked : next.revoked = none) (minted : next.minted = own.minted)
      (token : next.token = own.token) (account : next.account = own.account)
      (rotated : next.rotated = own.rotated) :
      Effect platform database actor own (.saveUser updated)
        { database with
          users := database.users.set updated.userId
            { updated with email := stored.email, createdAt := stored.createdAt } } next
  | fix {selection : TokenRows} (closed : own.transaction = .closed) (unused : own.revoked = none)
      (aims : Aims own selection) :
      Effect platform database actor own (.fixRows selection) database
        { own with
          transaction := .fixed selection (database.tokens.select selection.selects) }
  | write {selection : TokenRows} {hashes : List String} {revokedAt : Int}
      {replacedBy : Option String} (standing : own.transaction = .fixed selection hashes)
      (unlocked : ∀ tokenHash ∈ hashes, ¬ database.tokens.Locked actor tokenHash) :
      Effect platform database actor own (.writeRows selection hashes revokedAt replacedBy)
        { database with
          tokens := database.tokens.revise actor
            (revision selection revokedAt replacedBy) hashes }
        { own with
          transaction := afterWrite database.moment selection (rowcount database.tokens
            (revision selection revokedAt replacedBy) hashes) }
  | insert {token : RefreshToken} {verified : String → Nat} (live : token.revokedAt = none)
      (family : token.familyId ≠ "") (stores : Stores own token)
      (stored : database.tokens.committed.get? token.tokenHash = none)
      (free : database.tokens.written.get? token.tokenHash = none)
      (same : ∀ familyId, familyId ≠ token.familyId →
        verified familyId = database.verified familyId)
      (kept : own.transaction ≠ .closed → verified = database.verified) :
      Effect platform database actor own (.insertRow token)
        { database with
          tokens := database.tokens.write actor token.tokenHash token, verified }
        { own with transaction := own.afterInsert token, minted := none }
  | commit {next : Trail} (known : next = own.afterCommit ∨ next = own.abandoned) :
      Effect platform database actor own .commit
        { database with tokens := database.tokens.commit actor } next

namespace AuthDatabase

theorem trail_moved (database : AuthDatabase) (actor : Nat) (next : Trail) :
  (database.moved actor next).trail = update database.trail actor next := by
  funext other
  simp only [trail, moved, get?_set, update_apply]
  split
  · rfl
  rfl

variable {platform : AuthPlatform} {database : AuthDatabase} {actor : Nat} {op : AuthOp}
  {input : AuthInput}

theorem answer_error {error : AuthError} {later : AuthDatabase}
  (answered : database.answer platform actor input op = (.error error, later))
  (message : String) : error ≠ .authentication message := by
  rintro rfl
  cases op
  all_goals simp only [answer] at answered
  all_goals first
    | cases answered
    | (split at answered <;> cases answered)

theorem respond_cases (platform : AuthPlatform) (actor : Nat) (input : AuthInput)
  (database : AuthDatabase) (op : AuthOp) :
  (∃ error, (∀ message, error ≠ .authentication message) ∧
    respond platform actor input database op =
    (.error error, (database.rollback actor).moved actor (database.trail actor).abandoned)) ∨
    (∃ answer later, database.answer platform actor input op = (.ok answer, later) ∧
    respond platform actor input database op = (.ok answer, later.moved actor
    ((database.trail actor).after database.moment op (.ok answer)))) ∨
    ∃ answer later message, op.commits = true ∧
    database.answer platform actor input op = (.ok answer, later) ∧
    respond platform actor input database op = (.error (.database message),
    later.moved actor (database.trail actor).abandoned) := by
  unfold respond
  generalize (if op.isLocal = true then AuthFault.none else input.fault) = fault
  rcases answered : database.answer platform actor input op with ⟨reply, later⟩
  cases reply with
  | error error =>
    refine .inl ⟨error, answer_error answered, ?_⟩
    simp [settle, after_error]
  | ok answer =>
    cases fault with
    | none => exact .inr (.inl ⟨answer, later, rfl, rfl⟩)
    | before message =>
      refine .inl ⟨.database message, fun _ => nofun, ?_⟩
      simp [settle, after_error]
    | after message =>
      by_cases durable : op.commits = true
      · refine .inr (.inr ⟨answer, later, message, durable, rfl, ?_⟩)
        simp [settle, durable, after_error]
      refine .inl ⟨.database message, fun _ => nofun, ?_⟩
      simp [settle, durable, after_error]

theorem answer_effect (consistent : Consistent platform database database.trail)
  (allowed : Permits (database.trail actor) op) {answer : op.Answer} {later : AuthDatabase}
  (answered : database.answer platform actor input op = (.ok answer, later)) :
  Foreseen op (.ok answer) ∧ Effect platform database actor (database.trail actor) op later
    ((database.trail actor).after database.moment op (.ok answer)) ∧
    (op.commits = true → Effect platform database actor (database.trail actor) op later
    (database.trail actor).abandoned) := by
  cases op with
  | clock =>
    cases answered
    exact ⟨trivial, .read rfl rfl (.inl rfl) (.inl rfl) rfl rfl rfl, fun never => by cases never⟩
  | generate draw =>
    cases answered
    exact ⟨trivial, .draw draw _, fun never => by cases never⟩
  | getUserByEmail email =>
    cases answered
    refine ⟨trivial, .read rfl rfl (.inl rfl) (.inr ⟨allowed.1, allowed.2, fun user found => ?_⟩)
      rfl rfl rfl, fun never => by cases never⟩
    obtain ⟨userId, stored⟩ := mem_values.mp (mem_of_find?_eq_some found)
    rw [consistent.seen.users userId user stored]
    exact stored
  | getUser userId =>
    simp only [AuthDatabase.answer] at answered
    split at answered
    · cases answered
    rename_i user stored
    cases answered
    have named := consistent.seen.users userId _ stored
    refine ⟨named, .read rfl rfl (.inl rfl)
      (.inr ⟨allowed.1, allowed.2, fun found same => ?_⟩) rfl rfl rfl, fun never => by cases never⟩
    cases same
    rw [named]
    exact stored
  | saveUser updated =>
    obtain ⟨closed, unused, user, read, same, flag⟩ := allowed
    simp only [AuthDatabase.answer] at answered
    split at answered
    · cases answered
    rename_i stored found
    cases answered
    obtain ⟨row, present, disabled⟩ := consistent.seen.account actor user read
    rw [← same, found] at present
    cases present
    have unchanged : updated.disabled = stored.disabled := flag.trans disabled.symm
    exact ⟨trivial, .save found unchanged closed unused closed unused rfl rfl rfl rfl,
      fun _ => .save found unchanged closed unused rfl unused rfl rfl rfl rfl⟩
  | getMembership tenantId userId =>
    simp only [AuthDatabase.answer] at answered
    split at answered
    · cases answered
    cases answered
    exact ⟨trivial, .read rfl rfl (.inl rfl) (.inl rfl) rfl rfl rfl, fun never => by cases never⟩
  | getRefreshToken tokenHash =>
    cases answered
    have keyed : ∀ token, database.tokens.committed.get? tokenHash = some token →
      token.tokenHash = tokenHash ∧ token.familyId ≠ "" :=
      fun token stored => consistent.rows.keyed tokenHash token (.inl stored)
    refine ⟨keyed, .read rfl rfl (.inr fun found read => ?_) (.inl rfl) rfl rfl rfl,
      fun never => by cases never⟩
    rw [(keyed found read).1]
    exact read
  | fixRows selection =>
    cases answered
    exact ⟨trivial, .fix allowed.1 allowed.2.1 allowed.2.2, fun never => by cases never⟩
  | writeRows selection hashes revokedAt replacedBy =>
    simp only [AuthDatabase.answer] at answered
    split at answered
    · cases answered
    rename_i unlocked
    cases answered
    exact ⟨trivial, .write allowed (fun tokenHash member locked =>
      unlocked ⟨tokenHash, member, locked⟩), fun never => by cases never⟩
  | insertRow token =>
    simp only [AuthDatabase.answer] at answered
    split at answered
    · cases answered
    rename_i absent
    cases answered
    obtain ⟨stored, free⟩ := not_or.mp absent
    refine ⟨trivial, .insert allowed.1 allowed.2.1 allowed.2.2
      (not_isSome_iff_eq_none.mp stored) (not_isSome_iff_eq_none.mp free)
      (fun familyId other => ?_) fun opened => if_neg opened, fun never => by cases never⟩
    split
    · exact update_of_ne other _ _
    rfl
  | commit =>
    cases answered
    exact ⟨trivial, .commit (.inl rfl), fun _ => .commit (.inr rfl)⟩
  | rollback =>
    cases answered
    exact ⟨trivial, .undo, fun never => by cases never⟩

theorem respond_effect (consistent : Consistent platform database database.trail)
  (allowed : Permits (database.trail actor) op) (input : AuthInput) :
  let reply := respond platform actor input database op
  ∃ later next, reply.2 = later.moved actor next ∧
    next = (database.trail actor).after database.moment op reply.1 ∧
    Effect platform database actor (database.trail actor) op later next ∧
    Foreseen op reply.1 := by
  rcases respond_cases platform actor input database op with
    ⟨error, outage, same⟩ | ⟨answer, later, answered, same⟩ |
      ⟨answer, later, message, durable, answered, same⟩
  · rw [same]
    exact ⟨_, _, rfl, (after_error _ _ _ _).symm, .undo, foreseen_error.mpr outage⟩
  · obtain ⟨foreseen, effect, _⟩ := answer_effect consistent allowed answered
    rw [same]
    exact ⟨_, _, rfl, rfl, effect, foreseen⟩
  obtain ⟨_, _, lost⟩ := answer_effect consistent allowed answered
  rw [same]
  exact ⟨_, _, rfl, (after_error _ _ _ _).symm, lost durable, foreseen_error.mpr fun _ => nofun⟩

end AuthDatabase

theorem Consistent.effect {platform : AuthPlatform} {database later : AuthDatabase}
  {trail : Nat → Trail} {actor : Nat} {op : AuthOp} {next : Trail}
  (consistent : Consistent platform database trail)
  (effect : Effect platform database actor (trail actor) op later next) :
  Consistent platform later (update trail actor next) := by
  cases effect with
  | read standing minted token account changed revoked rotated =>
    exact consistent.read standing minted token
      (account.imp_right fun fresh => fresh.2.2)
  | undo => exact consistent.rollback actor
  | draw draw moment => exact consistent.draw draw moment
  | save found flag closed unused standing revoked minted token account rotated =>
    exact consistent.save found flag (standing.trans closed.symm) minted token account
  | fix closed unused aims => exact consistent.stage rfl closed
  | write standing unlocked => exact consistent.write _ _ _ standing unlocked
  | insert live family stores stored free same kept =>
    exact consistent.insert _ live family stores stored free
  | commit known =>
    rcases known with rfl | rfl
    · obtain ⟨rotated, revoked, same⟩ := (trail actor).afterCommit_eq
      rw [same]
      exact consistent.commit rfl rfl rfl rfl
    exact consistent.commit rfl rfl rfl rfl

end AgentHarness.Auth
