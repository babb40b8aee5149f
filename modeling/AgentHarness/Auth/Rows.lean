import AgentHarness.Auth.Calls

/-!
The rows of refresh tokens, committed and not.

Whoever has written a row of a family holds the lock of the family's live row, so no two
transactions are at work on one family, and a commit leaves at most one live row in it.
-/

namespace AgentHarness.Auth

open Collections Function List LockedTable TokenRows AuthDatabase Option Bool

abbrev TokenTable := LockedTable Nat String RefreshToken

variable (tokens : TokenTable)

def Present (tokenHash : String) (row : RefreshToken) : Prop :=
  tokens.committed.get? tokenHash = some row ∨
    ∃ writer, tokens.written.get? tokenHash = some (writer, row)

def Live (tokenHash : String) (row : RefreshToken) : Prop :=
  tokens.committed.get? tokenHash = some row ∧ row.revokedAt = none

def Kin (first second : RefreshToken) : Prop :=
  first.familyId = second.familyId ∧ first.userId = second.userId

def Revised (tokenHash : String) (row : RefreshToken) : Prop :=
  row.revokedAt ≠ none ∧ ∃ old, Live tokens tokenHash old ∧ Kin old row

def Replaces (claimed tokenHash : String) (row : RefreshToken) : Prop :=
  row.revokedAt = none ∧ tokens.committed.get? tokenHash = none ∧
    ∃ old, Live tokens claimed old ∧ Kin old row

def Opens (tokenHash : String) (row : RefreshToken) : Prop :=
  row.revokedAt = none ∧ tokens.committed.get? tokenHash = none ∧
    ∀ other found, Present tokens other found → found.familyId = row.familyId → other = tokenHash

def Entry (transaction : Transaction) (tokenHash : String) (row : RefreshToken) : Prop :=
  match transaction with
  | .closed | .fixed _ _ => False
  | .claimed claimed _ => tokenHash = claimed ∧ Revised tokens tokenHash row
  | .rotating claimed replacement _ =>
    tokenHash = claimed ∧ Revised tokens tokenHash row ∨
      tokenHash = replacement ∧ Replaces tokens claimed tokenHash row
  | .opening opened => tokenHash = opened ∧ Opens tokens tokenHash row
  | .revoking _ _ => Revised tokens tokenHash row

def Transaction.claim : Transaction → Option String
  | .claimed tokenHash _ | .rotating tokenHash _ _ => some tokenHash
  | _ => none

structure Rows (tokens : TokenTable) (transaction : Nat → Transaction) : Prop where
  keyed : ∀ tokenHash row, Present tokens tokenHash row →
    row.tokenHash = tokenHash ∧ row.familyId ≠ ""
  unique : ∀ first second row other, Live tokens first row → Live tokens second other →
    row.familyId = other.familyId → first = second
  entries : ∀ tokenHash writer row, tokens.written.get? tokenHash = some (writer, row) →
    Entry tokens (transaction writer) tokenHash row
  held : ∀ actor tokenHash, (transaction actor).claim = some tokenHash →
    ∃ row, tokens.written.get? tokenHash = some (actor, row)

section

variable {tokens later : TokenTable} {transaction : Nat → Transaction} {actor : Nat}
  {old row token : RefreshToken} {tokenHash : String} {standing : Transaction}
  {selection : TokenRows}

theorem Rows.locks (rows : Rows tokens transaction) {claimed : String} {writer : Nat}
  (written : tokens.written.get? tokenHash = some (writer, row)) (live : Live tokens claimed old)
  (same : old.familyId = row.familyId) :
  ∃ next, tokens.written.get? claimed = some (writer, next) := by
  have revised : Revised tokens tokenHash row →
    ∃ next, tokens.written.get? claimed = some (writer, next) := by
    rintro ⟨_, before, first, family, _⟩
    have here := rows.unique _ _ _ _ first live (family.trans same.symm)
    exact ⟨row, here ▸ written⟩
  have entry := rows.entries _ _ _ written
  unfold Entry at entry
  split at entry
  · cases entry
  · cases entry
  · exact revised entry.2
  · rename_i aim replacement moment standing
    rcases entry with ⟨_, own⟩ | ⟨_, _, _, before, first, family, _⟩
    · exact revised own
    have here := rows.unique _ _ _ _ first live (family.trans same.symm)
    refine rows.held writer claimed ?_
    rw [standing, ← here]
    rfl
  · obtain ⟨rfl, _, absent, only⟩ := entry
    cases only claimed old (.inl live.1) same
    rw [live.1] at absent
    cases absent
  exact revised entry

theorem Rows.kin_of_written (rows : Rows tokens transaction) {writer : Nat}
  (written : tokens.written.get? tokenHash = some (writer, row))
  (stored : tokens.committed.get? tokenHash = some old) : Kin row old := by
  have revised : Revised tokens tokenHash row → Kin row old := by
    rintro ⟨_, before, live, family, user⟩
    cases stored.symm.trans live.1
    exact ⟨family.symm, user.symm⟩
  have entry := rows.entries _ _ _ written
  unfold Entry at entry
  split at entry
  · cases entry
  · cases entry
  · exact revised entry.2
  · rcases entry with ⟨_, version⟩ | ⟨_, _, absent, _⟩
    · exact revised version
    cases stored.symm.trans absent
  · obtain ⟨_, _, absent, _⟩ := entry
    cases stored.symm.trans absent
  exact revised entry

theorem Live.of_committed (live : Live tokens tokenHash row)
  (same : later.committed.get? tokenHash = tokens.committed.get? tokenHash) :
  Live later tokenHash row :=
  ⟨same.trans live.1, live.2⟩

theorem Entry.transfer (entry : Entry tokens standing tokenHash row)
  (own : later.committed.get? tokenHash = tokens.committed.get? tokenHash)
  (claim : ∀ claimed, standing.claim = some claimed →
    later.committed.get? claimed = tokens.committed.get? claimed)
  (family : ∀ other found, Present later other found → found.familyId = row.familyId →
    ∃ before, Present tokens other before ∧ before.familyId = row.familyId) :
  Entry later standing tokenHash row := by
  have revised : Revised tokens tokenHash row → Revised later tokenHash row :=
    fun ⟨ended, old, live, kin⟩ => ⟨ended, old, live.of_committed own, kin⟩
  unfold Entry at entry ⊢
  split at entry
  · exact entry
  · exact entry
  · exact ⟨entry.1, revised entry.2⟩
  · rcases entry with ⟨here, old⟩ | ⟨here, fresh, absent, old, live, kin⟩
    · exact .inl ⟨here, revised old⟩
    exact .inr ⟨here, fresh, own.trans absent, old, live.of_committed (claim _ rfl), kin⟩
  · obtain ⟨here, fresh, absent, only⟩ := entry
    refine ⟨here, fresh, own.trans absent, fun other found present same => ?_⟩
    obtain ⟨before, seen, alike⟩ := family other found present same
    exact only other before seen alike
  exact revised entry

theorem claim_of_update {other : Nat}
  (claims : (update transaction actor standing other).claim = some tokenHash) :
  other = actor ∧ standing.claim = some tokenHash ∨
    other ≠ actor ∧ (transaction other).claim = some tokenHash := by
  by_cases same : other = actor
  · subst other
    rw [update_self] at claims
    exact .inl ⟨rfl, claims⟩
  rw [update_of_ne same] at claims
  exact .inr ⟨same, claims⟩

section

variable (rows : Rows tokens transaction)

include rows

theorem Rows.rollback (actor : Nat) :
  Rows (tokens.rollback actor) (update transaction actor .closed) := by
  have present : ∀ {tokenHash row}, Present (tokens.rollback actor) tokenHash row →
    Present tokens tokenHash row := by
    rintro tokenHash row (stored | ⟨writer, written⟩)
    · exact .inl stored
    exact .inr ⟨writer, (get?_released.mp written).1⟩
  constructor
  · exact fun tokenHash row seen => rows.keyed tokenHash row (present seen)
  · exact rows.unique
  · intro tokenHash writer row written
    obtain ⟨before, other⟩ := get?_released.mp written
    rw [update_of_ne other]
    exact (rows.entries _ _ _ before).transfer rfl (fun _ _ => rfl)
      (fun _ found seen same => ⟨found, present seen, same⟩)
  intro other tokenHash claims
  rcases claim_of_update claims with ⟨_, none⟩ | ⟨distinct, claimed⟩
  · cases none
  obtain ⟨row, written⟩ := rows.held other tokenHash claimed
  exact ⟨row, get?_released.mpr ⟨written, distinct⟩⟩

theorem commit_live (live : Live (tokens.commit actor) tokenHash row) :
  (∃ standing, transaction actor = standing ∧
    ((∃ claimed moment, standing = .rotating claimed tokenHash moment ∧
    Replaces tokens claimed tokenHash row) ∨
    standing = .opening tokenHash ∧ Opens tokens tokenHash row)) ∨
    (∀ next, tokens.written.get? tokenHash ≠ some (actor, next)) ∧ Live tokens tokenHash row := by
  rcases get?_commit_cases live.1 with written | ⟨free, stored⟩
  · have entry := rows.entries _ _ _ written
    refine .inl ⟨_, rfl, ?_⟩
    unfold Entry at entry
    split at entry
    · cases entry
    · cases entry
    · exact absurd live.2 entry.2.1
    · rename_i claimed replacement moment standing
      rcases entry with ⟨_, revoked, _⟩ | ⟨rfl, replaces⟩
      · exact absurd live.2 revoked
      exact .inl ⟨claimed, moment, standing, replaces⟩
    · rename_i opened standing
      obtain ⟨rfl, opens⟩ := entry
      exact .inr ⟨standing, opens⟩
    exact absurd live.2 entry.1
  exact .inr ⟨free, stored, live.2⟩

theorem commit_apart {other : String} {found : RefreshToken}
  (written : tokens.written.get? tokenHash = some (actor, row))
  (free : ∀ next, tokens.written.get? other ≠ some (actor, next))
  (live : Live tokens other found) : found.familyId ≠ row.familyId := by
  intro same
  obtain ⟨next, locked⟩ := rows.locks written live same
  exact free next locked

theorem Rows.commit (actor : Nat) :
  Rows (tokens.commit actor) (update transaction actor .closed) := by
  have present : ∀ {tokenHash row}, Present (tokens.commit actor) tokenHash row →
    Present tokens tokenHash row := by
    rintro tokenHash row (stored | ⟨writer, written⟩)
    · rcases get?_commit_cases stored with written | ⟨_, before⟩
      · exact .inr ⟨actor, written⟩
      exact .inl before
    exact .inr ⟨writer, (get?_released.mp written).1⟩
  have untouched : ∀ {tokenHash writer row}, writer ≠ actor →
    tokens.written.get? tokenHash = some (writer, row) →
      (tokens.commit actor).committed.get? tokenHash = tokens.committed.get? tokenHash := by
    intro tokenHash writer row other written
    refine get?_commit_other fun next own => other ?_
    cases written.symm.trans own
    rfl
  constructor
  · exact fun tokenHash row seen => rows.keyed tokenHash row (present seen)
  · intro first second row other one two same
    rcases get?_commit_cases one.1 with written | ⟨free, stored⟩
    · rcases get?_commit_cases two.1 with alsoWritten | ⟨alsoFree, alsoStored⟩
      · rcases commit_live rows one with ⟨_, rfl, cases⟩ | ⟨free, _⟩
        · rcases commit_live rows two with ⟨_, rfl, others⟩ | ⟨free, _⟩
          · rcases cases with ⟨claimed, moment, standing, _⟩ | ⟨standing, _⟩ <;>
              rcases others with ⟨alsoClaimed, alsoMoment, other, _⟩ | ⟨other, _⟩ <;>
                cases standing.symm.trans other <;> rfl
          exact absurd alsoWritten (free _)
        exact absurd written (free _)
      exact absurd same.symm (commit_apart rows written alsoFree ⟨alsoStored, two.2⟩)
    rcases get?_commit_cases two.1 with alsoWritten | ⟨_, alsoStored⟩
    · exact absurd same (commit_apart rows alsoWritten free ⟨stored, one.2⟩)
    exact rows.unique _ _ _ _ ⟨stored, one.2⟩ ⟨alsoStored, two.2⟩ same
  · intro tokenHash writer row written
    obtain ⟨before, other⟩ := get?_released.mp written
    rw [update_of_ne other]
    refine (rows.entries _ _ _ before).transfer (untouched other before) (fun claimed claims => ?_)
      (fun _ found seen same => ⟨found, present seen, same⟩)
    obtain ⟨next, held⟩ := rows.held writer claimed claims
    exact untouched other held
  intro other tokenHash claims
  rcases claim_of_update claims with ⟨_, none⟩ | ⟨distinct, claimed⟩
  · cases none
  obtain ⟨row, written⟩ := rows.held other tokenHash claimed
  refine ⟨row, ?_⟩
  rw [commit_written]
  exact get?_released.mpr ⟨written, distinct⟩

theorem Rows.stage (unclaimed : standing.claim = none)
  (idle : ∀ tokenHash row, ¬ Entry tokens (transaction actor) tokenHash row) :
  Rows tokens (update transaction actor standing) := by
  refine ⟨rows.keyed, rows.unique, fun tokenHash writer row written => ?_,
    fun other tokenHash claims => ?_⟩
  · have entry := rows.entries _ _ _ written
    rw [update_of_ne]
    · exact entry
    rintro rfl
    exact idle _ _ entry
  rcases claim_of_update claims with ⟨_, claimed⟩ | ⟨_, claimed⟩
  · rw [unclaimed] at claimed
    cases claimed
  exact rows.held other tokenHash claimed

end

theorem TokenRows.selects_live (selected : selection.selects token) : token.revokedAt = none := by
  unfold selects at selected
  rw [and_eq_true] at selected
  exact isNone_iff_eq_none.mp selected.1

theorem TokenRows.selects_token (selected : (TokenRows.token tokenHash).selects token) : token.tokenHash = tokenHash := by
  simp only [selects, and_eq_true, decide_eq_true_eq] at selected
  exact selected.2

theorem revision_eq_some {revokedAt : Int} {replacedBy : Option String}
  (revised : revision selection revokedAt replacedBy old = some row) :
  selection.selects old ∧ row.revokedAt = some revokedAt ∧ row.tokenHash = old.tokenHash ∧
    Kin old row := by
  unfold revision at revised
  split at revised
  · rename_i selected
    cases revised
    exact ⟨selected, rfl, rfl, rfl, rfl⟩
  cases revised

theorem revision_of_selects (revokedAt : Int) (replacedBy : Option String)
  (selected : selection.selects token) :
  ∃ row, revision selection revokedAt replacedBy token = some row :=
  ⟨_, if_pos selected⟩

section

variable {selection : TokenRows} {hashes : List String} {revokedAt : Int}
  {replacedBy : Option String}

def rowcount (tokens : TokenTable) (change : RefreshToken → Option RefreshToken)
  (hashes : List String) : Nat :=
  (hashes.filter fun tokenHash => ((tokens.committed.get? tokenHash).bind change).isSome).length

theorem rowcount_ne_zero {change : RefreshToken → Option RefreshToken} :
  rowcount tokens change hashes ≠ 0 ↔
    ∃ tokenHash ∈ hashes, ∃ old row, tokens.committed.get? tokenHash = some old ∧
    change old = some row := by
  rw [rowcount, ← Nat.pos_iff_ne_zero, length_pos_iff_exists_mem]
  constructor
  · rintro ⟨tokenHash, member⟩
    obtain ⟨listed, revised⟩ := mem_filter.mp member
    obtain ⟨row, found⟩ := isSome_iff_exists.mp revised
    obtain ⟨old, stored, changed⟩ := bind_eq_some_iff.mp found
    exact ⟨tokenHash, listed, old, row, stored, changed⟩
  rintro ⟨tokenHash, listed, old, row, stored, changed⟩
  refine ⟨tokenHash, mem_filter.mpr ⟨listed, ?_⟩⟩
  rw [stored, bind_some, changed]
  rfl

theorem Rows.aimed (rows : Rows tokens transaction) {aim key : String}
  {old row : RefreshToken} (stored : tokens.committed.get? key = some old)
  (revised : revision (.token aim) revokedAt replacedBy old = some row) :
  key = aim :=
  (rows.keyed key old (.inl stored)).1.symm.trans
    (selects_token (revision_eq_some revised).1)

theorem Rows.aim_mem (rows : Rows tokens transaction) {aim : String}
  (some : rowcount tokens (revision (.token aim) revokedAt replacedBy) hashes ≠ 0) :
  aim ∈ hashes := by
  obtain ⟨key, member, old, row, stored, revised⟩ := rowcount_ne_zero.mp some
  exact rows.aimed stored revised ▸ member

theorem Rows.write (rows : Rows tokens transaction) (moment : Nat)
  (standing : transaction actor = .fixed selection hashes)
  (unlocked : ∀ tokenHash ∈ hashes, ¬ tokens.Locked actor tokenHash) :
  Rows (tokens.revise actor (revision selection revokedAt replacedBy) hashes)
    (update transaction actor (Trail.afterWrite moment selection
    (rowcount tokens (revision selection revokedAt replacedBy) hashes))) := by
  have committed : (tokens.revise actor
    (revision selection revokedAt replacedBy) hashes).committed =
    tokens.committed :=
    revise_committed _ _
  have written : ∀ {tokenHash writer row},
    (tokens.revise actor (revision selection revokedAt replacedBy)
      hashes).written.get? tokenHash = some (writer, row) →
    (writer ≠ actor ∧ tokens.written.get? tokenHash = some (writer, row)) ∨
      writer = actor ∧ tokenHash ∈ hashes ∧ ∃ old, tokens.committed.get? tokenHash = some old ∧
        revision selection revokedAt replacedBy old = some row := by
    intro tokenHash writer row found
    rcases get?_revise_cases found with before | revised
    · refine .inl ⟨?_, before⟩
      rintro rfl
      have entry := rows.entries _ _ _ before
      rw [standing] at entry
      exact entry
    exact .inr revised
  have present : ∀ {tokenHash row}, Present (tokens.revise actor
        (revision selection revokedAt replacedBy) hashes) tokenHash row →
      ∃ before, Present tokens tokenHash before ∧ before.tokenHash = row.tokenHash ∧
        before.familyId = row.familyId := by
    rintro tokenHash row (stored | ⟨writer, found⟩)
    · exact ⟨row, .inl (by rwa [committed] at stored), rfl, rfl⟩
    rcases written found with ⟨_, before⟩ | ⟨_, _, old, stored, revised⟩
    · exact ⟨row, .inr ⟨writer, before⟩, rfl, rfl⟩
    obtain ⟨_, _, named, family, _⟩ := revision_eq_some revised
    exact ⟨old, .inl stored, named.symm, family⟩
  constructor
  · intro tokenHash row seen
    obtain ⟨before, old, named, family⟩ := present seen
    rw [← named, ← family]
    exact rows.keyed tokenHash before old
  · intro first second row other one two
    exact rows.unique first second row other (one.of_committed (by rw [committed]))
      (two.of_committed (by rw [committed]))
  · intro tokenHash writer row found
    rcases written found with ⟨other, before⟩ | ⟨rfl, member, old, stored, revised⟩
    · rw [update_of_ne other]
      exact (rows.entries _ _ _ before).transfer (by rw [committed])
        (fun _ _ => by rw [committed]) (fun _ next seen same => by
          obtain ⟨prior, old, _, family⟩ := present seen
          exact ⟨prior, old, family.trans same⟩)
    obtain ⟨selected, ended, _, kin⟩ := revision_eq_some revised
    have version : Revised (tokens.revise writer
      (revision selection revokedAt replacedBy) hashes) tokenHash row :=
      ⟨by rw [ended]; rintro ⟨⟩, old,
        ⟨by rw [committed]; exact stored, selects_live selected⟩, kin⟩
    rw [update_self]
    cases selection with
    | token aim =>
      rw [Trail.afterWrite,
        if_neg (rowcount_ne_zero.mpr ⟨tokenHash, member, old, row, stored, revised⟩)]
      exact ⟨rows.aimed stored revised, version⟩
    | family _ | user _ => exact version
  intro other tokenHash claims
  rcases claim_of_update claims with ⟨rfl, claimed⟩ | ⟨distinct, claimed⟩
  · cases selection with
    | token aim =>
      rw [Trail.afterWrite] at claimed
      split at claimed
      · cases claimed
      rename_i some
      cases claimed
      obtain ⟨key, member, old, row, stored, revised⟩ := rowcount_ne_zero.mp some
      cases rows.aimed stored revised
      exact ⟨row, get?_revise_changed member stored revised⟩
    | family _ | user _ => cases claimed
  obtain ⟨row, before⟩ := rows.held other tokenHash claimed
  exact ⟨row, get?_revise_other unlocked distinct before⟩

end

section

variable {token : RefreshToken}

theorem get?_insert {tokenHash : String} :
  (tokens.write actor token.tokenHash token).written.get? tokenHash =
    if tokenHash = token.tokenHash then some (actor, token)
    else tokens.written.get? tokenHash :=
  Dict.get?_set _ _ _ _

theorem present_insert {tokenHash : String} {row : RefreshToken}
  (present : Present (tokens.write actor token.tokenHash token) tokenHash row) :
  tokenHash = token.tokenHash ∧ row = token ∨ Present tokens tokenHash row := by
  rcases present with stored | ⟨writer, written⟩
  · exact .inr (.inl stored)
  rw [get?_insert] at written
  split at written
  · rename_i here
    cases written
    exact .inl ⟨here, rfl⟩
  exact .inr (.inr ⟨writer, written⟩)

theorem Rows.insert (rows : Rows tokens transaction) {standing : Transaction}
  (named : token.familyId ≠ "") (free : tokens.written.get? token.tokenHash = none)
  (apart : ∀ tokenHash writer row, tokens.written.get? tokenHash = some (writer, row) →
    writer ≠ actor → row.familyId ≠ token.familyId)
  (own : Entry (tokens.write actor token.tokenHash token) standing token.tokenHash token)
  (before : ∀ tokenHash row, tokens.written.get? tokenHash = some (actor, row) →
    Entry (tokens.write actor token.tokenHash token) standing tokenHash row)
  (claims : ∀ tokenHash, standing.claim = some tokenHash →
    (transaction actor).claim = some tokenHash) :
  Rows (tokens.write actor token.tokenHash token)
    (update transaction actor standing) := by
  constructor
  · intro tokenHash row present
    rcases present_insert present with ⟨rfl, rfl⟩ | seen
    · exact ⟨rfl, named⟩
    exact rows.keyed tokenHash row seen
  · exact rows.unique
  · intro tokenHash writer row written
    rw [get?_insert] at written
    split at written
    · rename_i here
      cases written
      rw [update_self, here]
      exact own
    by_cases same : writer = actor
    · subst writer
      rw [update_self]
      exact before tokenHash row written
    rw [update_of_ne same]
    refine (rows.entries _ _ _ written).transfer rfl (fun _ _ => rfl) ?_
    intro other found present alike
    rcases present_insert present with ⟨_, rfl⟩ | seen
    · exact absurd alike.symm (apart tokenHash writer row written same)
    exact ⟨found, seen, alike⟩
  intro other tokenHash claim
  have before : (transaction other).claim = some tokenHash := by
    rcases claim_of_update claim with ⟨rfl, claimed⟩ | ⟨_, claimed⟩
    · exact claims tokenHash claimed
    exact claimed
  obtain ⟨row, written⟩ := rows.held other tokenHash before
  refine ⟨row, ?_⟩
  rw [get?_insert, if_neg]
  · exact written
  rintro rfl
  rw [free] at written
  cases written

theorem Rows.insert_opening (rows : Rows tokens transaction)
  (standing : transaction actor = .closed) (live : token.revokedAt = none)
  (named : token.familyId ≠ "") (stored : tokens.committed.get? token.tokenHash = none)
  (free : tokens.written.get? token.tokenHash = none)
  (fresh : ∀ other found, Present tokens other found → found.familyId ≠ token.familyId) :
  Rows (tokens.write actor token.tokenHash token)
    (update transaction actor (.opening token.tokenHash)) := by
  refine rows.insert named free
    (fun _ writer row written _ => fresh _ row (.inr ⟨writer, written⟩))
    ⟨rfl, live, stored, fun other found present same => ?_⟩
    (fun tokenHash row written => ?_) fun _ => nofun
  · rcases present_insert present with ⟨here, _⟩ | seen
    · exact here
    exact absurd same (fresh other found seen)
  have entry := rows.entries _ _ _ written
  rw [standing] at entry
  cases entry

theorem Rows.insert_replacement (rows : Rows tokens transaction) {claimed : String} {moment : Nat}
  (standing : transaction actor = .claimed claimed moment) (live : token.revokedAt = none)
  (named : token.familyId ≠ "") (stored : tokens.committed.get? token.tokenHash = none)
  (free : tokens.written.get? token.tokenHash = none)
  (kin : ∀ old, tokens.committed.get? claimed = some old → Kin old token) :
  Rows (tokens.write actor token.tokenHash token)
    (update transaction actor (.rotating claimed token.tokenHash moment)) := by
  obtain ⟨revised, held⟩ := rows.held actor claimed (by rw [standing]; rfl)
  have entry := rows.entries _ _ _ held
  rw [standing] at entry
  obtain ⟨_, ended, old, current, alike⟩ := entry
  refine rows.insert named free (fun tokenHash writer row written other same => ?_)
    (.inr ⟨rfl, live, stored, old, current, kin old current.1⟩)
    (fun tokenHash row written => ?_) fun tokenHash claim => by rw [standing]; exact claim
  · obtain ⟨next, locked⟩ := rows.locks written current ((kin old current.1).1.trans same.symm)
    cases held.symm.trans locked
    exact other rfl
  have entry := rows.entries _ _ _ written
  rw [standing] at entry
  exact .inl entry

end

end

end AgentHarness.Auth
