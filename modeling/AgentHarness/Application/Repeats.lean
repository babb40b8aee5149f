import AgentHarness.Application.Turns

/-!
Creations under one key return one Run, and a Run that a creation returns has been put on the
queue, as long as two things never happen.
-/

namespace AgentHarness.Creation

open Collections Interaction Dict Function List Pool CreationRecords Option Bool

variable (records : CreationRecords)

def Unheld (_ : Nat) (op : CreationOp) (_ : CreationInput) : Prop :=
  match op with
  | .enter session => records.held.get? session = none
  | _ => True

def AnsweredAlike (request : CreateRequest) (limit : Nat) : Prop :=
  ∀ runId ∈ records.answered.get? request.key, ∃ duplicate ∈ request.duplicate
        (records.listForSessions request.tenantId request.sessionId limit),
      duplicate.runId = runId

def Undisturbed (op : CreationOp) (input : CreationInput) : Prop :=
  match op with
  | .listForSessions request limit => input.fault = .none → AnsweredAlike records request limit
  | .add _ => input.fault ≠ .unacknowledged
  | .appendQueued _ _ => input.fault = .none
  | .enqueue _ => input.fault ≠ .failed
  | _ => True

def Orderly (actor : Nat) (op : CreationOp) (input : CreationInput) : Prop :=
  Unheld records actor op input ∧ Undisturbed records op input

instance (records : CreationRecords) (actor : Nat) (op : CreationOp) (input : CreationInput) :
  Decidable (Unheld records actor op input) := by
  unfold Unheld
  split <;> infer_instance

instance (records : CreationRecords) (request : CreateRequest) (limit : Nat) :
  Decidable (AnsweredAlike records request limit) := by
  unfold AnsweredAlike
  infer_instance

instance (records : CreationRecords) (op : CreationOp) (input : CreationInput) :
  Decidable (Undisturbed records op input) := by
  unfold Undisturbed
  split <;> infer_instance

instance (records : CreationRecords) (actor : Nat) (op : CreationOp) (input : CreationInput) :
  Decidable (Orderly records actor op input) := by
  unfold Orderly
  infer_instance

def Placed (asked : CreateRequest) (known : Progress) : Prop :=
  match known.phase with
  | .start => True
  | .unrecorded => known.inside = true → records.idempotency.get? asked.key = none
  | .unanswered => known.inside = true →
      records.idempotency.get? asked.key = none ∧ records.answered.get? asked.key = none
  | .adding runId => known.inside = true ∧ records.idempotency.get? asked.key = some runId
  | .answered runId =>
    (records.idempotency.get? asked.key = some runId ∨
      records.answered.get? asked.key = some runId) ∧
    (asked.tenantId, runId) ∈ records.enqueued
  | .reading _ => False

structure Kept (requests : Nat → CreationRequest) (records : CreationRecords)
    (known : Nat → Progress) : Prop where
  filed : ∀ key run, records.runs.get? key = some run → run.key = key
  indexed : ∀ tenantId sessionId idempotencyKey runId,
    records.idempotency.get? (tenantId, sessionId, idempotencyKey) = some runId →
      ∃ run, records.runs.get? (tenantId, runId) = some run ∧ run.sessionId = sessionId
  apart : ∀ key runId, records.answered.get? key = some runId → records.idempotency.get? key = none
  held : ∀ actor asked, requests actor = .create asked → (known actor).inside = true →
    records.held.get? asked.session = some actor
  queued : ∀ key run, records.runs.get? key = some run → key ∈ records.enqueued ∨
    ∃ actor asked, requests actor = .create asked ∧ asked.session = (key.1, run.sessionId) ∧
      known actor = { inside := true, phase := .adding key.2 }
  placed : ∀ actor asked, requests actor = .create asked → Placed records asked (known actor)
  reading : ∀ actor run, (known actor).phase = .reading run →
    ∃ stored, records.runs.get? run.key = some stored ∧ stored.sessionId = run.sessionId

section

variable {requests : Nat → CreationRequest} {records later : CreationRecords}
  {known : Nat → Progress} {actor : Nat} {asked : CreateRequest} {progress : Progress}

theorem Kept.alone (kept : Kept requests records known) {other : Nat}
  {asked' : CreateRequest} (creates : requests actor = .create asked)
  (creates' : requests other = .create asked') (inside : (known actor).inside = true)
  (inside' : (known other).inside = true) (same : asked'.session = asked.session) :
  other = actor := by
  have own := kept.held actor asked creates inside
  have others := kept.held other asked' creates' inside'
  rw [same, own] at others
  exact (some.inj others).symm

theorem Kept.enqueued (kept : Kept requests records known)
  (creates : requests actor = .create asked) (inside : (known actor).inside = true)
  (idle : ∀ runId, (known actor).phase ≠ .adding runId) {key : String × String} {run : Run}
  (stored : records.runs.get? key = some run)
  (session : asked.session = (key.1, run.sessionId)) : key ∈ records.enqueued := by
  cases kept.queued key run stored with
  | inl queued => exact queued
  | inr adding =>
    obtain ⟨other, asked', creates', session', phase⟩ := adding
    have same := kept.alone creates creates' inside (by rw [phase])
      (session'.trans session.symm)
    rw [same] at phase
    exact absurd (by rw [phase]) (idle key.2)

theorem Placed.stays {known : Progress} (placed : Placed records asked known)
  (unrecorded : known.inside = true → records.idempotency.get? asked.key = none →
    later.idempotency.get? asked.key = none)
  (unanswered : known.inside = true → records.answered.get? asked.key = none →
    later.answered.get? asked.key = none)
  (recorded : ∀ runId, records.idempotency.get? asked.key = some runId →
    later.idempotency.get? asked.key = some runId)
  (answered : ∀ runId, records.answered.get? asked.key = some runId →
    later.answered.get? asked.key = some runId)
  (enqueued : ∀ key ∈ records.enqueued, key ∈ later.enqueued) :
  Placed later asked known := by
  unfold Placed at placed ⊢
  cases phase : known.phase with
  | start => trivial
  | unrecorded =>
    rw [phase] at placed
    exact fun inside => unrecorded inside (placed inside)
  | unanswered =>
    rw [phase] at placed
    exact fun inside => ⟨unrecorded inside (placed inside).1, unanswered inside (placed inside).2⟩
  | adding runId =>
    rw [phase] at placed
    exact ⟨placed.1, recorded runId placed.2⟩
  | answered runId =>
    rw [phase] at placed
    obtain ⟨found, queued⟩ := placed
    exact ⟨found.imp (recorded runId) (answered runId), enqueued _ queued⟩
  | reading run =>
    rw [phase] at placed
    exact placed

section

variable (kept : Kept requests records known)

include kept

theorem Kept.moves (runs : later.runs = records.runs)
  (idempotency : later.idempotency = records.idempotency)
  (answered : later.answered = records.answered)
  (enqueued : ∀ key ∈ records.enqueued, key ∈ later.enqueued)
  (held : ∀ other asked, requests other = .create asked →
    (update known actor progress other).inside = true →
    later.held.get? asked.session = some other)
  (queued : ∀ runId, known actor = { inside := true, phase := .adding runId } →
    progress = known actor ∨ ∀ asked, requests actor = .create asked →
    (asked.tenantId, runId) ∈ later.enqueued)
  (placed : ∀ asked, requests actor = .create asked → Placed later asked progress)
  (reading : ∀ run, progress.phase = .reading run →
    ∃ stored, records.runs.get? run.key = some stored ∧ stored.sessionId = run.sessionId) :
  Kept requests later (update known actor progress) := by
  constructor
  · rw [runs]
    exact kept.filed
  · rw [idempotency, runs]
    exact kept.indexed
  · rw [answered, idempotency]
    exact kept.apart
  · exact held
  · intro key run stored
    rw [runs] at stored
    cases kept.queued key run stored with
    | inl before => exact .inl (enqueued key before)
    | inr adding =>
      obtain ⟨adder, asked, creates, session, phase⟩ := adding
      rcases update_cases known actor progress adder with ⟨rfl, now⟩ | ⟨_, now⟩
      · cases queued key.2 phase with
        | inl same => exact .inr ⟨adder, asked, creates, session, by rw [now, same, phase]⟩
        | inr done =>
          have member := done asked creates
          rw [show asked.tenantId = key.1 from congrArg Prod.fst session] at member
          exact .inl member
      exact .inr ⟨adder, asked, creates, session, by rw [now, phase]⟩
  · intro other asked creates
    rcases update_cases known actor progress other with ⟨rfl, now⟩ | ⟨_, now⟩
    · rw [now]
      exact placed asked creates
    rw [now]
    apply (kept.placed other asked creates).stays
    · rw [idempotency]
      exact fun _ => id
    · rw [answered]
      exact fun _ => id
    · rw [idempotency]
      exact fun _ => id
    · rw [answered]
      exact fun _ => id
    exact enqueued
  intro other run phase
  rw [runs]
  rcases update_cases known actor progress other with ⟨_, now⟩ | ⟨_, now⟩
  · rw [now] at phase
    exact reading run phase
  rw [now] at phase
  exact kept.reading other run phase

theorem Kept.phase_of (creates : requests actor = .create asked) (run : Run) :
  (known actor).phase ≠ .reading run := by
  intro phase
  have placed := kept.placed actor asked creates
  unfold Placed at placed
  rw [phase] at placed
  exact placed

theorem Kept.goes {phase : Phase} (next : Phase) (creates : requests actor = .create asked)
  (here : known actor = { inside := true, phase }) (idle : ∀ runId, phase ≠ .adding runId)
  (placed : Placed records asked { inside := true, phase := next })
  (settled : ∀ run, next ≠ .reading run) :
  Kept requests records (update known actor { inside := true, phase := next }) := by
  apply kept.moves (by rfl) (by rfl) (by rfl) (by exact fun _ => id)
  · intro other asked' creates' inside
    rcases update_cases known actor { inside := true, phase := next } other with
      ⟨rfl, _⟩ | ⟨_, now⟩
    · exact kept.held other asked' creates' (by rw [here])
    rw [now] at inside
    exact kept.held other asked' creates' inside
  · intro runId adding
    rw [here] at adding
    exact absurd (congrArg Progress.phase adding) (idle runId)
  · intro asked' creates'
    cases creates.symm.trans creates'
    exact placed
  exact fun run reading => absurd reading (settled run)

theorem kept_enter (creates : requests actor = .create asked) (outside : known actor = {})
  (free : records.held.get? asked.session = none) :
  Kept requests { records with held := records.held.set asked.session actor }
    (update known actor { inside := true }) := by
  apply kept.moves (by rfl) (by rfl) (by rfl) (by exact fun _ => id)
  · intro other asked' creates' inside
    rcases update_cases known actor { inside := true } other with ⟨rfl, _⟩ | ⟨_, now⟩
    · cases creates.symm.trans creates'
      exact get?_set_self _ _ _
    rw [now] at inside
    have holds := kept.held other asked' creates' inside
    have elsewhere : asked'.session ≠ asked.session := by
      intro same
      rw [same, free] at holds
      cases holds
    exact (get?_set_other _ _ elsewhere).trans holds
  · intro runId adding
    rw [outside] at adding
    cases adding
  · exact fun _ _ => trivial
  intro run reading
  cases reading

theorem kept_leave (creates : requests actor = .create asked)
  (inside : (known actor).inside = true) (idle : ∀ runId, (known actor).phase ≠ .adding runId) :
  Kept requests { records with held := records.held.erase asked.session }
    (update known actor { known actor with inside := false }) := by
  apply kept.moves (by rfl) (by rfl) (by rfl) (by exact fun _ => id)
  · intro other asked' creates' holding
    rcases update_cases known actor { known actor with inside := false } other with
      ⟨_, now⟩ | ⟨distinct, now⟩
    · rw [now] at holding
      cases holding
    rw [now] at holding
    have elsewhere : asked'.session ≠ asked.session :=
      fun same => distinct (kept.alone creates creates' inside holding same)
    rw [get?_erase, if_neg elsewhere]
    exact kept.held other asked' creates' holding
  · intro runId adding
    exact absurd (congrArg Progress.phase adding) (idle runId)
  · intro asked' creates'
    have before := kept.placed actor asked' creates'
    unfold Placed at before ⊢
    cases phase : (known actor).phase with
    | start => trivial
    | unrecorded | unanswered => nofun
    | adding runId => exact absurd phase (idle runId)
    | answered runId =>
      rw [phase] at before
      exact before
    | reading run => exact absurd phase (kept.phase_of creates run)
  exact fun run reading => absurd reading (kept.phase_of creates run)

theorem kept_enqueue {runId : String} {task : RunTask} (creates : requests actor = .create asked)
  (adding : known actor = { inside := true, phase := .adding runId })
  (recorded : records.idempotency.get? asked.key = some runId)
  (own : task.key = (asked.tenantId, runId)) :
  Kept requests { records with
      queue := records.queue.enqueue task, enqueued := task.key :: records.enqueued }
    (update known actor { inside := true, phase := .answered task.runId }) := by
  have named : task.runId = runId := congrArg Prod.snd own
  apply kept.moves (by rfl) (by rfl) (by rfl)
    (by exact fun _ member => mem_cons_of_mem _ member)
  · intro other asked' creates' inside
    rcases update_cases known actor { inside := true, phase := .answered task.runId } other with
      ⟨rfl, _⟩ | ⟨_, now⟩
    · exact kept.held other asked' creates' (by rw [adding])
    rw [now] at inside
    exact kept.held other asked' creates' inside
  · intro other phase
    rw [adding] at phase
    cases phase
    refine .inr ?_
    intro asked' creates'
    cases creates.symm.trans creates'
    exact own ▸ mem_cons_self
  · intro asked' creates'
    cases creates.symm.trans creates'
    refine ⟨.inl ?_, ?_⟩
    · rw [named]
      exact recorded
    rw [named, own]
    exact mem_cons_self
  intro run reading
  cases reading

theorem Kept.other_key {other : Nat} {asked' : CreateRequest}
  (creates : requests actor = .create asked) (creates' : requests other = .create asked')
  (distinct : other ≠ actor) (inside : (known actor).inside = true)
  (inside' : (known other).inside = true) : asked'.key ≠ asked.key := by
  intro same
  obtain ⟨tenant, rest⟩ := Prod.mk.inj same
  have session : asked'.session = asked.session := Prod.ext tenant (Prod.mk.inj rest).1
  exact distinct (kept.alone creates creates' inside inside' session)

variable {run : Run}

theorem kept_add (creates : requests actor = .create asked)
  (here : known actor = { inside := true, phase := .unanswered })
  (own : run.idempotency = asked.key) (fresh : records.runs.get? run.key = none)
  (absent : records.idempotency.get? asked.key = none) :
  Kept requests { records with
      runs := records.runs.set run.key run
      idempotency := records.idempotency.set asked.key run.runId }
    (update known actor { inside := true, phase := .adding run.runId }) := by
  have inside : (known actor).inside = true := by rw [here]
  obtain ⟨tenant, rest⟩ := Prod.mk.inj own
  have session : run.sessionId = asked.sessionId := (Prod.mk.inj rest).1
  have unanswered : records.answered.get? asked.key = none := by
    have placed := kept.placed actor asked creates
    rw [here] at placed
    exact (placed rfl).2
  have stays : ∀ key stored, records.runs.get? key = some stored →
    (records.runs.set run.key run).get? key = some stored := by
    intro key stored found
    rw [get?_set_other]
    · exact found
    intro same
    rw [same, fresh] at found
    cases found
  constructor
  · exact forall_set rfl kept.filed
  · intro tenantId sessionId idempotencyKey runId found
    rw [get?_set] at found
    by_cases same : (tenantId, sessionId, idempotencyKey) = asked.key
    · rw [if_pos same] at found
      cases found
      obtain ⟨rfl, others⟩ := Prod.mk.inj same
      refine ⟨run, ?_, session.trans (Prod.mk.inj others).1.symm⟩
      rw [← tenant]
      exact get?_set_self _ _ _
    rw [if_neg same] at found
    obtain ⟨stored, present, within⟩ := kept.indexed _ _ _ _ found
    exact ⟨stored, stays _ _ present, within⟩
  · intro key runId found
    have elsewhere : key ≠ asked.key := by
      rintro rfl
      rw [unanswered] at found
      cases found
    rw [get?_set_other _ _ elsewhere]
    exact kept.apart key runId found
  · intro other asked' creates' holding
    rcases update_cases known actor { inside := true, phase := .adding run.runId } other with
      ⟨rfl, _⟩ | ⟨_, now⟩
    · exact kept.held other asked' creates' inside
    rw [now] at holding
    exact kept.held other asked' creates' holding
  · intro key stored found
    rw [get?_set] at found
    by_cases same : key = run.key
    · rw [if_pos same] at found
      cases found
      refine .inr ⟨actor, asked, creates, ?_, ?_⟩
      · rw [same]
        exact Prod.ext tenant.symm session.symm
      rw [update_self, same]
      rfl
    rw [if_neg same] at found
    cases kept.queued key stored found with
    | inl before => exact .inl before
    | inr adding =>
      obtain ⟨adder, asked', creates', shared, phase⟩ := adding
      have distinct : adder ≠ actor := by
        rintro rfl
        rw [here] at phase
        cases phase
      exact .inr ⟨adder, asked', creates', shared, by rw [update_of_ne distinct, phase]⟩
  · intro other asked' creates'
    rcases update_cases known actor { inside := true, phase := .adding run.runId } other with
      ⟨rfl, now⟩ | ⟨distinct, now⟩
    · cases creates.symm.trans creates'
      rw [now]
      exact ⟨rfl, get?_set_self _ _ _⟩
    rw [now]
    apply (kept.placed other asked' creates').stays
    · intro inside' missing
      exact (get?_set_other _ _
        (kept.other_key creates creates' distinct inside inside')).trans missing
    · exact fun _ => id
    · intro runId found
      have elsewhere : asked'.key ≠ asked.key := by
        intro same
        rw [same, absent] at found
        cases found
      exact (get?_set_other _ _ elsewhere).trans found
    · exact fun _ => id
    exact fun _ => id
  intro other reading phase
  rcases update_cases known actor { inside := true, phase := .adding run.runId } other with
    ⟨_, now⟩ | ⟨_, now⟩
  · rw [now] at phase
    cases phase
  rw [now] at phase
  obtain ⟨stored, found, shared⟩ := kept.reading other reading phase
  exact ⟨stored, stays _ _ found, shared⟩

theorem kept_answer {duplicate : Run} (creates : requests actor = .create asked)
  (here : known actor = { inside := true, phase := .unrecorded })
  (stored : records.runs.get? (asked.tenantId, duplicate.runId) = some duplicate)
  (session : duplicate.sessionId = asked.sessionId)
  (alike : ∀ runId, records.answered.get? asked.key = some runId → runId = duplicate.runId) :
  Kept requests { records with
      answered := records.answered.set asked.key duplicate.runId }
    (update known actor { inside := true, phase := .answered duplicate.runId }) := by
  have inside : (known actor).inside = true := by rw [here]
  have absent : records.idempotency.get? asked.key = none := by
    have placed := kept.placed actor asked creates
    rw [here] at placed
    exact placed rfl
  have queued : (asked.tenantId, duplicate.runId) ∈ records.enqueued :=
    kept.enqueued creates inside (by rw [here]; exact fun _ => nofun) stored
      (Prod.ext rfl session.symm)
  constructor
  · exact kept.filed
  · exact kept.indexed
  · intro key runId found
    rw [get?_set] at found
    by_cases same : key = asked.key
    · rw [same]
      exact absent
    rw [if_neg same] at found
    exact kept.apart key runId found
  · intro other asked' creates' holding
    rcases update_cases known actor { inside := true, phase := .answered duplicate.runId }
      other with ⟨rfl, _⟩ | ⟨_, now⟩
    · exact kept.held other asked' creates' inside
    rw [now] at holding
    exact kept.held other asked' creates' holding
  · intro key run found
    cases kept.queued key run found with
    | inl before => exact .inl before
    | inr adding =>
      obtain ⟨adder, asked', creates', shared, phase⟩ := adding
      have distinct : adder ≠ actor := by
        rintro rfl
        rw [here] at phase
        cases phase
      exact .inr ⟨adder, asked', creates', shared, by rw [update_of_ne distinct, phase]⟩
  · intro other asked' creates'
    rcases update_cases known actor { inside := true, phase := .answered duplicate.runId }
      other with ⟨rfl, now⟩ | ⟨distinct, now⟩
    · cases creates.symm.trans creates'
      rw [now]
      exact ⟨.inr (get?_set_self _ _ _), queued⟩
    rw [now]
    apply (kept.placed other asked' creates').stays
    · exact fun _ => id
    · intro inside' missing
      exact (get?_set_other _ _
        (kept.other_key creates creates' distinct inside inside')).trans missing
    · exact fun _ => id
    · intro runId found
      rw [get?_set]
      by_cases same : asked'.key = asked.key
      · rw [same] at found
        rw [if_pos same, alike runId found]
      rw [if_neg same]
      exact found
    exact fun _ => id
  intro other run phase
  rcases update_cases known actor { inside := true, phase := .answered duplicate.runId }
    other with ⟨_, now⟩ | ⟨_, now⟩
  · rw [now] at phase
    cases phase
  rw [now] at phase
  exact kept.reading other run phase

theorem kept_compareAndSet {current : Run}
  (reading : (known actor).phase = .reading current) (now : Nat) (expected status : RunStatus) :
  Kept requests (records.compareAndSet now expected current status).2 known := by
  obtain ⟨stored, found, session⟩ := kept.reading actor current reading
  unfold CreationRecords.compareAndSet
  rw [found]
  dsimp only
  split
  · exact kept
  have cases_of : ∀ key run, (records.runs.set current.key
      { current with status, updatedAt := now, fencingToken := current.fencingToken + 1 }).get? key =
        some run → ∃ before, records.runs.get? key = some before ∧
          before.sessionId = run.sessionId ∧ run.key = key := by
    intro key run present
    rw [get?_set] at present
    by_cases same : key = current.key
    · rw [if_pos same] at present
      cases present
      exact ⟨stored, by rw [same, found], session, same.symm⟩
    rw [if_neg same] at present
    exact ⟨run, present, rfl, kept.filed key run present⟩
  have kept_of : ∀ key run, records.runs.get? key = some run → ∃ now', (records.runs.set current.key
        { current with status, updatedAt := now, fencingToken := current.fencingToken + 1 }).get?
          key = some now' ∧ now'.sessionId = run.sessionId := by
    intro key run present
    by_cases same : key = current.key
    · subst key
      rw [found] at present
      cases present
      exact ⟨_, get?_set_self _ _ _, session.symm⟩
    exact ⟨run, (get?_set_other _ _ same).trans present, rfl⟩
  constructor
  · intro key run present
    obtain ⟨_, _, _, keyed⟩ := cases_of key run present
    exact keyed
  · intro tenantId sessionId idempotencyKey runId recorded
    obtain ⟨run, present, within⟩ := kept.indexed _ _ _ _ recorded
    obtain ⟨now', present', same⟩ := kept_of _ run present
    exact ⟨now', present', same.trans within⟩
  · exact kept.apart
  · exact kept.held
  · intro key run present
    obtain ⟨before, present', same, _⟩ := cases_of key run present
    rw [← same]
    exact kept.queued key before present'
  · intro other asked creates
    apply (kept.placed other asked creates).stays
    · exact fun _ => id
    · exact fun _ => id
    · exact fun _ => id
    · exact fun _ => id
    exact fun _ => id
  intro other run phase
  obtain ⟨before, present, same⟩ := kept.reading other run phase
  obtain ⟨now', present', same'⟩ := kept_of _ before present
  exact ⟨now', present', same'.trans same⟩

theorem kept_read (worker : ∀ asked, requests actor ≠ .create asked)
  (stored : records.runs.get? run.key = some run) :
  Kept requests records (update known actor { known actor with phase := .reading run }) := by
  apply kept.moves (by rfl) (by rfl) (by rfl) (by exact fun _ => id)
  · intro other asked creates inside
    rcases update_cases known actor { known actor with phase := .reading run } other with
      ⟨rfl, _⟩ | ⟨_, now⟩
    · exact absurd creates (worker asked)
    rw [now] at inside
    exact kept.held other asked creates inside
  · intro runId _
    exact .inr fun asked creates => absurd creates (worker asked)
  · exact fun asked creates => absurd creates (worker asked)
  intro other phase
  cases phase
  exact ⟨run, stored, rfl⟩

end

end

section

variable {requests : Nat → CreationRequest} {records : CreationRecords} {known : Nat → Progress}
  {actor : Nat}

theorem noted_raised (answered : Dict (String × String × String) String)
  (op : CreationOp) (error : CreationError) :
  CreationRecords.noted answered op (.error error) = answered := by
  cases op with
  | _ => rfl

variable (op : CreationOp) (input : CreationInput)

theorem respond_failed (awaits : CreationRecords.awaits op = true) (fault : input.fault = .failed) :
  records.respond actor input op = (.error .outage, records) := by
  unfold respond
  rw [if_pos awaits, fault]
  dsimp only
  rw [noted_raised]

theorem respond_answered (fine : CreationRecords.awaits op = false ∨ input.fault = .none) :
  records.respond actor input op =
    ((records.answer actor input op).1, { (records.answer actor input op).2 with
      answered := CreationRecords.noted records.answered op
        (records.answer actor input op).1 }) := by
  unfold respond
  have none : (if CreationRecords.awaits op then input.fault else .none) = .none := by
    cases fine with
    | inl local_ => rw [local_]; rfl
    | inr fault => rw [fault]; exact ite_self _
  rw [none]

theorem respond_lost (awaits : CreationRecords.awaits op = true)
  (fault : input.fault = .unacknowledged) : records.respond actor input op =
    (.error .outage, { (records.answer actor input op).2 with
      answered := records.answered }) := by
  unfold respond
  rw [if_pos awaits, fault]
  dsimp only
  rw [noted_raised]

def Follows (requests : Nat → CreationRequest) (known : Nat → Progress) (actor : Nat)
  (op : CreationOp) (reply : Except CreationError op.Answer × CreationRecords) : Prop :=
  Foreseen op reply.1 ∧ Kept requests reply.2 (update known actor (after (known actor) op reply.1))

theorem Kept.same (kept : Kept requests records known) {later : CreationRecords}
  (runs : later.runs = records.runs) (idempotency : later.idempotency = records.idempotency)
  (answered : later.answered = records.answered) (enqueued : later.enqueued = records.enqueued)
  (held : later.held = records.held) :
  Kept requests later (update known actor (known actor)) := by
  apply kept.moves runs idempotency answered (by rw [enqueued]; exact fun _ => id)
  · rw [update_eq_self, held]
    exact kept.held
  · exact fun _ _ => .inl rfl
  · intro asked creates
    apply (kept.placed actor asked creates).stays
    · rw [idempotency]
      exact fun _ => id
    · rw [answered]
      exact fun _ => id
    · rw [idempotency]
      exact fun _ => id
    · rw [answered]
      exact fun _ => id
    rw [enqueued]
    exact fun _ => id
  exact kept.reading actor

theorem follows_raised (kept : Kept requests records known) {op : CreationOp}
  (foreseen : Foreseen op (.error .outage))
  (idle : after (known actor) op (.error .outage) = known actor) :
  Follows requests known actor op (.error .outage, records) := by
  refine ⟨foreseen, ?_⟩
  rw [idle, update_eq_self]
  exact kept

theorem follows_aside (kept : Kept requests records known) {op : CreationOp}
  (input : CreationInput) (awaits : CreationRecords.awaits op = true)
  (told : (records.answer actor input op).2.runs = records.runs ∧
    (records.answer actor input op).2.idempotency = records.idempotency ∧
    (records.answer actor input op).2.enqueued = records.enqueued ∧
    (records.answer actor input op).2.held = records.held)
  (noted : ∀ answer, CreationRecords.noted records.answered op answer = records.answered)
  (foreseen : ∀ answer, Foreseen op answer)
  (idle : ∀ answer, after (known actor) op answer = known actor) :
  Follows requests known actor op (records.respond actor input op) := by
  obtain ⟨runs, idempotency, enqueued, held⟩ := told
  cases fault : input.fault with
  | none =>
    rw [respond_answered op input (.inr fault)]
    refine ⟨foreseen _, ?_⟩
    rw [idle, noted]
    exact kept.same runs idempotency rfl enqueued held
  | failed =>
    rw [respond_failed op input awaits fault]
    exact follows_raised kept (foreseen _) (idle _)
  | unacknowledged =>
    rw [respond_lost op input awaits fault]
    refine ⟨foreseen _, ?_⟩
    rw [idle]
    exact kept.same runs idempotency rfl enqueued held

theorem follows_read (kept : Kept requests records known) {op : CreationOp}
  (input : CreationInput) (awaits : CreationRecords.awaits op = true)
  (reads : (records.answer actor input op).2 = records) (foreseen : Foreseen op (.error .outage))
  (idle : after (known actor) op (.error .outage) = known actor)
  (told : input.fault = .none →
    Follows requests known actor op (records.respond actor input op)) :
  Follows requests known actor op (records.respond actor input op) := by
  cases fault : input.fault with
  | none => exact told fault
  | failed =>
    rw [respond_failed op input awaits fault]
    exact follows_raised kept foreseen idle
  | unacknowledged =>
    rw [respond_lost op input awaits fault, reads]
    exact follows_raised kept foreseen idle

variable {asked : CreateRequest}

theorem follows_find (kept : Kept requests records known) (creates : requests actor = .create asked)
  (here : known actor = { inside := true }) (input : CreationInput) :
  Follows requests known actor
    (.findByIdempotencyKey asked.tenantId asked.sessionId asked.idempotencyKey)
    (records.respond actor input
    (.findByIdempotencyKey asked.tenantId asked.sessionId asked.idempotencyKey)) := by
  have started : known actor = { inside := true, phase := .start } := here
  refine follows_read kept input rfl rfl trivial rfl fun fault => ?_
  rw [respond_answered _ input (.inr fault)]
  dsimp only [CreationRecords.answer]
  unfold CreationRecords.findByIdempotencyKey
  cases recorded : records.idempotency.get?
    (asked.tenantId, asked.sessionId, asked.idempotencyKey) with
  | none =>
    refine ⟨trivial, ?_⟩
    have goes := kept.goes .unrecorded creates started (fun _ => nofun)
      (fun _ => recorded) fun _ => nofun
    rw [here]
    exact goes
  | some runId =>
    obtain ⟨run, stored, session⟩ := kept.indexed _ _ _ _ recorded
    have named : run.runId = runId := congrArg Prod.snd (kept.filed _ run stored)
    have read : records.get asked.tenantId runId = .ok run := by
      unfold CreationRecords.get
      rw [stored]
    dsimp only
    rw [read]
    refine ⟨trivial, ?_⟩
    have queued : (asked.tenantId, run.runId) ∈ records.enqueued := by
      apply kept.enqueued creates (by rw [here]) (by rw [here]; exact fun _ => nofun)
        (named ▸ stored)
      exact Prod.ext rfl session.symm
    have goes := kept.goes (.answered run.runId) creates started (fun _ => nofun)
      ⟨.inl (named ▸ recorded), queued⟩ fun _ => nofun
    change Kept requests records (update known actor
      { known actor with phase := .answered run.runId })
    rw [here]
    exact goes

variable {limit : Nat} {run : Run}

theorem listed_stored (kept : Kept requests records known) {tenantId sessionId : String}
  (listed : run ∈ records.listForSessions tenantId sessionId limit) :
  records.runs.get? (tenantId, run.runId) = some run ∧ run.sessionId = sessionId := by
  have sorted := mem_of_mem_take listed
  rw [mem_insertionSort, mem_filter] at sorted
  obtain ⟨present, session⟩ := sorted
  obtain ⟨⟨key, stored⟩, within, rfl⟩ := mem_map.mp present
  obtain ⟨member, tenant⟩ := mem_filter.mp within
  have found := get?_eq_some.mpr member
  have keyed := kept.filed key stored found
  have first : key.1 = tenantId := of_decide_eq_true tenant
  have named : stored.runId = key.2 := congrArg Prod.snd keyed
  refine ⟨?_, of_decide_eq_true session⟩
  rw [← first, named]
  exact found

theorem duplicate_listed {listed : List Run} {duplicate : Run}
  (answers : asked.duplicate listed = some duplicate) : duplicate ∈ listed := by
  unfold CreateRequest.duplicate at answers
  split at answers
  · exact (mem_filter.mp (mem_of_find?_eq_some answers)).1
  cases answers

theorem follows_list (kept : Kept requests records known) (creates : requests actor = .create asked)
  (here : known actor = { inside := true, phase := .unrecorded }) (input : CreationInput)
  (undisturbed : input.fault = .none → AnsweredAlike records asked limit) :
  Follows requests known actor (.listForSessions asked limit)
    (records.respond actor input (.listForSessions asked limit)) := by
  refine follows_read kept input rfl rfl trivial rfl fun fault => ?_
  have alike := undisturbed fault
  rw [respond_answered _ input (.inr fault)]
  refine ⟨trivial, ?_⟩
  dsimp only [CreationRecords.answer, CreationRecords.noted, after]
  cases answers : asked.duplicate
    (records.listForSessions asked.tenantId asked.sessionId limit) with
  | some duplicate =>
    obtain ⟨stored, session⟩ := listed_stored kept (duplicate_listed answers)
    rw [here]
    apply kept_answer kept creates here stored session
    intro runId found
    obtain ⟨same, again, named⟩ := alike runId found
    cases answers.symm.trans again
    exact named.symm
  | none =>
    have unanswered : records.answered.get? asked.key = none := by
      cases found : records.answered.get? asked.key with
      | none => rfl
      | some runId =>
        obtain ⟨same, again, _⟩ := alike runId found
        cases answers.symm.trans again
    have absent := kept.placed actor asked creates
    rw [here] at absent
    rw [here]
    exact kept.goes .unanswered creates here (fun _ => nofun)
      (fun _ => ⟨absent rfl, unanswered⟩) fun _ => nofun

theorem follows_add (kept : Kept requests records known) (creates : requests actor = .create asked)
  (here : known actor = { inside := true, phase := .unanswered })
  (own : run.idempotency = asked.key) (input : CreationInput)
  (acknowledged : input.fault ≠ .unacknowledged) :
  Follows requests known actor (.add run) (records.respond actor input (.add run)) := by
  cases fault : input.fault with
  | unacknowledged => exact absurd fault acknowledged
  | failed =>
    rw [respond_failed _ input rfl fault]
    exact follows_raised kept trivial rfl
  | none =>
    rw [respond_answered _ input (.inr fault)]
    dsimp only [CreationRecords.answer]
    unfold CreationRecords.add
    by_cases taken : ((records.runs.get? run.key).isSome ||
      (records.idempotency.get? run.idempotency).isSome) = true
    · rw [if_pos taken]
      refine ⟨trivial, ?_⟩
      dsimp only [after, CreationRecords.noted]
      rw [update_eq_self]
      exact kept
    rw [if_neg taken]
    have free := (or_eq_false_iff.mp (not_eq_true _ ▸ taken : ((records.runs.get? run.key).isSome ||
      (records.idempotency.get? run.idempotency).isSome) = false))
    refine ⟨trivial, ?_⟩
    rw [here]
    have added := kept_add kept creates here own (isSome_eq_false_iff.mp free.1 |>
      isNone_iff_eq_none.mp) (by
        rw [← own]
        exact isNone_iff_eq_none.mp (isSome_eq_false_iff.mp free.2))
    rw [← own] at added
    exact added

theorem compareAndSet_answered {now : Nat} {expected status : RunStatus} {current : Run} :
  (records.compareAndSet now expected current status).2.answered = records.answered := by
  unfold CreationRecords.compareAndSet
  split
  · rfl
  split
  · rfl
  rfl

theorem answered (kept : Kept requests records known) (op : CreationOp) (input : CreationInput)
  (admits : Admits (requests actor) (known actor) op) (orderly : Orderly records actor op input) :
  Follows requests known actor op (records.respond actor input op) := by
  cases op with
  | enter session =>
    obtain ⟨outside, asked, creates, rfl⟩ := admits
    rw [respond_answered _ input (.inl rfl)]
    refine ⟨trivial, ?_⟩
    have entered := kept_enter kept creates outside orderly.1
    rw [outside]
    exact entered
  | leave session =>
    obtain ⟨inside, idle, asked, creates, rfl⟩ := admits
    rw [respond_answered _ input (.inl rfl)]
    exact ⟨trivial, kept_leave kept creates inside idle⟩
  | findByIdempotencyKey tenantId sessionId idempotencyKey =>
    obtain ⟨here, asked, creates, rfl, rfl, rfl⟩ := admits
    exact follows_find kept creates here input
  | listForSessions asked limit => exact follows_list kept admits.2 admits.1 input orderly.2
  | add run =>
    obtain ⟨here, asked, creates, own⟩ := admits
    exact follows_add kept creates here own input orderly.2
  | appendQueued run payload =>
    have fine : input.fault = .none := orderly.2
    rw [respond_answered _ input (.inr fine)]
    exact ⟨trivial, kept.same rfl rfl rfl rfl rfl⟩
  | enqueue task =>
    obtain ⟨asked, runId, adding, creates, own⟩ := admits
    have recorded := kept.placed actor asked creates
    rw [adding] at recorded
    have enqueued := kept_enqueue kept creates adding recorded.2 own
    cases fault : input.fault with
    | failed => exact absurd fault orderly.2
    | none =>
      rw [respond_answered _ input (.inr fault)]
      refine ⟨trivial, ?_⟩
      rw [adding]
      exact enqueued
    | unacknowledged =>
      rw [respond_lost _ input rfl fault]
      refine ⟨trivial, ?_⟩
      rw [adding]
      exact enqueued
  | compareAndSet expected current status =>
    have changed := kept_compareAndSet kept admits input.now expected status
    have untouched : (records.compareAndSet input.now expected current status).2.answered =
      records.answered := compareAndSet_answered
    cases fault : input.fault with
    | failed =>
      rw [respond_failed _ input rfl fault]
      exact follows_raised kept trivial rfl
    | none =>
      rw [respond_answered _ input (.inr fault)]
      exact ⟨trivial, changed.same rfl rfl untouched.symm rfl rfl⟩
    | unacknowledged =>
      rw [respond_lost _ input rfl fault]
      exact ⟨trivial, changed.same rfl rfl untouched.symm rfl rfl⟩
  | getRun tenantId runId =>
    refine follows_read kept input rfl rfl trivial rfl fun fault => ?_
    rw [respond_answered _ input (.inr fault)]
    dsimp only [CreationRecords.answer]
    unfold CreationRecords.get
    cases stored : records.runs.get? (tenantId, runId) with
    | none =>
      refine ⟨trivial, ?_⟩
      dsimp only [after, CreationRecords.noted]
      rw [update_eq_self]
      exact kept
    | some run =>
      refine ⟨trivial, ?_⟩
      have keyed := kept.filed _ run stored
      exact kept_read kept admits (by rw [keyed]; exact stored)
  | getSession tenantId sessionId =>
    refine follows_aside kept input rfl ?_ (fun _ => rfl) (fun _ => ?_) fun _ => rfl
    · dsimp only [CreationRecords.answer]
      split
      · exact ⟨rfl, rfl, rfl, rfl⟩
      exact ⟨rfl, rfl, rfl, rfl⟩
    trivial
  | clock | generateId =>
    rw [respond_answered _ input (.inl rfl)]
    exact ⟨trivial, kept.same rfl rfl rfl rfl rfl⟩
  | admitRun | releaseSubject | dequeue | acknowledge | retry =>
    exact follows_aside kept input rfl ⟨rfl, rfl, rfl, rfl⟩ (fun _ => rfl) (fun _ => trivial)
      (fun _ => rfl)

theorem adheres : Pool.Adheres component
  (fun actor => contract (requests actor)) (Kept requests) Orderly := by
  intro records known actor op input kept orderly admits
  obtain ⟨foreseen, later⟩ := answered kept op input admits orderly
  exact ⟨_, ⟨foreseen, rfl⟩, later⟩

end

def Agree (requests : Nat → CreationRequest)
  (pool : Pool CreationOp CreationOp.Answer CreationError Nat CreationRecords
    (Option RunCreation)) : Prop :=
  ∀ actor other asked asked' creation creation', requests actor = .create asked →
    requests other = .create asked' → asked.key = asked'.key →
    pool.thread actor = .done (some creation) → pool.thread other = .done (some creation') →
      creation.run.runId = creation'.run.runId

def Enqueued (requests : Nat → CreationRequest)
  (pool : Pool CreationOp CreationOp.Answer CreationError Nat CreationRecords
    (Option RunCreation)) : Prop :=
  ∀ actor asked creation, requests actor = .create asked →
    pool.thread actor = .done (some creation) → creation.run.status = .queued →
      (asked.tenantId, creation.run.runId) ∈ pool.state.enqueued

theorem creations_orderly (service : RunService) (sessions : List (String × String))
  (requests : Nat → CreationRequest) (schedule : List (Nat × CreationInput))
  (along : (service.start sessions requests).Along component Orderly schedule) :
  Agree requests ((service.start sessions requests).run component schedule) ∧ Enqueued requests
    ((service.start sessions requests).run component schedule) := by
  have empty : Kept requests { sessions := sessions } (fun _ => {}) := by
    constructor
    · intro key run found
      cases found
    · intro tenantId sessionId idempotencyKey runId found
      cases found
    · intro key runId found
      cases found
    · intro actor asked creates inside
      cases inside
    · intro key run found
      cases found
    · exact fun _ _ _ => trivial
    intro actor run reading
    cases reading
  have ready : (service.start sessions requests).Ready (fun actor => contract (requests actor))
    (Kept requests) (fun _ => Returned) (fun _ _ _ => True) (fun _ => {}) :=
    ⟨empty, fun actor => wp_serve (requests actor)⟩
  obtain ⟨known, kept, threads⟩ := run_ready adheres ready schedule along
  have found : ∀ actor asked creation, requests actor = .create asked →
    ((service.start sessions requests).run component schedule).thread actor =
      .done (some creation) →
    (((service.start sessions requests).run
      component schedule).state.idempotency.get? asked.key = some creation.run.runId ∨
      ((service.start sessions requests).run
        component schedule).state.answered.get? asked.key = some creation.run.runId) ∧
    (asked.tenantId, creation.run.runId) ∈ ((service.start sessions requests).run
      component schedule).state.enqueued := by
    intro actor asked creation creates returned
    have ended := threads actor
    rw [returned] at ended
    have phase : (known actor).phase = .answered creation.run.runId := ended creation rfl
    have placed := kept.placed actor asked creates
    unfold Placed at placed
    rw [phase] at placed
    exact placed
  constructor
  · intro actor other asked asked' creation creation' creates creates' same returned returned'
    have first := (found actor asked creation creates returned).1
    have second := (found other asked' creation' creates' returned').1
    rw [← same] at second
    rcases first with recorded | answered
    · rcases second with recorded' | answered'
      · exact some.inj (recorded.symm.trans recorded')
      cases recorded.symm.trans (kept.apart _ _ answered')
    rcases second with recorded' | answered'
    · cases recorded'.symm.trans (kept.apart _ _ answered)
    exact some.inj (answered.symm.trans answered')
  exact fun actor asked creation creates returned _ =>
    (found actor asked creation creates returned).2

section

def question (idempotencyKey : String) : CreateRequest where
  tenantId := "acme"
  sessionId := "session-1"
  idempotencyKey
  input := { prompt := some "report" }

def repeated : Nat → CreationRequest
  | 0 => .create (question "client-1")
  | 1 => .create (question "client-2")
  | 2 => .transition "acme" "run-1" .succeeded
  | 3 => .create (question "client-2")
  | _ => .dequeue

def inTurn (counts : List (Nat × Nat × String)) : List (Nat × CreationInput) :=
  counts.flatMap fun entry => List.replicate entry.2.1 (entry.1, { newId := entry.2.2 })

def repeatedSchedule : List (Nat × CreationInput) :=
  inTurn [(0, 10, "run-1"), (1, 5, ""), (2, 2, ""), (3, 10, "run-2")]

def brokenOff : Nat → CreationRequest
  | 0 => .create (question "client-1")
  | 1 => .create (question "client-1")
  | _ => .dequeue

def brokenOffSchedule : List (Nat × CreationInput) :=
  inTurn [(0, 7, "run-1")] ++ [(0, { fault := .failed })] ++ inTurn [(0, 1, ""), (1, 4, "")]

def sessions : List (String × String) := [("acme", "session-1")]

/-- The second key leads to two Runs, and the Run of a creation that broke off is returned
without ever being queued. -/
theorem creations_differ : (¬∀ (service : RunService) (sessions : List (String × String))
  (requests : Nat → CreationRequest) (schedule : List (Nat × CreationInput)),
  (service.start sessions requests).Along component Unheld schedule → Agree requests
  ((service.start sessions requests).run component schedule)) ∧
  ¬∀ (service : RunService) (sessions : List (String × String))
  (requests : Nat → CreationRequest) (schedule : List (Nat × CreationInput)),
  (service.start sessions requests).Along component Unheld schedule → Enqueued requests
  ((service.start sessions requests).run component schedule) := by
  constructor
  · intro agree
    have same := agree {} sessions repeated repeatedSchedule (by decide +kernel) 1 3
      (question "client-2") (question "client-2") _ _ rfl rfl rfl rfl rfl
    exact absurd same (by decide +kernel)
  intro enqueued
  have queued := enqueued {} sessions brokenOff brokenOffSchedule (by decide +kernel) 1
    (question "client-1") _ rfl rfl rfl
  exact absurd queued (by decide +kernel)

def recurring : Nat → CreationRequest
  | 0 => .create (question "client-1")
  | 1 => .create (question "client-1")
  | 2 => .transition "acme" "run-1" .succeeded
  | 3 => .create (question "client-1")
  | _ => .dequeue

theorem creations_recur :
  let schedule := inTurn [(0, 10, "run-1"), (1, 4, ""), (2, 2, ""), (3, 4, "")]
  Agree recurring ((({} : RunService).start sessions recurring).run
      component schedule) ∧
    Enqueued recurring ((({} : RunService).start sessions recurring).run
      component schedule) :=
  creations_orderly {} sessions recurring
    (inTurn [(0, 10, "run-1"), (1, 4, ""), (2, 2, ""), (3, 4, "")]) (by decide +kernel)

end

end AgentHarness.Creation
