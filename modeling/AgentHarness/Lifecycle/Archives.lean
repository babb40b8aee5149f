import AgentHarness.Lifecycle.Passes

/-!
An export that succeeded has its archive, and the archive has what every declared adapter handed
out in the last attempt.
-/

namespace AgentHarness.Lifecycle

open Collections Interaction Text Dict Function List Pool ExportStore
open InMemoryDataLifecycleRepository Option

namespace Exporter

def Generated (exporter : Exporter) (store : ExportStore) (id : String) : Prop :=
  ∃ count < store.base.generated, id = exporter.idGenerator "lifecycle" count

structure Kept (exporter : Exporter) (calm : Prop) (origin store : ExportStore)
    (known : Nat → Progress) : Prop where
  filed : ∀ key job, store.base.repository.jobs.get? key = some job →
    job.key = key ∧ exporter.WellFormed job ∧ exporter.Generated store job.jobId
  drawn : ∀ actor id, (known actor).drawn = some id → exporter.Generated store id ∧
    ∀ key job, store.base.repository.jobs.get? key = some job → job.jobId ≠ id
  apart : ∀ actor other id, (known actor).drawn = some id → (known other).drawn = some id →
    actor = other
  read : ∀ actor job, (known actor).read = some job →
    ∃ current, store.base.repository.jobs.get? job.key = some current ∧
      (current = job ∨ job.fencingToken < current.fencingToken)
  claimed : ∀ actor job, (known actor).claimed = some job →
    store.base.repository.jobs.get? job.key = some job ∧ job.status = .running ∧
      store.attempts.get? job.key = some { pass := actor, exported := (known actor).exported }
  attended : calm → ∀ key job, store.base.repository.jobs.get? key = some job →
    job.status = .running → ∃ actor, (known actor).claimed = some job
  archived : ∀ actor job archive, (known actor).claimed = some job →
    (known actor).archived = some archive →
      store.archives.get? (job.tenantId, objectId job.jobId) = some archive
  complete : ∀ key job, store.base.repository.jobs.get? key = some job → job.kind = .export →
    job.status = .succeeded → exporter.Complete store job
  retained : ∀ key old, origin.base.repository.jobs.get? key = some old →
    ∃ job, store.base.repository.jobs.get? key = some job ∧ Keeps old job

structure Forgets (calm : Prop) (later known : Progress) : Prop where
  drawn : ∀ id, later.drawn = some id → known.drawn = some id
  read : ∀ job, later.read = some job → known.read = some job
  claimed : ∀ job, later.claimed = some job →
    known.claimed = some job ∧ later.exported = known.exported
  attends : calm → later.claimed = known.claimed
  archived : ∀ archive, later.archived = some archive → known.archived = some archive

section

variable {exporter : Exporter} {calm : Prop} {origin store later : ExportStore}
  {known known' : Nat → Progress} {actor : Nat} {progress : Progress} {job : DataLifecycleJob}

theorem forgets_same (known : Progress) : Forgets calm known known :=
  ⟨fun _ => id, fun _ => id, fun _ same => ⟨same, rfl⟩, fun _ => rfl, fun _ => id⟩

theorem forgets_all {known : Progress} (idle : calm → known.claimed = none) :
  Forgets calm {} known := by
  constructor
  · intro id drawn
    cases drawn
  · intro job read
    cases read
  · intro job claimed
    cases claimed
  · exact fun calm => (idle calm).symm
  intro archive archived
  cases archived

section

variable (kept : exporter.Kept calm origin store known)

include kept

theorem Kept.adjusts (jobs : later.base.repository.jobs = store.base.repository.jobs)
  (generated : store.base.generated ≤ later.base.generated)
  (drawn : ∀ actor id, (known' actor).drawn = some id → (known actor).drawn = some id)
  (read : ∀ actor job, (known' actor).read = some job → (known actor).read = some job ∨
    store.base.repository.jobs.get? job.key = some job)
  (claimed : ∀ actor job, (known' actor).claimed = some job →
    (known actor).claimed = some job ∧ later.attempts.get? job.key =
    some { pass := actor, exported := (known' actor).exported })
  (attends : calm → ∀ actor, (known' actor).claimed = (known actor).claimed)
  (archived : ∀ actor job archive, (known actor).claimed = some job →
    (known' actor).archived = some archive →
    later.archives.get? (job.tenantId, objectId job.jobId) = some archive)
  (complete : ∀ key job, store.base.repository.jobs.get? key = some job → job.kind = .export →
    job.status = .succeeded → exporter.Complete later job) :
  exporter.Kept calm origin later known' := by
  have grows : ∀ id, exporter.Generated store id → exporter.Generated later id := by
    rintro id ⟨count, below, same⟩
    exact ⟨count, Nat.lt_of_lt_of_le below generated, same⟩
  constructor
  · intro key job found
    rw [jobs] at found
    obtain ⟨keyed, wellFormed, used⟩ := kept.filed key job found
    exact ⟨keyed, wellFormed, grows _ used⟩
  · intro actor id drew
    obtain ⟨used, fresh⟩ := kept.drawn actor id (drawn actor id drew)
    rw [jobs]
    exact ⟨grows _ used, fresh⟩
  · intro actor other id drew drew'
    exact kept.apart actor other id (drawn actor id drew) (drawn other id drew')
  · intro actor job seen
    rw [jobs]
    rcases read actor job seen with before | stored
    · exact kept.read actor job before
    exact ⟨job, stored, .inl rfl⟩
  · intro actor job claiming
    obtain ⟨before, attempt⟩ := claimed actor job claiming
    obtain ⟨stored, running, _⟩ := kept.claimed actor job before
    rw [jobs]
    exact ⟨stored, running, attempt⟩
  · intro calm key job found running
    rw [jobs] at found
    obtain ⟨actor, claiming⟩ := kept.attended calm key job found running
    exact ⟨actor, by rw [attends calm, claiming]⟩
  · intro actor job archive claiming
    exact archived actor job archive (claimed actor job claiming).1
  · intro key job found
    rw [jobs] at found
    exact complete key job found
  rw [jobs]
  exact kept.retained

theorem Kept.weaken (jobs : later.base.repository.jobs = store.base.repository.jobs)
  (generated : store.base.generated ≤ later.base.generated)
  (archives : later.archives = store.archives) (attempts : later.attempts = store.attempts)
  (forgets : ∀ actor, Forgets calm (known' actor) (known actor)) :
  exporter.Kept calm origin later known' := by
  apply kept.adjusts jobs generated (fun actor => (forgets actor).drawn)
    (fun actor job read => .inl ((forgets actor).read job read)) _ fun calm actor => (forgets actor).attends calm
  · intro actor job archive claimed archived
    rw [archives]
    exact kept.archived actor job archive claimed ((forgets actor).archived archive archived)
  · intro key job found isExport succeeded
    obtain ⟨attempt, archive, last, stored, holds⟩ := kept.complete key job found isExport succeeded
    exact ⟨attempt, archive, by rw [attempts, last], by rw [archives, stored], holds⟩
  intro actor job claimed
  obtain ⟨claimed, exported⟩ := (forgets actor).claimed job claimed
  rw [attempts, exported]
  exact ⟨claimed, (kept.claimed actor job claimed).2.2⟩

theorem Kept.forgets (jobs : later.base.repository.jobs = store.base.repository.jobs)
  (generated : store.base.generated ≤ later.base.generated)
  (archives : later.archives = store.archives) (attempts : later.attempts = store.attempts)
  (forgets : Forgets calm progress (known actor)) :
  exporter.Kept calm origin later (update known actor progress) := by
  apply kept.weaken jobs generated archives attempts
  intro other
  rcases update_cases known actor progress other with ⟨same, now⟩ | ⟨_, now⟩
  · rw [now, same]
    exact forgets
  rw [now]
  exact forgets_same _

end

theorem Kept.revises (kept : exporter.Kept calm origin store (update known actor progress))
  {revised : Progress} (forgets : Forgets calm revised progress) :
  exporter.Kept calm origin store (update known actor revised) := by
  apply kept.weaken rfl (Nat.le_refl _) rfl rfl
  intro other
  rcases update_cases known actor revised other with ⟨rfl, now⟩ | ⟨distinct, now⟩
  · rw [now, update_self]
    exact forgets
  rw [now, update_of_ne distinct]
  exact forgets_same _

theorem update_field (known : Nat → Progress) (actor : Nat) (progress : Progress) {β : Type}
  (field : Progress → β) (same : field progress = field (known actor)) (other : Nat) :
  field (update known actor progress other) = field (known other) := by
  rcases update_cases known actor progress other with ⟨rfl, now⟩ | ⟨_, now⟩
  · rw [now, same]
  rw [now]

theorem Kept.reads (kept : exporter.Kept calm origin store known)
  (jobs : later.base.repository.jobs = store.base.repository.jobs)
  (generated : later.base.generated = store.base.generated)
  (archives : later.archives = store.archives) (attempts : later.attempts = store.attempts)
  {seen : Option DataLifecycleJob}
  (stored : ∀ job, seen = some job → store.base.repository.jobs.get? job.key = some job) :
  exporter.Kept calm origin later
    (update known actor { known actor with read := seen }) := by
  have alike {β : Type} (field : Progress → β) :=
    update_field known actor { known actor with read := seen } field
  apply kept.adjusts jobs (Nat.le_of_eq generated.symm)
  · intro other id drawn
    rwa [alike Progress.drawn rfl] at drawn
  · intro other job read
    rcases update_cases known actor { known actor with read := seen } other with
      ⟨_, now⟩ | ⟨_, now⟩
    · rw [now] at read
      exact .inr (stored job read)
    rw [now] at read
    exact .inl read
  · intro other job claimed
    rw [alike Progress.claimed rfl] at claimed
    rw [alike Progress.exported rfl, attempts]
    exact ⟨claimed, (kept.claimed other job claimed).2.2⟩
  · exact fun _ other => alike Progress.claimed rfl other
  · intro other job archive claimed archived
    rw [alike Progress.archived rfl] at archived
    rw [archives]
    exact kept.archived other job archive claimed archived
  intro key job found isExport succeeded
  obtain ⟨attempt, archive, last, placed, holds⟩ := kept.complete key job found isExport succeeded
  exact ⟨attempt, archive, by rw [attempts, last], by rw [archives, placed], holds⟩

variable {current : DataLifecycleJob}

section

variable (kept : exporter.Kept calm origin store known)

include kept

theorem Kept.alone {other : Nat} {current' : DataLifecycleJob}
  (claimed : (known actor).claimed = some current)
  (claimed' : (known other).claimed = some current') (same : current'.key = current.key) :
  other = actor := by
  have own := (kept.claimed actor current claimed).2.2
  have others := (kept.claimed other current' claimed').2.2
  rw [same, own] at others
  exact (congrArg Attempt.pass (some.inj others)).symm

theorem Kept.files (jobs : later.base.repository.jobs = store.base.repository.jobs.set job.key job)
  (generated : later.base.generated = store.base.generated)
  (archives : later.archives = store.archives)
  (attempts : ∀ key, key ≠ job.key → later.attempts.get? key = store.attempts.get? key)
  (wellFormed : exporter.WellFormed job) (used : exporter.Generated store job.jobId)
  (replaces : ∀ current, store.base.repository.jobs.get? job.key = some current →
    Keeps current job ∧ current.fencingToken < job.fencingToken)
  (unclaimed : ∀ other current, other ≠ actor → (known other).claimed = some current →
    current.key ≠ job.key)
  (unused : ∀ other, other ≠ actor → (known other).drawn ≠ some job.jobId)
  (forgotten : progress.drawn = none)
  (remembered : ∀ seen, progress.read = some seen → (known actor).read = some seen)
  (claimed : ∀ current, progress.claimed = some current → current = job ∧ job.status = .running ∧
    later.attempts.get? job.key = some { pass := actor, exported := progress.exported } ∧
    ∀ archive, progress.archived = some archive →
    store.archives.get? (job.tenantId, objectId job.jobId) = some archive)
  (own : ∀ held, (known actor).claimed = some held → held.key = job.key)
  (attends : calm → job.status = .running → progress.claimed = some job)
  (complete : job.kind = .export → job.status = .succeeded → exporter.Complete later job) :
  exporter.Kept calm origin later (update known actor progress) := by
  have stays : ∀ id, exporter.Generated store id → exporter.Generated later id := by
    rintro id ⟨count, below, same⟩
    exact ⟨count, by rw [generated]; exact below, same⟩
  have found_cases : ∀ key filed, later.base.repository.jobs.get? key = some filed →
    filed = job ∧ key = job.key ∨
      key ≠ job.key ∧ store.base.repository.jobs.get? key = some filed := by
    intro key filed found
    rw [jobs, get?_set] at found
    by_cases same : key = job.key
    · rw [if_pos same] at found
      exact .inl ⟨(some.inj found).symm, same⟩
    rw [if_neg same] at found
    exact .inr ⟨same, found⟩
  have drawn_before : ∀ other id, (update known actor progress other).drawn = some id →
        other ≠ actor ∧ (known other).drawn = some id := by
    intro other id drawn
    rcases update_cases known actor progress other with ⟨_, now⟩ | ⟨distinct, now⟩
    · rw [now, forgotten] at drawn
      cases drawn
    rw [now] at drawn
    exact ⟨distinct, drawn⟩
  constructor
  · intro key filed found
    rcases found_cases key filed found with ⟨rfl, rfl⟩ | ⟨_, old⟩
    · exact ⟨rfl, wellFormed, stays _ used⟩
    obtain ⟨keyed, sound, before⟩ := kept.filed key filed old
    exact ⟨keyed, sound, stays _ before⟩
  · intro other id drew
    obtain ⟨distinct, drawn⟩ := drawn_before other id drew
    obtain ⟨before, fresh⟩ := kept.drawn other id drawn
    refine ⟨stays _ before, ?_⟩
    intro key filed found
    rcases found_cases key filed found with ⟨rfl, _⟩ | ⟨_, old⟩
    · exact fun same => unused other distinct (same ▸ drawn)
    exact fresh key filed old
  · intro first second id drew drew'
    exact kept.apart first second id (drawn_before first id drew).2
      (drawn_before second id drew').2
  · intro other seen read
    have before : (known other).read = some seen := by
      rcases update_cases known actor progress other with ⟨same, now⟩ | ⟨_, now⟩
      · rw [now] at read
        rw [same]
        exact remembered seen read
      rwa [now] at read
    obtain ⟨current, found, newest⟩ := kept.read other seen before
    rw [jobs, get?_set]
    by_cases same : seen.key = job.key
    · rw [if_pos same]
      rw [same] at found
      have grown := (replaces current found).2
      refine ⟨job, rfl, .inr ?_⟩
      rcases newest with rfl | older
      · exact grown
      exact Nat.lt_trans older grown
    rw [if_neg same]
    exact ⟨current, found, newest⟩
  · intro other current holding
    rcases update_cases known actor progress other with ⟨same, now⟩ | ⟨distinct, now⟩
    · rw [now] at holding
      obtain ⟨rfl, running, attempt, _⟩ := claimed current holding
      rw [now, same, jobs, get?_set_self]
      exact ⟨rfl, running, attempt⟩
    rw [now] at holding
    have foreign := unclaimed other current distinct holding
    rw [now, jobs, get?_set_other _ _ foreign, attempts _ foreign]
    exact kept.claimed other current holding
  · intro calm key filed found running
    rcases found_cases key filed found with ⟨rfl, _⟩ | ⟨foreign, old⟩
    · exact ⟨actor, by rw [update_self]; exact attends calm running⟩
    obtain ⟨other, holding⟩ := kept.attended calm key filed old running
    refine ⟨other, ?_⟩
    rw [update_of_ne, holding]
    rintro rfl
    exact foreign ((kept.filed key filed old).1.symm.trans (own filed holding))
  · intro other current archive holding archived
    rw [archives]
    rcases update_cases known actor progress other with ⟨_, now⟩ | ⟨_, now⟩
    · rw [now] at holding archived
      obtain ⟨rfl, _, _, stored⟩ := claimed current holding
      exact stored archive archived
    rw [now] at holding archived
    exact kept.archived other current archive holding archived
  · intro key filed found isExport succeeded
    rcases found_cases key filed found with ⟨rfl, _⟩ | ⟨distinct, old⟩
    · exact complete isExport succeeded
    obtain ⟨attempt, archive, last, stored, holds⟩ := kept.complete key filed old isExport succeeded
    have keyed := (kept.filed key filed old).1
    refine ⟨attempt, archive, ?_, by rw [archives, stored], holds⟩
    rw [attempts _ (by rw [keyed]; exact distinct), last]
  intro key old before
  obtain ⟨current, found, keeps⟩ := kept.retained key old before
  rw [jobs, get?_set]
  by_cases same : key = job.key
  · rw [if_pos same]
    rw [same] at found
    have later := (replaces current found).1
    refine ⟨job, rfl, later.key.trans keeps.key, later.kind.trans keeps.kind, ?_⟩
    intro notExport item member succeeded
    refine later.marks notExport item ?_ succeeded
    exact keeps.marks (later.kind ▸ notExport) item member succeeded
  rw [if_neg same]
  exact ⟨current, found, keeps⟩

theorem Kept.draws (jobs : later.base.repository.jobs = store.base.repository.jobs)
  (generated : later.base.generated = store.base.generated + 1)
  (archives : later.archives = store.archives) (attempts : later.attempts = store.attempts) :
  exporter.Kept calm origin later (update known actor { known actor with
    drawn := some (exporter.idGenerator "lifecycle" store.base.generated) }) := by
  have unseen : ¬exporter.Generated store
    (exporter.idGenerator "lifecycle" store.base.generated) := by
    rintro ⟨count, below, same⟩
    exact absurd (exporter.distinctIds same) (Nat.ne_of_gt below)
  -- But for the id drawn everything is as it was.
  have forgot : exporter.Kept calm origin later
      (update known actor { known actor with drawn := none }) := by
    apply kept.forgets jobs (by rw [generated]; exact Nat.le_succ _) archives attempts
    exact ⟨fun _ drawn => (nomatch drawn), fun _ => id, fun _ same => ⟨same, rfl⟩,
      fun _ => rfl, fun _ => id⟩
  have now : exporter.Generated later
    (exporter.idGenerator "lifecycle" store.base.generated) :=
    ⟨store.base.generated, by rw [generated]; exact Nat.lt_succ_self _, rfl⟩
  have drawn_cases : ∀ other id, (update known actor { known actor with
      drawn := some (exporter.idGenerator "lifecycle" store.base.generated) } other).drawn =
        some id → other = actor ∧ id = exporter.idGenerator "lifecycle" store.base.generated ∨
          other ≠ actor ∧ (known other).drawn = some id := by
    intro other id drawn
    rcases update_cases known actor _ other with ⟨same, told⟩ | ⟨distinct, told⟩
    · rw [told] at drawn
      exact .inl ⟨same, (some.inj drawn).symm⟩
    rw [told] at drawn
    exact .inr ⟨distinct, drawn⟩
  have alike : ∀ {β : Type} (field : Progress → β), (∀ (progress : Progress) drawn,
      field { progress with drawn } = field progress) → ∀ other,
        field (update known actor { known actor with
          drawn := some (exporter.idGenerator "lifecycle" store.base.generated) } other) =
        field (update known actor { known actor with drawn := none } other) := by
    intro β field blind other
    rw [update_field known actor _ field (blind _ _), update_field known actor _ field (blind _ _)]
  refine ⟨forgot.filed, ?_, ?_, ?_, ?_, ?_, ?_, forgot.complete, forgot.retained⟩
  · intro other id drawn
    rcases drawn_cases other id drawn with ⟨_, rfl⟩ | ⟨_, before⟩
    · refine ⟨now, ?_⟩
      rw [jobs]
      intro key job found same
      exact unseen (same ▸ (kept.filed key job found).2.2)
    obtain ⟨⟨count, below, same⟩, fresh⟩ := kept.drawn other id before
    rw [jobs]
    exact ⟨⟨count, by rw [generated]; exact Nat.lt_succ_of_lt below, same⟩, fresh⟩
  · intro first second id drawn drawn'
    rcases drawn_cases first id drawn with ⟨own, new⟩ | ⟨_, old⟩
    · rcases drawn_cases second id drawn' with ⟨own', _⟩ | ⟨_, old'⟩
      · exact own.trans own'.symm
      exact absurd (new ▸ (kept.drawn second id old').1) unseen
    rcases drawn_cases second id drawn' with ⟨_, new'⟩ | ⟨_, old'⟩
    · exact absurd (new' ▸ (kept.drawn first id old).1) unseen
    exact kept.apart first second id old old'
  · intro other
    rw [alike Progress.read fun _ _ => rfl]
    exact forgot.read other
  · intro other
    rw [alike Progress.claimed (fun _ _ => rfl), alike Progress.exported fun _ _ => rfl]
    exact forgot.claimed other
  · intro calm key job found running
    obtain ⟨other, claiming⟩ := forgot.attended calm key job found running
    exact ⟨other, by rw [alike Progress.claimed (fun _ _ => rfl), claiming]⟩
  intro other
  rw [alike Progress.claimed (fun _ _ => rfl), alike Progress.archived fun _ _ => rfl]
  exact forgot.archived other

theorem Kept.hands (claimed : (known actor).claimed = some current) (entry : String × Json)
  (base : later.base = store.base) (archives : later.archives = store.archives)
  (attempts : later.attempts = store.attempts.set current.key
    { pass := actor, exported := (known actor).exported ++ [entry] }) :
  exporter.Kept calm origin later (update known actor
    { known actor with exported := (known actor).exported ++ [entry] }) := by
  obtain ⟨filed, running, _⟩ := kept.claimed actor current claimed
  have elsewhere : ∀ key, key ≠ current.key →
    later.attempts.get? key = store.attempts.get? key := by
    intro key distinct
    rw [attempts, get?_set_other _ _ distinct]
  have alike {β : Type} (field : Progress → β) :=
    update_field known actor { known actor with exported := (known actor).exported ++ [entry] } field
  apply kept.adjusts (by rw [base]) (by rw [base])
  · intro other id drawn
    rwa [alike Progress.drawn rfl] at drawn
  · intro other job read
    rw [alike Progress.read rfl] at read
    exact .inl read
  · intro other job claiming
    rw [alike Progress.claimed rfl] at claiming
    refine ⟨claiming, ?_⟩
    rcases update_cases known actor _ other with ⟨same, told⟩ | ⟨distinct, told⟩
    · rw [told]
      rw [same] at claiming
      cases claimed.symm.trans claiming
      rw [attempts, get?_set_self, same]
    rw [told, elsewhere _ fun shared => distinct (kept.alone claimed claiming shared)]
    exact (kept.claimed other job claiming).2.2
  · exact fun _ other => alike Progress.claimed rfl other
  · intro other job archive claiming archived
    rw [alike Progress.archived rfl] at archived
    rw [archives]
    exact kept.archived other job archive claiming archived
  intro key job found isExport succeeded
  obtain ⟨attempt, archive, last, stored, holds⟩ := kept.complete key job found isExport succeeded
  refine ⟨attempt, archive, ?_, by rw [archives, stored], holds⟩
  rw [elsewhere, last]
  intro shared
  rw [← (kept.filed key job found).1, shared, filed] at found
  cases found
  rw [running] at succeeded
  cases succeeded

end

theorem objectId_injective {id other : String} (same : objectId id = objectId other) :
  id = other := (String.append_right_inj _).mp same

theorem Kept.puts (kept : exporter.Kept calm origin store known)
  (claimed : (known actor).claimed = some current) (archive : ExportArchive)
  (base : later.base = store.base) (attempts : later.attempts = store.attempts)
  (archives : later.archives =
    store.archives.set (current.tenantId, objectId current.jobId) archive) :
  exporter.Kept calm origin later (update known actor
    { known actor with archived := some archive }) := by
  obtain ⟨filed, running, _⟩ := kept.claimed actor current claimed
  have elsewhere : ∀ job : DataLifecycleJob, job.key ≠ current.key →
    later.archives.get? (job.tenantId, objectId job.jobId) =
      store.archives.get? (job.tenantId, objectId job.jobId) := by
    intro job foreign
    rw [archives, get?_set_other]
    intro shared
    obtain ⟨tenant, object⟩ := Prod.mk.inj shared
    exact foreign (Prod.ext tenant (objectId_injective object))
  have alike {β : Type} (field : Progress → β) :=
    update_field known actor { known actor with archived := some archive } field
  apply kept.adjusts (by rw [base]) (by rw [base])
  · intro other id drawn
    rwa [alike Progress.drawn rfl] at drawn
  · intro other job read
    rw [alike Progress.read rfl] at read
    exact .inl read
  · intro other job claiming
    rw [alike Progress.claimed rfl] at claiming
    rw [alike Progress.exported rfl, attempts]
    exact ⟨claiming, (kept.claimed other job claiming).2.2⟩
  · exact fun _ other => alike Progress.claimed rfl other
  · intro other job stored claiming archived
    rcases update_cases known actor _ other with ⟨same, told⟩ | ⟨distinct, told⟩
    · rw [told] at archived
      rw [same] at claiming
      cases claimed.symm.trans claiming
      cases archived
      rw [archives, get?_set_self]
    rw [told] at archived
    rw [elsewhere _ fun shared => distinct (kept.alone claimed claiming shared)]
    exact kept.archived other job stored claiming archived
  intro key job found isExport succeeded
  obtain ⟨attempt, stored, last, placed, holds⟩ := kept.complete key job found isExport succeeded
  refine ⟨attempt, stored, by rw [attempts, last], ?_, holds⟩
  rw [elsewhere, placed]
  intro shared
  rw [← (kept.filed key job found).1, shared, filed] at found
  cases found
  rw [running] at succeeded
  cases succeeded

end

variable (repository : InMemoryDataLifecycleRepository)

theorem compareAndSet_cases (expected : LifecycleJobStatus) (job : DataLifecycleJob) :
  repository.compareAndSet expected job = (false, repository) ∧
    (∀ current, repository.jobs.get? job.key = some current → current.status = expected →
    current.fencingToken + 1 ≠ job.fencingToken) ∨
    ∃ current, repository.jobs.get? job.key = some current ∧ current.status = expected ∧
    current.fencingToken + 1 = job.fencingToken ∧ repository.compareAndSet expected job =
    (true, { repository with jobs := repository.jobs.set job.key job }) := by
  unfold InMemoryDataLifecycleRepository.compareAndSet
  dsimp only
  cases found : repository.jobs.get? (job.tenantId, job.jobId) with
  | none =>
    refine .inl ⟨rfl, fun current stored => ?_⟩
    cases found.symm.trans stored
  | some current =>
    by_cases refused :
      current.status ≠ expected ∨ current.fencingToken + 1 ≠ job.fencingToken
    · refine .inl ⟨if_pos refused, fun filed stored expects => ?_⟩
      cases found.symm.trans stored
      exact refused.resolve_left fun other => other expects
    exact .inr ⟨current, found, not_not.mp fun other => refused (.inl other),
      not_not.mp fun other => refused (.inr other), if_neg refused⟩

theorem addJob_cases (job : DataLifecycleJob) : (repository.addJob job).2 = repository ∨
    (repository.addJob job).2.jobs = repository.jobs.set job.key job := by
  unfold InMemoryDataLifecycleRepository.addJob
  dsimp only
  split
  · split
    · exact .inl rfl
    exact .inl rfl
  exact .inr rfl

def Quiet : LifecycleOp → Prop
  | .generateId _ | .addJob _ | .getJob _ _ | .listRunnable _ | .compareAndSet _ _
  | .adapterExport _ _ | .putExport _ _ => False
  | _ => True

def AtWork (store : ExportStore) (actor : Nat) : Prop :=
  ∃ key job attempt, store.base.repository.jobs.get? key = some job ∧ job.status = .running ∧
    store.attempts.get? key = some attempt ∧ attempt.pass = actor

/-- No pass loses the answer to its claim, or meets an outage when it looks for holds or records a
result; the last record of a job may be lost once it is made. -/
def Undisturbed (store : ExportStore) (actor : Nat) : ExportOp → ExportInput → Prop
  | .lifecycle (.compareAndSet .queued job), input =>
    input.outage = none ∨ input.applied = false ∨
      (store.base.repository.compareAndSet .queued job).1 = false
  | .lifecycle (.compareAndSet .running job), input =>
    input.outage = none ∨ input.applied = true ∧ job.status ≠ .running
  | .lifecycle (.resolveScopes _ _), input | .lifecycle (.listHolds _), input =>
    AtWork store actor → input.outage = none
  | _, _ => True

section

variable {exporter : Exporter} {calm : Prop} {origin store : ExportStore} {known : Nat → Progress}
  {actor : Nat} {op : LifecycleOp} {job : DataLifecycleJob}

theorem quiet_answer (exporter : Exporter) (actor : Nat) (quiet : Quiet op)
  (input : LifecycleInput) (base : LifecycleStore) :
  (exporter.toDataLifecycle.answer actor input base op).2.repository.jobs = base.repository.jobs ∧
    (exporter.toDataLifecycle.answer actor input base op).2.generated = base.generated := by
  cases op with
  | generateId | addJob | getJob | listRunnable | compareAndSet | adapterExport | putExport =>
    cases quiet
  | addHold hold =>
    dsimp only [DataLifecycle.answer]
    rcases base.repository.addHold_cases hold with same | ⟨_, same⟩
    · rw [same]
      exact ⟨rfl, rfl⟩
    rw [same]
    exact ⟨rfl, rfl⟩
  | updateHold hold =>
    dsimp only [DataLifecycle.answer]
    rcases base.repository.updateHold_cases hold with same | same
    · rw [same]
      exact ⟨rfl, rfl⟩
    rw [same]
    exact ⟨rfl, rfl⟩
  | adapterDelete adapter job =>
    dsimp only [DataLifecycle.answer]
    split
    · exact ⟨rfl, rfl⟩
    split
    · exact ⟨rfl, rfl⟩
    exact ⟨rfl, rfl⟩
  | _ => exact ⟨rfl, rfl⟩

theorem quiet_after (quiet : Quiet op) (known : Progress)
  (reply : Except LifecycleError op.Answer) : after known (.lifecycle op) reply = known := by
  cases op with
  | generateId | addJob | getJob | listRunnable | compareAndSet | adapterExport | putExport =>
    cases quiet
  | _ =>
    cases reply with
    | ok value | error error => rfl

theorem noted_error (attempts : Dict (String × String) Attempt) (op : ExportOp)
  (error : LifecycleError) :
  noted actor attempts op (.error error) = attempts := by
  cases op with
  | lifecycle op =>
    cases op with
    | compareAndSet expected job =>
      cases expected with
      | _ => rfl
    | _ => rfl
  | «export» adapter job => rfl
  | put tenantId id archive => rfl

theorem quiet_noted (quiet : Quiet op) (attempts : Dict (String × String) Attempt)
  (reply : Except LifecycleError op.Answer) :
  noted actor attempts (.lifecycle op) reply = attempts := by
  cases op with
  | generateId | addJob | getJob | listRunnable | compareAndSet | adapterExport | putExport =>
    cases quiet
  | _ => rfl

theorem foreseen_outage (op : ExportOp) (type : String)
  (looks : ∀ tenantId scope, op = .lifecycle (.resolveScopes tenantId scope) ∨
    op = .lifecycle (.listHolds tenantId) → calm → (known actor).claimed = none) :
  exporter.Foreseen calm (known actor) op (.error (.outage type)) := by
  cases op with
  | lifecycle op =>
    cases op with
    | listRunnable | compareAndSet => exact nofun
    | resolveScopes tenantId scope => exact ⟨nofun, looks tenantId scope (.inl rfl)⟩
    | listHolds tenantId =>
      exact ⟨nofun, looks tenantId { kind := .tenant, subjectId := "" } (.inr rfl)⟩
    | _ => trivial
  | «export» adapter job => trivial
  | put tenantId id archive => trivial

theorem respond_cases (lifecycle : DataLifecycle) (actor : Nat) (input : LifecycleInput)
  (base : LifecycleStore) (op : LifecycleOp) :
  let effect := lifecycle.answer actor input base op
  let reply := lifecycle.respond actor input base op
  (input.outage = none ∧ reply.1 = effect.1 ∧ reply.2.repository = effect.2.repository ∧
      reply.2.generated = effect.2.generated) ∨
    (∃ type, input.outage = some type ∧ reply.1 = .error (.outage type) ∧
      (input.applied = true ∧ reply.2.repository = effect.2.repository ∧
          reply.2.generated = effect.2.generated ∨
        input.applied = false ∧ reply.2.repository = base.repository ∧
          reply.2.generated = base.generated)) := by
  intro effect reply
  dsimp only [reply, DataLifecycle.respond]
  cases input.outage with
  | none => exact .inl ⟨rfl, rfl, rfl, rfl⟩
  | some type =>
    refine .inr ⟨type, rfl, rfl, ?_⟩
    cases input.applied with
    | true => exact .inl ⟨rfl, rfl, rfl⟩
    | false => exact .inr ⟨rfl, rfl, rfl⟩

variable {later : ExportStore}

section

variable (kept : exporter.Kept calm origin store known)

include kept

theorem files_addJob (admits : exporter.Admits (known actor) (.lifecycle (.addJob job)))
  (repository : later.base.repository = (store.base.repository.addJob job).2)
  (generated : later.base.generated = store.base.generated)
  (archives : later.archives = store.archives) (attempts : later.attempts = store.attempts) :
  exporter.Kept calm origin later (update known actor {}) := by
  obtain ⟨wellFormed, queued, drawn, unclaimed⟩ := admits
  obtain ⟨used, fresh⟩ := kept.drawn actor job.jobId drawn
  rcases addJob_cases store.base.repository job with same | stored
  · exact kept.forgets (by rw [repository, same]) (Nat.le_of_eq generated.symm) archives attempts
      (forgets_all fun _ => unclaimed)
  apply kept.files (by rw [repository, stored]) generated archives
    (fun _ _ => by rw [attempts]) wellFormed used
  · intro current found
    exact absurd (congrArg Prod.snd (kept.filed job.key current found).1)
      (fresh job.key current found)
  · intro other current _ claimed shared
    exact fresh _ _ (kept.claimed other current claimed).1 (congrArg Prod.snd shared)
  · intro other distinct drawn'
    exact distinct (kept.apart other actor job.jobId drawn' drawn)
  · rfl
  · exact fun _ read => nomatch read
  · exact fun _ claimed => nomatch claimed
  · intro held claimed
    rw [unclaimed] at claimed
    cases claimed
  · intro _ running
    rw [queued] at running
    cases running
  intro _ succeeded
  rw [queued] at succeeded
  cases succeeded

theorem files_compareAndSet {progress : Progress} {current : DataLifecycleJob}
  (found : store.base.repository.jobs.get? job.key = some current) (keeps : Keeps current job)
  (token : current.fencingToken + 1 = job.fencingToken)
  (jobs : later.base.repository.jobs = store.base.repository.jobs.set job.key job)
  (generated : later.base.generated = store.base.generated)
  (archives : later.archives = store.archives)
  (attempts : ∀ key, key ≠ job.key → later.attempts.get? key = store.attempts.get? key)
  (wellFormed : exporter.WellFormed job)
  (free : current.status ≠ .running ∧ (known actor).claimed = none ∨
    (known actor).claimed = some current) (forgotten : progress.drawn = none)
  (remembered : ∀ seen, progress.read = some seen → (known actor).read = some seen)
  (claimed : ∀ current, progress.claimed = some current → current = job ∧ job.status = .running ∧
    later.attempts.get? job.key = some { pass := actor, exported := progress.exported } ∧
    ∀ archive, progress.archived = some archive →
    store.archives.get? (job.tenantId, objectId job.jobId) = some archive)
  (attends : calm → job.status = .running → progress.claimed = some job)
  (complete : job.kind = .export → job.status = .succeeded → exporter.Complete later job) :
  exporter.Kept calm origin later (update known actor progress) := by
  obtain ⟨keyed, _, used⟩ := kept.filed job.key current found
  have named : current.jobId = job.jobId := congrArg Prod.snd keyed
  apply kept.files jobs generated archives attempts wellFormed (named ▸ used) _ _ _ forgotten
    remembered claimed _ attends complete
  · intro filed stored
    cases found.symm.trans stored
    exact ⟨keeps, Nat.lt_of_succ_le (Nat.le_of_eq token)⟩
  · intro other working distinct claiming shared
    obtain ⟨stored, running, _⟩ := kept.claimed other working claiming
    rw [shared, found] at stored
    cases stored
    cases free with
    | inl idle => exact idle.1 running
    | inr own => exact distinct (kept.alone own claiming rfl)
  · intro other _ drawn
    exact (kept.drawn other job.jobId drawn).2 job.key current found named
  intro held claiming
  rcases free with ⟨_, unclaimed⟩ | own
  · rw [unclaimed] at claiming
    cases claiming
  cases own.symm.trans claiming
  exact keyed

theorem Kept.revised (revises : Revises (known actor) job) {current : DataLifecycleJob}
  (found : store.base.repository.jobs.get? job.key = some current)
  (token : current.fencingToken + 1 = job.fencingToken) : Keeps current job := by
  obtain ⟨_, read, remembered, keeps, next⟩ := revises
  obtain ⟨stored, there, newest⟩ := kept.read actor read remembered
  rw [← keeps.key, found] at there
  cases there
  rcases newest with rfl | older
  · exact keeps
  omega

end

variable {repository : InMemoryDataLifecycleRepository} {stored : Bool}

section

variable (kept : exporter.Kept calm origin store known)

include kept

theorem kept_claim
  (admits : exporter.Admits (known actor) (.lifecycle (.compareAndSet .queued job)))
  (effect : store.base.repository.compareAndSet .queued job = (stored, repository))
  (base : later.base.repository = repository)
  (generated : later.base.generated = store.base.generated)
  (archives : later.archives = store.archives) :
  (later.attempts = noted actor store.attempts
    (.lifecycle (.compareAndSet .queued job)) (.ok stored) →
    exporter.Kept calm origin later (update known actor
    (told (known actor) (.lifecycle (.compareAndSet .queued job)) stored))) ∧
    (later.attempts = store.attempts → (calm → stored = false) →
    exporter.Kept calm origin later (update known actor {})) := by
  obtain ⟨wellFormed, running, revises⟩ := admits
  have unclaimed := revises.1
  have unfinished : job.kind = .export → job.status = .succeeded → exporter.Complete later job := by
    intro _ succeeded
    rw [running] at succeeded
    cases succeeded
  rcases compareAndSet_cases store.base.repository .queued job with
    ⟨same, _⟩ | ⟨current, found, queued, token, set⟩
  · rw [same] at effect
    cases effect
    have forgotten : later.attempts = store.attempts →
      exporter.Kept calm origin later (update known actor {}) :=
      fun attempts => kept.forgets (by rw [base]) (Nat.le_of_eq generated.symm) archives attempts
        (forgets_all fun _ => unclaimed)
    exact ⟨forgotten, fun attempts _ => forgotten attempts⟩
  rw [set] at effect
  cases effect
  have idle : current.status ≠ .running := by
    rw [queued]
    exact nofun
  have keeps := kept.revised revises found token
  constructor
  · intro attempts
    have began : later.attempts = store.attempts.set job.key { pass := actor } := attempts
    apply files_compareAndSet kept found keeps token (by rw [base]) generated archives _
      wellFormed (.inl ⟨idle, unclaimed⟩) rfl _ _ (fun _ _ => rfl) unfinished
    · intro key distinct
      rw [began, get?_set_other _ _ distinct]
    · exact fun _ read => nomatch read
    intro claiming claimed
    cases claimed
    exact ⟨rfl, running, by rw [began, get?_set_self]; rfl, fun _ archived => nomatch archived⟩
  intro attempts answered
  apply files_compareAndSet kept found keeps token (by rw [base]) generated archives
    (fun _ _ => by rw [attempts]) wellFormed (.inl ⟨idle, unclaimed⟩) rfl _ _ _ unfinished
  · exact fun _ read => nomatch read
  · exact fun _ claimed => nomatch claimed
  exact fun calm => nomatch answered calm

theorem kept_record
  (admits : exporter.Admits (known actor) (.lifecycle (.compareAndSet .running job)))
  (effect : store.base.repository.compareAndSet .running job = (stored, repository))
  (base : later.base.repository = repository)
  (generated : later.base.generated = store.base.generated)
  (archives : later.archives = store.archives) (attempts : later.attempts = store.attempts) :
  exporter.Kept calm origin later (update known actor
    (told (known actor) (.lifecycle (.compareAndSet .running job)) stored)) := by
  obtain ⟨wellFormed, archived, held, holding, keeps, next⟩ := admits
  obtain ⟨filed, status, attempt⟩ := kept.claimed actor held holding
  rw [← keeps.key] at filed attempt
  -- Nobody else has changed the job since it was claimed.
  rcases compareAndSet_cases store.base.repository .running job with
    ⟨_, changed⟩ | ⟨current, found, _, token, set⟩
  · exact absurd next.symm (changed held filed status)
  cases found.symm.trans filed
  rw [set] at effect
  cases effect
  have placed := kept.archived actor held
  rw [← attempts] at attempt
  obtain ⟨tenant, id⟩ := Prod.mk.inj keeps.key
  apply files_compareAndSet kept found keeps token (by rw [base]) generated archives
    (fun _ _ => by rw [attempts]) wellFormed (.inr holding) rfl
  · exact fun _ held => held
  · intro claiming claimed
    have told : (if true ∧ job.status = .running then some job else none) = some claiming := claimed
    by_cases running : job.status = .running
    · rw [if_pos ⟨rfl, running⟩] at told
      cases told
      refine ⟨rfl, running, attempt, ?_⟩
      intro archive stored
      rw [tenant, id]
      exact placed archive holding stored
    rw [if_neg fun both => running both.2] at told
    cases told
  · exact fun _ running => if_pos ⟨rfl, running⟩
  intro isExport succeeded
  obtain ⟨archive, stored, holds⟩ := archived isExport succeeded
  refine ⟨_, archive, attempt, ?_, holds⟩
  rw [archives, tenant, id]
  exact placed archive holding stored

theorem kept_requeue {expected : LifecycleJobStatus} (ended : expected ≠ .running)
  (wellFormed : exporter.WellFormed job) (queued : job.status = .queued)
  (revises : Revises (known actor) job)
  (effect : store.base.repository.compareAndSet expected job = (stored, repository))
  (base : later.base.repository = repository)
  (generated : later.base.generated = store.base.generated)
  (archives : later.archives = store.archives) (attempts : later.attempts = store.attempts) :
  exporter.Kept calm origin later (update known actor {}) := by
  rcases compareAndSet_cases store.base.repository expected job with
    ⟨unset, _⟩ | ⟨current, found, status, token, set⟩
  · rw [unset] at effect
    cases effect
    exact kept.forgets (by rw [base]) (Nat.le_of_eq generated.symm) archives attempts
      (forgets_all fun _ => revises.1)
  rw [set] at effect
  cases effect
  apply files_compareAndSet kept found (kept.revised revises found token) token (by rw [base])
    generated archives (fun _ _ => by rw [attempts]) wellFormed
    (.inl ⟨by rw [status]; exact ended, revises.1⟩) rfl
  · exact fun _ read => nomatch read
  · exact fun _ claimed => nomatch claimed
  · intro _ running
    rw [queued] at running
    cases running
  intro _ succeeded
  rw [queued] at succeeded
  cases succeeded

theorem effects (loud : ¬Quiet op) (admits : exporter.Admits (known actor) (.lifecycle op))
  (input : ExportInput) (repository : later.base.repository =
    (exporter.toDataLifecycle.answer actor input.toLifecycleInput store.base op).2.repository)
  (generated : later.base.generated =
    (exporter.toDataLifecycle.answer actor input.toLifecycleInput store.base op).2.generated)
  (archives : later.archives = store.archives) :
  (later.attempts = noted actor store.attempts (.lifecycle op)
    (exporter.toDataLifecycle.answer actor input.toLifecycleInput store.base op).1 →
    exporter.Kept calm origin later (update known actor (after (known actor) (.lifecycle op)
    (exporter.toDataLifecycle.answer actor input.toLifecycleInput store.base op).1))) ∧
    (later.attempts = store.attempts → input.outage ≠ none → input.applied = true →
    (calm → Undisturbed store actor (.lifecycle op) input) →
    exporter.Kept calm origin later (update known actor {})) := by
  have forgotten : (known actor).claimed = none →
    later.base.repository.jobs = store.base.repository.jobs →
    store.base.generated ≤ later.base.generated → later.attempts = store.attempts →
    exporter.Kept calm origin later (update known actor {}) :=
    fun unclaimed jobs grown attempts =>
      kept.forgets jobs grown archives attempts (forgets_all fun _ => unclaimed)
  cases op with
  | generateId kind =>
    have jobs : later.base.repository.jobs = store.base.repository.jobs :=
      congrArg InMemoryDataLifecycleRepository.jobs repository
    have grown : store.base.generated ≤ later.base.generated := by
      rw [generated]
      exact Nat.le_succ _
    refine ⟨fun attempts => ?_, fun attempts _ _ _ => forgotten admits jobs grown attempts⟩
    by_cases lifecycle : kind = "lifecycle"
    · subst kind
      exact kept.draws jobs generated archives attempts
    apply kept.forgets jobs grown archives attempts
    constructor
    · intro id drawn
      have told : (if kind = "lifecycle" then
        some (exporter.idGenerator kind store.base.generated) else none) = some id := drawn
      rw [if_neg lifecycle] at told
      cases told
    · exact fun _ => id
    · exact fun _ claimed => ⟨claimed, rfl⟩
    · exact fun _ => rfl
    exact fun _ => id
  | addJob job =>
    refine ⟨fun attempts => ?_, fun attempts _ _ _ =>
      files_addJob kept admits repository generated archives attempts⟩
    have forgotten := files_addJob kept admits repository generated archives attempts
    cases answered : (store.base.repository.addJob job).1 with
    | ok stored =>
      rw [show (exporter.toDataLifecycle.answer actor input.toLifecycleInput store.base
        (.addJob job)).1 = .ok stored from answered]
      exact forgotten
    | error error =>
      rw [show (exporter.toDataLifecycle.answer actor input.toLifecycleInput store.base
        (.addJob job)).1 = .error error from answered]
      exact forgotten
  | getJob tenantId jobId =>
    have jobs : later.base.repository.jobs = store.base.repository.jobs :=
      congrArg InMemoryDataLifecycleRepository.jobs repository
    have idle := forgotten admits jobs (Nat.le_of_eq generated.symm)
    refine ⟨fun attempts => ?_, fun attempts _ _ _ => idle attempts⟩
    dsimp only [DataLifecycle.answer] at attempts ⊢
    cases found : store.base.repository.getJob tenantId jobId with
    | error error => exact idle attempts
    | ok job =>
      apply kept.reads jobs generated archives attempts
      intro read same
      cases same
      have stored := getJob_stored found
      rwa [← (kept.filed _ _ stored).1] at stored
  | listRunnable limit =>
    have jobs : later.base.repository.jobs = store.base.repository.jobs :=
      congrArg InMemoryDataLifecycleRepository.jobs repository
    refine ⟨fun attempts => ?_, fun attempts _ _ _ =>
      forgotten admits jobs (Nat.le_of_eq generated.symm) attempts⟩
    apply kept.reads jobs generated archives attempts
    intro read first
    obtain ⟨key, stored⟩ := listRunnable_stored
      (mem_of_mem_head? first)
    rwa [← (kept.filed _ _ stored).1] at stored
  | compareAndSet expected job =>
    have effect : store.base.repository.compareAndSet expected job =
      ((store.base.repository.compareAndSet expected job).1, later.base.repository) :=
      Prod.ext rfl repository.symm
    cases expected with
    | queued =>
      obtain ⟨answered, lost⟩ := kept_claim kept admits effect rfl generated archives
      refine ⟨answered, fun attempts outage applied undisturbed => lost attempts ?_⟩
      intro calm
      rcases undisturbed calm with none | unapplied | refused
      · exact absurd none outage
      · rw [applied] at unapplied
        cases unapplied
      exact refused
    | running =>
      refine ⟨kept_record kept admits effect rfl generated archives, ?_⟩
      intro attempts outage _ undisturbed
      have recorded := kept_record kept admits effect rfl generated archives attempts
      refine recorded.revises (forgets_all fun calm => ?_)
      rcases undisturbed calm with none | ⟨_, ended⟩
      · exact absurd none outage
      exact if_neg fun both => ended both.2
    | succeeded | partialFailed | failed =>
      have requeued : later.attempts = store.attempts →
        exporter.Kept calm origin later (update known actor {}) :=
        kept_requeue kept (by decide) admits.1 admits.2.1 admits.2.2 effect rfl generated
          archives
      exact ⟨requeued, fun attempts _ _ _ => requeued attempts⟩
  | adapterExport | putExport => exact admits.elim
  | _ => exact absurd trivial loud

theorem foreseen_answer (input : LifecycleInput) :
  exporter.Foreseen calm (known actor) (.lifecycle op)
    (exporter.toDataLifecycle.answer actor input store.base op).1 := by
  cases op with
  | getJob tenantId jobId =>
    dsimp only [DataLifecycle.answer]
    cases found : store.base.repository.getJob tenantId jobId with
    | error error => trivial
    | ok job => exact (kept.filed _ job (getJob_stored found)).2.1
  | listRunnable limit =>
    intro job listed
    obtain ⟨key, stored⟩ := listRunnable_stored listed
    refine ⟨(kept.filed key job stored).2.1, ?_⟩
    have sorted := mem_of_mem_take listed
    rw [mem_insertionSort] at sorted
    exact of_decide_eq_true (mem_filter.mp sorted).2
  | _ => trivial

theorem Kept.atWork (claimed : (known actor).claimed = some job) : AtWork store actor := by
  obtain ⟨stored, running, attempt⟩ := kept.claimed actor job claimed
  exact ⟨job.key, job, _, stored, running, attempt, rfl⟩

theorem answered_lifecycle (admits : exporter.Admits (known actor) (.lifecycle op))
  (input : ExportInput) (undisturbed : calm → Undisturbed store actor (.lifecycle op) input) :
  exporter.Foreseen calm (known actor) (.lifecycle op)
    (exporter.respond actor input store (.lifecycle op)).1 ∧
    exporter.Kept calm origin (exporter.respond actor input store (.lifecycle op)).2
    (update known actor (after (known actor) (.lifecycle op)
    (exporter.respond actor input store (.lifecycle op)).1)) := by
  have reply := respond_cases exporter.toDataLifecycle actor input.toLifecycleInput store.base op
  dsimp only [respond, answer]
  generalize exporter.toDataLifecycle.respond actor input.toLifecycleInput store.base op =
    replied at reply
  obtain ⟨answer, base⟩ := replied
  have unforeseen : ∀ type, input.outage = some type →
    exporter.Foreseen calm (known actor) (.lifecycle op) (.error (.outage type)) := by
    intro type outage
    apply foreseen_outage
    intro tenantId scope looks calm
    by_contra claimed
    obtain ⟨job, claimed⟩ := ne_none_iff_exists'.mp claimed
    have still := undisturbed calm
    have answered : input.outage = none := by
      rcases looks with same | same
      · cases same
        exact still (kept.atWork claimed)
      cases same
      exact still (kept.atWork claimed)
    rw [outage] at answered
    cases answered
  by_cases quiet : Quiet op
  · obtain ⟨jobs, ids⟩ := quiet_answer exporter actor quiet input.toLifecycleInput store.base
    have same : base.repository.jobs = store.base.repository.jobs ∧
      base.generated = store.base.generated := by
      rcases reply with ⟨_, _, repository, generated⟩ |
        ⟨_, _, _, ⟨_, repository, generated⟩ | ⟨_, repository, generated⟩⟩
      · exact ⟨by rw [repository, jobs], by rw [generated, ids]⟩
      · exact ⟨by rw [repository, jobs], by rw [generated, ids]⟩
      exact ⟨by rw [repository], by rw [generated]⟩
    constructor
    · rcases reply with ⟨_, told, _⟩ | ⟨type, outage, told, _⟩
      · rw [told]
        exact foreseen_answer kept _
      rw [told]
      exact unforeseen type outage
    rw [quiet_after quiet]
    exact kept.forgets same.1 (Nat.le_of_eq same.2.symm) rfl (quiet_noted quiet _ _)
      (forgets_same _)
  have unsure : after (known actor) (.lifecycle op) (.error (.outage "")) = {} := by
    cases op with
    | generateId | addJob | getJob | listRunnable | compareAndSet => rfl
    | adapterExport | putExport => exact admits.elim
    | _ => exact absurd trivial quiet
  rcases reply with ⟨_, told, repository, generated⟩ | ⟨type, outage, told, placed⟩
  · rw [told]
    refine ⟨foreseen_answer kept _, ?_⟩
    refine (effects kept quiet admits input repository generated ?_).1 ?_
    · rfl
    rfl
  rw [told, noted_error]
  refine ⟨unforeseen type outage, ?_⟩
  change exporter.Kept calm origin _ (update known actor
    (after (known actor) (.lifecycle op) (.error (.outage ""))))
  rw [unsure]
  rcases placed with ⟨applied, repository, generated⟩ | ⟨unapplied, repository, generated⟩
  · refine (effects kept quiet admits input repository generated ?_).2 ?_
      (by rw [outage]; exact nofun) applied undisturbed
    · rfl
    rfl
  refine kept.forgets (by rw [repository]) (Nat.le_of_eq generated.symm) rfl rfl
    (forgets_all fun calm => ?_)
  cases op with
  | generateId | getJob | listRunnable => exact admits
  | addJob => exact admits.2.2.2
  | compareAndSet expected job =>
    cases expected with
    | running =>
      rcases undisturbed calm with none | ⟨applied, _⟩
      · rw [outage] at none
        cases none
      rw [unapplied] at applied
      cases applied
    | queued | succeeded | partialFailed | failed => exact admits.2.2.1
  | adapterExport | putExport => exact admits.elim
  | _ => exact absurd trivial quiet

theorem answered (op : ExportOp) (input : ExportInput) (admits : exporter.Admits (known actor) op)
  (undisturbed : calm → Undisturbed store actor op input) :
  exporter.Foreseen calm (known actor) op (exporter.respond actor input store op).1 ∧
    exporter.Kept calm origin (exporter.respond actor input store op).2
    (update known actor
    (after (known actor) op (exporter.respond actor input store op).1)) := by
  cases op with
  | lifecycle op => exact answered_lifecycle kept admits input undisturbed
  | «export» adapter job =>
    refine ⟨trivial, ?_⟩
    obtain ⟨current, claimed, same⟩ := admits
    have attempt := (kept.claimed actor current claimed).2.2
    cases outage : input.outage with
    | none =>
      simp only [respond, answer, outage, noted, same, attempt]
      exact kept.hands claimed (adapter, input.fragment) rfl rfl rfl
    | some type =>
      simp only [respond, answer, outage, noted]
      exact kept.forgets rfl (Nat.le_refl _) rfl rfl (forgets_same _)
  | put tenantId id archive =>
    refine ⟨trivial, ?_⟩
    obtain ⟨current, claimed, rfl, rfl⟩ := admits
    let stored := { store with
      archives := store.archives.set (current.tenantId, objectId current.jobId) archive }
    have placed : exporter.Kept calm origin stored (update known actor
        { known actor with archived := some archive }) :=
      kept.puts claimed archive rfl rfl rfl
    have forgotten : ∀ stored, Forgets calm { known actor with archived := none }
        { known actor with archived := stored } :=
      fun _ => ⟨fun _ => id, fun _ => id, fun _ same => ⟨same, rfl⟩,
        fun _ => rfl, fun _ archived => by cases archived⟩
    cases outage : input.outage with
    | none =>
      simp only [respond, answer, outage]
      exact placed
    | some type =>
      simp only [respond, answer, outage]
      cases input.applied with
      | false => exact kept.forgets rfl (Nat.le_refl _) rfl rfl (forgotten _)
      | true => exact placed.revises (forgotten _)

end

theorem adheres : Pool.Adheres exporter.component (fun _ => exporter.contract calm)
  (exporter.Kept calm origin)
  (fun store actor op input => calm → Undisturbed store actor op input) := by
  intro store known actor op input kept undisturbed admits
  obtain ⟨foreseen, later⟩ := answered kept op input admits undisturbed
  exact ⟨_, ⟨foreseen, rfl⟩, later⟩

def Stands (exporter : Exporter) (calm : Prop) (origin : ExportStore)
  (requests : Nat → LifecycleRequest) : Pool ExportOp ExportOp.Answer LifecycleError Nat
    ExportStore Unit → (Nat → Progress) → Prop :=
  fun pool => pool.Ready (fun _ => exporter.contract calm) (exporter.Kept calm origin)
    (fun _ later _ => later.claimed = none)
    (fun actor later error => (requests actor = .processOnce → error ≠ .keyError) ∧
      (calm → later.claimed = none))

theorem stands_start (requests : Nat → LifecycleRequest)
  (declared : calm → exporter.adapters ≠ []) :
  exporter.Stands calm {} requests (exporter.pool requests) (fun _ => {}) := by
  refine ⟨?_, fun actor => wp_serve (requests actor) declared rfl⟩
  constructor
  · exact fun _ _ found => nomatch found
  · exact fun _ _ drawn => nomatch drawn
  · exact fun _ _ _ drawn => nomatch drawn
  · exact fun _ _ read => nomatch read
  · exact fun _ _ claimed => nomatch claimed
  · exact fun _ _ _ found => nomatch found
  · exact fun _ _ _ claimed => nomatch claimed
  · exact fun _ _ found => nomatch found
  exact fun _ _ before => nomatch before

end

/-- Whatever fails and is retried, a job's adapters are the declared ones and at most the archive,
an export that succeeded has the archive of its last attempt, and no pass looks up an adapter that
is not registered. -/
theorem exports_complete (exporter : Exporter) (requests : Nat → LifecycleRequest)
  (schedule : List (Nat × ExportInput)) :
  let pool := (exporter.pool requests).run exporter.component schedule
  (∀ key job, pool.state.base.repository.jobs.get? key = some job →
    (job.adapterNames = exporter.adapters ∨
      job.adapterNames = exporter.adapters ++ ["export-artifact"]) ∧
    (job.kind = .export → job.status = .succeeded → exporter.Complete pool.state job)) ∧
    ∀ pass, requests pass = .processOnce → pool.thread pass ≠ .raised .keyError := by
  intro pool
  obtain ⟨known, kept, threads⟩ := run_ready adheres
    (exporter.stands_start requests (fun impossible : False => impossible.elim)) schedule
    (along_of_forall (fun _ _ _ _ impossible => impossible.elim) _ schedule)
  constructor
  · intro key job found
    exact ⟨(kept.filed key job found).2.1.grown.imp_right And.right, kept.complete key job found⟩
  intro pass isPass raised
  have registered := threads pass
  rw [show pool.thread pass = .raised .keyError from raised] at registered
  exact registered.1 isPass rfl

section

variable {exporter : Exporter} {requests : Nat → LifecycleRequest}

abbrev ExportPool := Pool ExportOp ExportOp.Answer LifecycleError Nat ExportStore Unit

structure Attended (exporter : Exporter) (before now : ExportPool) : Prop where
  settled : ∀ key job, now.state.base.repository.jobs.get? key = some job → job.status ≠ .running →
      (job.status = .succeeded ↔ ∀ item ∈ job.adapters, item.status = .succeeded)
  inOrder : ∀ actor adapter job next,
    now.thread actor = .call (.lifecycle (.adapterDelete adapter job)) next →
      ∃ current, now.state.base.repository.jobs.get? job.key = some current ∧
        current.kind ≠ .export ∧ current.adapterNames = exporter.adapters ∧ Turn current adapter
  retained : ∀ key old, before.state.base.repository.jobs.get? key = some old →
    ∃ job, now.state.base.repository.jobs.get? key = some job ∧ Keeps old job
  working : ∀ key job, now.state.base.repository.jobs.get? key = some job →
    job.status = .running → ∃ attempt op next, now.state.attempts.get? key = some attempt ∧
      now.thread attempt.pass = .call op next

theorem attended_of_stands {before now : ExportPool} {known : Nat → Progress}
  (declared : exporter.adapters ≠ [])
  (stands : exporter.Stands True before.state requests now known) :
  exporter.Attended before now := by
  obtain ⟨kept, threads⟩ := stands
  constructor
  · intro key job found idle
    have wellFormed := (kept.filed key job found).2.1
    by_cases queued : job.status = .queued
    · obtain ⟨item, member, pending⟩ := wellFormed.pending queued declared
      constructor
      · intro succeeded
        rw [queued] at succeeded
        cases succeeded
      intro succeeded
      rw [succeeded item member] at pending
      cases pending
    exact (wellFormed.settled queued idle).1
  · intro actor adapter job next calls
    have admitted := threads actor
    rw [calls] at admitted
    obtain ⟨current, claimed, same, notExport, turn⟩ := admitted.1
    obtain ⟨stored, running, _⟩ := kept.claimed actor current claimed
    refine ⟨current, by rw [same, stored], notExport, ?_, turn⟩
    exact (kept.filed _ _ stored).2.1.declared (.inr running)
  · exact kept.retained
  intro key job found running
  obtain ⟨actor, claimed⟩ := kept.attended trivial key job found running
  have attempt := (kept.claimed actor job claimed).2.2
  rw [(kept.filed key job found).1] at attempt
  have unfinished := threads actor
  cases calls : now.thread actor with
  | call op next => exact ⟨_, op, next, attempt, calls⟩
  | done value =>
    rw [calls] at unfinished
    have released : (known actor).claimed = none := unfinished
    rw [released] at claimed
    cases claimed
  | raised error =>
    rw [calls] at unfinished
    have released : (known actor).claimed = none := unfinished.2 trivial
    rw [released] at claimed
    cases claimed

/-- While no pass is cut off between its claim and its last record, jobs are worked on in order
and none is left behind. -/
theorem jobs_attended (exporter : Exporter) (declared : exporter.adapters ≠ [])
  (requests : Nat → LifecycleRequest) (early late : List (Nat × ExportInput))
  (undisturbed : (exporter.pool requests).Along exporter.component Undisturbed (early ++ late)) :
  exporter.Attended ((exporter.pool requests).run exporter.component early)
    ((exporter.pool requests).run exporter.component (early ++ late)) := by
  rw [run_append]
  obtain ⟨before, after⟩ := (along_append _ early late).mp undisturbed
  have calm : ∀ {pool : ExportPool} {schedule : List (Nat × ExportInput)},
    pool.Along exporter.component Undisturbed schedule →
    pool.Along exporter.component
      (fun store actor op input => True → Undisturbed store actor op input) schedule := by
    intro pool schedule along
    induction schedule generalizing pool with
    | nil => trivial
    | cons move rest ih => exact ⟨fun op next calls _ => along.1 op next calls, ih along.2⟩
  obtain ⟨known, kept, threads⟩ := run_ready adheres
    (stands_start requests fun _ => declared) early (calm before)
  have again : exporter.Stands True
    ((exporter.pool requests).run exporter.component early).state requests
    ((exporter.pool requests).run exporter.component early) known := by
    refine ⟨{ kept with retained := ?_ }, threads⟩
    exact fun key old found => ⟨old, found, rfl, rfl, fun _ _ member _ => member⟩
  obtain ⟨later, stands⟩ := run_ready adheres again late (calm after)
  exact attended_of_stands declared stands

def oneAdapter : Exporter where
  adapters := ["postgresql"]
  distinctAdapters := nodup_singleton _
  artifactFree := by decide
  backend _ := none
  relatedScopes _ scope := [scope]
  idGenerator _ count := String.ofList (List.replicate count 'j')
  distinctIds first second same := by simpa using congrArg String.length same
  redactText text _ := text
  dumps _ := .ok ""

def erasureRequests : Nat → LifecycleRequest
  | 0 => .createJob "tenant-1" "admin"
      { kind := .delete, scope := { kind := .user, subjectId := "user-1" }
        idempotencyKey := "erase-user-1" }
  | 1 => .retryJob "tenant-1" ""
  | _ => .processOnce

def calls (actor : Nat) : Nat × ExportInput := (actor, { now := 0 })

def erasure : List (Nat × ExportInput) := [0, 0, 0, 0, 0, 0, 0, 2, 2, 2, 2].map calls

theorem along_answered (pool : ExportPool) (actors : List Nat) :
  pool.Along exporter.component Undisturbed (actors.map calls) := by
  induction actors generalizing pool with
  | nil => trivial
  | cons actor actors ih =>
    refine ⟨fun op _ _ => ?_, ih _⟩
    unfold Undisturbed
    split
    · exact .inl rfl
    · exact .inl rfl
    · exact fun _ => rfl
    · exact fun _ => rfl
    trivial

theorem jobs_attended_oneAdapter :
  oneAdapter.Attended ((oneAdapter.pool erasureRequests).run oneAdapter.component erasure)
    ((oneAdapter.pool erasureRequests).run oneAdapter.component
    (erasure ++ [2, 2, 2, 2].map calls)) :=
  jobs_attended oneAdapter (by decide) erasureRequests erasure ([2, 2, 2, 2].map calls)
    (along_answered _ [0, 0, 0, 0, 0, 0, 0, 2, 2, 2, 2, 2, 2, 2, 2])

/-- The pass that claimed the job meets an outage at its first record, no later pass finds the job
and no retry is accepted. -/
theorem jobs_stranded :
  let now := (oneAdapter.pool erasureRequests).run oneAdapter.component
    (erasure ++ [(2, { outage := some "ConnectionError" }), calls 3, calls 1])
  (now.state.base.repository.jobs.get? ("tenant-1", "")).map DataLifecycleJob.status =
      some .running ∧
    (∀ limit, now.state.base.repository.listRunnable limit = []) ∧
    now.thread 2 = .raised (.outage "ConnectionError") ∧ now.thread 3 = .done () ∧
    now.thread 1 = .raised (.conflict "only failed data lifecycle jobs can be retried") :=
  ⟨rfl, fun _ => take_nil, rfl, rfl, rfl⟩

end

end Exporter

end AgentHarness.Lifecycle
