import AgentHarness.Interaction.Footprint
import AgentHarness.Lifecycle.Exports
import AgentHarness.Collections.Mapping

/-!
What a controller pass and a service call may ask of the stores, and what they know.

The marks of success outlive an attempt and its fragments do not; no attempt meets such a mark,
for a retry takes all of them back.
-/

namespace AgentHarness.Lifecycle

open Collections Interaction Program Text Dict List Within ExportPort

def DataLifecycleJob.adapterNames (job : DataLifecycleJob) : List String :=
  job.adapters.map LifecycleAdapterResult.adapter

namespace Exporter

structure WellFormed (exporter : Exporter) (job : DataLifecycleJob) : Prop where
  grown : job.adapterNames = exporter.adapters ∨
    job.kind = .export ∧ job.adapterNames = exporter.adapters ++ ["export-artifact"]
  declared : job.status = .queued ∨ job.status = .running → job.adapterNames = exporter.adapters
  waiting : job.status = .queued → ∀ item ∈ job.adapters,
    item.status = .pending ∨ item.status = .succeeded ∧ job.kind ≠ .export
  pending : job.status = .queued → exporter.adapters ≠ [] →
    ∃ item ∈ job.adapters, item.status = .pending
  settled : job.status ≠ .queued → job.status ≠ .running →
    (job.status = .succeeded ↔ ∀ item ∈ job.adapters, item.status = .succeeded) ∧
      (∀ item ∈ job.adapters,
        item.status = .succeeded ∨ item.status = .failed ∨ item.status = .pending) ∧
      (job.status ≠ .succeeded → ∃ item ∈ job.adapters, item.status = .failed)

structure Keeps (old new : DataLifecycleJob) : Prop where
  key : new.key = old.key
  kind : new.kind = old.kind
  marks : new.kind ≠ .export → ∀ item ∈ old.adapters, item.status = .succeeded → item ∈ new.adapters

variable (exporter : Exporter)

def Holds (exported : List (String × Json)) (archive : ExportArchive) : Prop :=
  ∀ adapter ∈ exporter.adapters, ∃ fragment text,
    Attempt.fragmentOf exported adapter = some fragment ∧
      exporter.dumps (sanitizeExport exporter.redactText "" fragment) = .ok text ∧
      (fileName adapter, text) ∈ archive.files

def Complete (store : ExportStore) (job : DataLifecycleJob) : Prop :=
  ∃ attempt archive, store.attempts.get? job.key = some attempt ∧
    store.archives.get? (job.tenantId, objectId job.jobId) = some archive ∧
    exporter.Holds attempt.exported archive

def collect (exported : List (String × Json)) : Dict String Json :=
  exported.foldl (fun fragments entry =>
    fragments.set entry.1 (sanitizeExport exporter.redactText "" entry.2)) Dict.empty

section

variable {exporter : Exporter} {exported : List (String × Json)} {adapter : String}

theorem collect_append (entry : String × Json) : exporter.collect (exported ++ [entry]) =
  (exporter.collect exported).set entry.1
  (sanitizeExport exporter.redactText "" entry.2) := by
  unfold collect
  rw [foldl_append]
  rfl

theorem fragmentOf_append (entry : String × Json) :
  Attempt.fragmentOf (exported ++ [entry]) adapter =
    if adapter = entry.1 then some entry.2 else Attempt.fragmentOf exported adapter := by
  unfold Attempt.fragmentOf
  rw [filter_append]
  by_cases same : adapter = entry.1
  · rw [if_pos same, filter_cons_of_pos (by simpa using same.symm), filter_nil, getLast?_concat]
    rfl
  rw [if_neg same, filter_cons_of_neg (by simpa using Ne.symm same), filter_nil, append_nil]

theorem get?_collect (exported : List (String × Json)) (adapter : String) :
  (exporter.collect exported).get? adapter = (Attempt.fragmentOf exported adapter).map
    (sanitizeExport exporter.redactText "") := by
  induction exported using List.reverseRecOn with
  | nil => rfl
  | append_singleton exported entry ih =>
    rw [collect_append, fragmentOf_append, get?_set]
    by_cases same : adapter = entry.1
    · rw [if_pos same, if_pos same]
      rfl
    rw [if_neg same, if_neg same]
    exact ih

theorem files_has {fragments : Dict String Json} {files : List (String × String)}
  (written : exporter.files fragments = .ok files) {fragment : Json}
  (present : fragments.get? adapter = some fragment) :
  ∃ text, exporter.dumps fragment = .ok text ∧ (fileName adapter, text) ∈ files := by
  have member : (adapter, fragment) ∈
    fragments.entries.insertionSort (fun left right => left.1 ≤ right.1) :=
    (mem_insertionSort _).mpr (get?_eq_some.mp present)
  obtain ⟨file, among, wrote⟩ := mem_map.mp (map_of_mapM_ok written ▸ mem_map_of_mem member)
  cases dumped : exporter.dumps fragment with
  | error error =>
    rw [dumped] at wrote
    cases wrote
  | ok text =>
    rw [dumped] at wrote
    cases wrote
    exact ⟨text, rfl, among⟩

end

section

open DataLifecycleController

variable {job : DataLifecycleJob} {replacement item : LifecycleAdapterResult}

theorem adapterNames_withAdapter :
  (withAdapter job replacement).adapterNames = job.adapterNames := by
  unfold DataLifecycleJob.adapterNames withAdapter
  rw [map_map]
  apply map_congr_left
  intro item _
  dsimp only [Function.comp_apply]
  split
  · exact Eq.symm ‹item.adapter = replacement.adapter›
  rfl

theorem mem_withAdapter (member : item ∈ (withAdapter job replacement).adapters) :
  item = replacement ∨ item ∈ job.adapters ∧ item.adapter ≠ replacement.adapter := by
  obtain ⟨old, present, rfl⟩ := mem_map.mp member
  by_cases same : old.adapter = replacement.adapter
  · rw [if_pos same]
    exact .inl rfl
  rw [if_neg same]
  exact .inr ⟨present, same⟩

theorem outcome_succeeded :
  outcome job = .succeeded ↔ ∀ item ∈ job.adapters, item.status ≠ .failed := by
  unfold outcome
  constructor
  · intro succeeded
    split at succeeded
    · intro item member
      exact of_decide_eq_true (all_eq_true.mp ‹_› item member)
    split at succeeded <;> cases succeeded
  intro unfailed
  exact if_pos (all_eq_true.mpr fun item member => decide_eq_true (unfailed item member))

theorem outcome_terminal (job : DataLifecycleJob) :
  outcome job ≠ .queued ∧ outcome job ≠ .running := by
  unfold outcome
  split
  · exact ⟨nofun, nofun⟩
  split
  · exact ⟨nofun, nofun⟩
  exact ⟨nofun, nofun⟩

end

end Exporter

structure Progress where
  drawn : Option String := none
  read : Option DataLifecycleJob := none
  claimed : Option DataLifecycleJob := none
  exported : List (String × Json) := []
  archived : Option ExportArchive := none

namespace Exporter

variable (exporter : Exporter)

def Archived (known : Progress) (job : DataLifecycleJob) : Prop :=
  job.kind = .export → job.status = .succeeded →
    ∃ archive, known.archived = some archive ∧ exporter.Holds known.exported archive

variable (known : Progress)

def Revises (job : DataLifecycleJob) : Prop :=
  known.claimed = none ∧ ∃ read, known.read = some read ∧ Keeps read job ∧
    job.fencingToken = read.fencingToken + 1

def Turn (current : DataLifecycleJob) (adapter : String) : Prop :=
  ∃ before item after, current.adapters = before ++ item :: after ∧ item.adapter = adapter ∧
    item.status ≠ .succeeded ∧ ∀ earlier ∈ before, earlier.status = .succeeded

def Admits (known : Progress) : ExportOp → Prop
  | .lifecycle (.generateId _) | .lifecycle (.getJob _ _) | .lifecycle (.listRunnable _) =>
    known.claimed = none
  | .lifecycle (.compareAndSet .queued job) =>
    exporter.WellFormed job ∧ job.status = .running ∧ Revises known job
  | .lifecycle (.compareAndSet .running job) =>
    exporter.WellFormed job ∧ exporter.Archived known job ∧
      ∃ current, known.claimed = some current ∧ Keeps current job ∧
        job.fencingToken = current.fencingToken + 1
  | .lifecycle (.compareAndSet _ job) =>
    exporter.WellFormed job ∧ job.status = .queued ∧ Revises known job
  | .lifecycle (.addJob job) =>
    exporter.WellFormed job ∧ job.status = .queued ∧ known.drawn = some job.jobId ∧
      known.claimed = none
  | .lifecycle (.adapterDelete adapter job) => ∃ current, known.claimed = some current ∧
      job.key = current.key ∧ current.kind ≠ .export ∧ Turn current adapter
  | .lifecycle (.adapterExport _ _) | .lifecycle (.putExport _ _) => False
  | .export _ job => ∃ current, known.claimed = some current ∧ job.key = current.key
  | .put tenantId id _ => ∃ current, known.claimed = some current ∧
      tenantId = current.tenantId ∧ id = objectId current.jobId
  | _ => True

def told : (op : ExportOp) → op.Answer → Progress
  | .lifecycle (.generateId kind), id =>
    { known with drawn := if kind = "lifecycle" then some id else none }
  | .lifecycle (.addJob _), _ => {}
  | .lifecycle (.getJob _ _), job => { known with read := some job }
  | .lifecycle (.listRunnable _), jobs => { known with read := jobs.head? }
  | .lifecycle (.compareAndSet .queued job), stored =>
    if stored then { claimed := some job } else {}
  | .lifecycle (.compareAndSet .running job), stored =>
    { known with
      drawn := none, claimed := if stored ∧ job.status = .running then some job else none }
  | .lifecycle (.compareAndSet _ _), _ => {}
  | .export adapter _, (fragment, _) =>
    { known with exported := known.exported ++ [(adapter, fragment)] }
  | .put _ _ archive, _ => { known with archived := some archive }
  | _, _ => known

def unsure : ExportOp → Progress
  | .lifecycle (.generateId _) | .lifecycle (.addJob _) | .lifecycle (.getJob _ _)
  | .lifecycle (.listRunnable _) | .lifecycle (.compareAndSet _ _) => {}
  | .put _ _ _ => { known with archived := none }
  | _ => known

def after (op : ExportOp) : Except LifecycleError op.Answer → Progress
  | .ok value => told known op value
  | .error _ => unsure known op

def Foreseen (calm : Prop) (known : Progress) :
    (op : ExportOp) → Except LifecycleError op.Answer → Prop
  | .lifecycle (.getJob _ _), .ok job => exporter.WellFormed job
  | .lifecycle (.listRunnable _), .ok jobs =>
    ∀ job ∈ jobs, exporter.WellFormed job ∧ job.status = .queued
  | .lifecycle (.listRunnable _), .error error
  | .lifecycle (.compareAndSet _ _), .error error => error ≠ .keyError
  | .lifecycle (.resolveScopes _ _), .error error
  | .lifecycle (.listHolds _), .error error => error ≠ .keyError ∧ (calm → known.claimed = none)
  | _, _ => True

def contract (calm : Prop) : Contract ExportOp ExportOp.Answer LifecycleError Progress where
  allowed := exporter.Admits
  learns known op answer later :=
    exporter.Foreseen calm known op answer ∧ later = after known op answer

def lifecycleContract (calm : Prop) :
  Contract LifecycleOp LifecycleOp.Answer LifecycleError Progress where
  allowed known op := exporter.Admits known (.lifecycle op)
  learns known op answer later :=
    exporter.Foreseen calm known (.lifecycle op) answer ∧ later = after known (.lifecycle op) answer

section

open DataLifecycle DataLifecycleController

variable {exporter : Exporter} {calm : Prop} {known known' : Progress} {α : Type}
  {program : LifecycleProgram α}

theorem wp_lifecycle {post : Progress → α → Prop} {fail : Progress → LifecycleError → Prop}
  (holds : program.wp (exporter.lifecycleContract calm) post fail known) :
  (lifecycle program).wp (exporter.contract calm) post fail known := by
  apply wp_embedded _ _ holds
  · exact fun _ _ => id
  intro known op given later learned
  cases given with
  | ok value | error error => exact learned

variable (exporter) in
def free : Footprint LifecycleOp LifecycleError where
  permitted op := ∀ known : Progress, known.claimed = none → exporter.Admits known (.lifecycle op)
  foreseen _ := True
  raises _ := True
  passes _ _ := trivial

variable (exporter calm) in
abbrev Harmless (program : LifecycleProgram α) : Prop :=
  ∀ known : Progress, known.claimed = none → program.wp (exporter.lifecycleContract calm)
    (fun later _ => later.claimed = none) (fun later _ => later.claimed = none) known

variable {op : LifecycleOp}

theorem after_free (permitted : exporter.free.permitted op)
  (unclaimed : known.claimed = none) (answer : Except LifecycleError op.Answer) :
  (after known (.lifecycle op) answer).claimed = none := by
  cases op with
  | compareAndSet expected job =>
    have admitted := permitted {} rfl
    cases expected with
    | running =>
      obtain ⟨_, _, current, claimed, _⟩ := admitted
      cases claimed
    | _ =>
      obtain ⟨_, _, _, read, remembered, _⟩ := admitted
      cases remembered
  | generateId | getJob | listRunnable =>
    cases answer with
    | ok value => exact unclaimed
    | error error => rfl
  | addJob job =>
    cases answer with
    | ok stored | error error => rfl
  | _ =>
    cases answer with
    | ok value | error error => exact unclaimed

theorem harmless_within
  (within : program.Within exporter.free) : exporter.Harmless calm program := by
  intro known unclaimed
  have preserves : exporter.free.Preserves (exporter.lifecycleContract calm)
    (fun known => known.claimed = none) := by
    intro known op unclaimed permitted
    refine ⟨permitted known unclaimed, ?_⟩
    rintro answer later ⟨_, same⟩
    rw [same]
    exact ⟨after_free permitted unclaimed answer, fun _ _ => trivial⟩
  exact wp_mono (within.wp preserves unclaimed) (fun _ _ => id) fun _ _ kept => kept.1

theorem harmless_next {β : Type} {first : LifecycleProgram β} {next : β → LifecycleProgram α}
  (before : exporter.Harmless calm first) (rest : ∀ value, exporter.Harmless calm (next value)) :
  exporter.Harmless calm (first.bind next) := by
  intro known unclaimed
  rw [wp_bind]
  exact wp_mono (before known unclaimed) (fun later value kept => rest value later kept)
    (fun _ _ => id)

theorem within_free {read : op.Answer → α} (permitted : exporter.free.permitted op) :
  (perform op read : LifecycleProgram α).Within exporter.free :=
  within_perform permitted read

variable (tenantId : String)

theorem validateScope_within (scope : LifecycleScope) :
  (validateScope tenantId scope).Within exporter.free := by
  unfold validateScope
  split
  · exact within_raised trivial
  exact within_done ()

variable (kind : LifecycleJobKind) (tenantId : String)

theorem heldBack_within (scope : LifecycleScope) :
  (heldBack kind tenantId scope).Within exporter.free := by
  unfold heldBack
  split
  · exact within_done none
  exact bind (within_free fun _ _ => trivial) fun _ =>
    bind (within_free fun _ _ => trivial) fun _ => within_done _

theorem createHold_within (userId : String) (scope : LifecycleScope) (reason : String) :
  (createHold tenantId userId scope reason).Within exporter.free :=
  (validateScope_within tenantId scope).bind fun _ =>
    bind (within_free fun _ => id) fun _ =>
      bind (within_free fun _ _ => trivial) fun _ =>
        bind (within_free fun _ _ => trivial) fun _ => within_done _

theorem releaseHold_within (userId holdId : String) :
  (releaseHold tenantId userId holdId).Within exporter.free := by
  refine bind (within_free fun _ _ => trivial) fun current => ?_
  split
  · exact within_done current
  exact bind (within_free fun _ _ => trivial) fun _ =>
    bind (within_free fun _ _ => trivial) fun _ => within_done _

theorem retentionCutoffs_within (now : Int) :
  (retentionCutoffs kind tenantId now).Within exporter.free := by
  unfold retentionCutoffs
  split
  · exact bind (within_free fun _ _ => trivial) fun _ => within_done _
  exact within_done none

theorem wellFormed_new {job : DataLifecycleJob} (queued : job.status = .queued)
  (adapters : job.adapters = exporter.adapters.map (fun adapter =>
    { adapter, status := .pending, attempts := 0 })) :
  exporter.WellFormed job := by
  have names : job.adapterNames = exporter.adapters := by
    rw [DataLifecycleJob.adapterNames, adapters, map_map]
    exact map_id _
  constructor
  · exact .inl names
  · exact fun _ => names
  · intro _ item member
    rw [adapters] at member
    obtain ⟨_, _, rfl⟩ := mem_map.mp member
    exact .inl rfl
  · intro _ some
    obtain ⟨adapter, declared⟩ := exists_mem_of_ne_nil _ some
    rw [adapters]
    exact ⟨_, mem_map_of_mem declared, rfl⟩
  exact fun waits => absurd queued waits

theorem createJob_harmless (userId : String) (request : CreateLifecycleJobRequest) :
  exporter.Harmless calm (exporter.toDataLifecycle.createJob tenantId userId request) := by
  unfold createJob
  split
  · exact fun _ => id
  refine harmless_next (harmless_within (validateScope_within tenantId request.scope))
    fun _ => ?_
  refine harmless_next (harmless_within (within_free fun _ _ => trivial)) fun existing => ?_
  cases existing with
  | some existing =>
    dsimp only
    split
    · exact fun _ => id
    exact fun _ => id
  | none =>
    refine harmless_next (harmless_within (heldBack_within _ _ _)) fun blocking => ?_
    cases blocking with
    | some hold =>
      exact harmless_within (bind (within_free fun _ _ => trivial) fun _ => within_raised trivial)
    | none =>
      refine harmless_next (harmless_within (within_free fun _ _ => trivial)) fun now => ?_
      refine harmless_next (harmless_within (retentionCutoffs_within _ _ now))
        fun cutoffs => ?_
      intro known unclaimed
      rw [wp_do_perform]
      refine ⟨unclaimed, ?_, ?_⟩
      · rintro jobId later ⟨_, same⟩
        rw [wp_do_perform]
        refine ⟨⟨wellFormed_new rfl rfl, rfl, by rw [same]; rfl, by rw [same]; exact unclaimed⟩,
          ?_, ?_⟩
        · rintro stored last ⟨_, kept⟩
          refine harmless_within ?_ last (by rw [kept]; rfl)
          exact bind (within_free fun _ _ => trivial) fun _ => within_done _
        rintro error last ⟨_, kept⟩
        rw [kept]
        rfl
      rintro error later ⟨_, same⟩
      rw [same]
      rfl

theorem heldBack_steady (scope : LifecycleScope) :
  (heldBack kind tenantId scope).wp (exporter.lifecycleContract calm)
    (fun later _ => later = known)
    (fun later error => later = known ∧ error ≠ .keyError ∧ (calm → later.claimed = none))
    known := by
  unfold heldBack
  by_cases isExport : kind = .export
  · rw [if_pos isExport]
    rfl
  rw [if_neg isExport]
  unfold findBlockingHold
  rw [wp_do_perform]
  refine ⟨trivial, ?_, ?_⟩
  · rintro related later ⟨_, same⟩
    have kept : later = known := same
    rw [kept, wp_do_perform]
    refine ⟨trivial, ?_, ?_⟩
    · exact fun _ _ learned => learned.2
    rintro error last ⟨foreseen, same⟩
    have kept : last = known := same
    rw [kept]
    exact ⟨rfl, foreseen⟩
  rintro error later ⟨foreseen, same⟩
  have kept : later = known := same
  rw [kept]
  exact ⟨rfl, foreseen⟩

theorem reset_adapter (item : LifecycleAdapterResult) :
  (resetAdapter kind item).adapter = item.adapter := by
  unfold resetAdapter
  split <;> rfl

theorem wellFormed_retry {job : DataLifecycleJob} (reset : DataLifecycleJob)
  (wellFormed : exporter.WellFormed job) (ended : job.status = .partialFailed ∨
    job.status = .failed) (key : reset.key = job.key) (kind : reset.kind = job.kind)
  (queued : reset.status = .queued)
  (adapters : reset.adapters = (job.adapters.filter (fun item =>
    item.adapter ≠ "export-artifact")).map (resetAdapter job.kind)) :
  exporter.WellFormed reset ∧ Keeps job reset := by
  obtain ⟨_, statuses, failed⟩ := wellFormed.settled
    (by rcases ended with ended | ended <;> rw [ended] <;> decide)
    (by rcases ended with ended | ended <;> rw [ended] <;> decide)
  have names : reset.adapterNames =
    job.adapterNames.filter (fun name => name ≠ "export-artifact") := by
    rw [DataLifecycleJob.adapterNames, adapters, map_map, DataLifecycleJob.adapterNames, filter_map]
    exact map_congr_left fun item _ => reset_adapter job.kind item
  have kept : exporter.adapters.filter (fun name => name ≠ "export-artifact") =
    exporter.adapters := by
    apply filter_eq_self.mpr
    intro name declared
    rw [decide_eq_true_eq]
    exact fun artifact => exporter.artifactFree (artifact ▸ declared)
  have declared : reset.adapterNames = exporter.adapters := by
    rw [names]
    rcases wellFormed.grown with same | ⟨_, same⟩
    · rw [same, kept]
    rw [same, filter_append, kept]
    exact append_nil _
  -- Of a deletion no result is dropped.
  have stays : job.kind ≠ .export → ∀ item ∈ job.adapters,
    resetAdapter job.kind item ∈ reset.adapters := by
    intro notExport item member
    rw [adapters]
    refine mem_map_of_mem (mem_filter.mpr ⟨member, ?_⟩)
    rw [decide_eq_true_eq]
    rintro artifact
    rcases wellFormed.grown with same | ⟨isExport, _⟩
    · refine exporter.artifactFree ?_
      rw [← same, ← artifact]
      exact mem_map_of_mem member
    exact notExport isExport
  refine ⟨⟨.inl declared, fun _ => declared, ?_, ?_, fun waits => absurd queued waits⟩,
    key, kind, ?_⟩
  · intro _ item member
    rw [adapters] at member
    obtain ⟨old, present, rfl⟩ := mem_map.mp member
    rw [kind]
    unfold resetAdapter
    split
    · exact .inl rfl
    rename_i other
    rcases statuses old (mem_of_mem_filter present) with succeeded | failed | pending
    · exact .inr ⟨succeeded, fun isExport => other (.inl isExport)⟩
    · exact absurd (.inr failed) other
    exact .inl pending
  · intro _ some
    by_cases isExport : job.kind = .export
    · have nonempty : reset.adapters ≠ [] := by
        intro empty
        rw [DataLifecycleJob.adapterNames, empty] at declared
        exact some declared.symm
      obtain ⟨item, member⟩ := exists_mem_of_ne_nil _ nonempty
      refine ⟨item, member, ?_⟩
      rw [adapters] at member
      obtain ⟨old, _, rfl⟩ := mem_map.mp member
      unfold resetAdapter
      rw [if_pos (.inl isExport)]
    obtain ⟨item, member, status⟩ := failed (by rcases ended with ended | ended <;>
      rw [ended] <;> decide)
    refine ⟨_, stays isExport item member, ?_⟩
    unfold resetAdapter
    rw [if_pos (.inr status)]
  intro notExport item member succeeded
  have same : resetAdapter job.kind item = item := by
    unfold resetAdapter
    rw [if_neg]
    rintro (isExport | failed)
    · exact notExport (kind.trans isExport)
    rw [succeeded] at failed
    cases failed
  have there := stays (kind ▸ notExport) item member
  rwa [same] at there

theorem wp_requeue {expected : LifecycleJobStatus} {job : DataLifecycleJob}
  (ended : expected = .partialFailed ∨ expected = .failed)
  (wellFormed : exporter.WellFormed job) (queued : job.status = .queued)
  (revises : Revises known job) :
  (LifecyclePort.compareAndSet expected job).wp (exporter.lifecycleContract calm)
    (fun later _ => later.claimed = none) (fun later _ => later.claimed = none) known := by
  rw [wp_perform]
  rcases ended with rfl | rfl
  all_goals
    refine ⟨⟨wellFormed, queued, revises⟩, ?_, ?_⟩
    · rintro stored later ⟨_, same⟩
      rw [same]
      rfl
    rintro error later ⟨_, same⟩
    rw [same]
    rfl

theorem retryJob_harmless (jobId : String) : exporter.Harmless calm (retryJob tenantId jobId) := by
  intro known unclaimed
  unfold retryJob
  rw [wp_do_perform]
  refine ⟨unclaimed, ?_, ?_⟩
  · rintro current later ⟨wellFormed, same⟩
    have sound : exporter.WellFormed current := wellFormed
    have remembered : later = { known with read := some current } := same
    have idle : later.claimed = none := by
      rw [remembered]
      exact unclaimed
    by_cases refused : current.status ≠ .partialFailed ∧ current.status ≠ .failed
    · rw [if_pos refused]
      exact idle
    have ended : current.status = .partialFailed ∨ current.status = .failed := by
      by_contra other
      exact refused ⟨fun partly => other (.inl partly), fun failed => other (.inr failed)⟩
    rw [if_neg refused, wp_do]
    refine wp_mono (heldBack_steady _ _ _) ?_ fun _ _ failed => failed.1 ▸ idle
    rintro checked blocking kept
    rw [kept]
    cases blocking with
    | some hold => exact idle
    | none =>
      obtain ⟨again, keeps⟩ := wellFormed_retry { current with
        status := .queued
        adapters := (current.adapters.filter (fun item =>
          item.adapter ≠ "export-artifact")).map (resetAdapter current.kind)
        fencingToken := current.fencingToken + 1 } sound ended rfl rfl rfl rfl
      rw [wp_do]
      refine wp_mono (wp_requeue ended again rfl
        ⟨idle, current, by rw [remembered], keeps, rfl⟩) ?_ fun _ _ => id
      intro last stored free
      split
      · exact free
      refine harmless_within ?_ last free
      exact bind (within_free fun _ _ => trivial) fun _ => within_done _
  rintro error later ⟨_, same⟩
  rw [same]
  rfl

theorem service_harmless (request : LifecycleRequest) (service : request ≠ .processOnce) :
  exporter.Harmless calm (exporter.toDataLifecycle.serve request) := by
  cases request with
  | createHold tenantId userId scope reason =>
    exact harmless_within ((createHold_within tenantId userId scope reason).bind
      fun _ => within_done ())
  | releaseHold tenantId userId holdId =>
    exact harmless_within ((releaseHold_within tenantId userId holdId).bind
      fun _ => within_done ())
  | createJob tenantId userId request =>
    exact harmless_next (createJob_harmless tenantId userId request)
      fun _ => harmless_within (within_done ())
  | retryJob tenantId jobId =>
    exact harmless_next (retryJob_harmless tenantId jobId)
      fun _ => harmless_within (within_done ())
  | processOnce => exact absurd rfl service

variable (exporter) in
structure Working (known : Progress) (job : DataLifecycleJob) (fragments : Dict String Json) :
    Prop where
  claimed : known.claimed = some job
  running : job.status = .running
  declared : job.adapterNames = exporter.adapters
  collected : fragments = exporter.collect known.exported

structure Passed (items : List LifecycleAdapterResult) (job : DataLifecycleJob)
    (fragments : Dict String Json) : Prop where
  split : ∃ before, job.adapters = before ++ items ∧ ∀ item ∈ before,
    item.status = .succeeded ∧ (job.kind = .export → (fragments.get? item.adapter).isSome) ∨
      item.status = .failed ∧ job.kind = .export
  waiting : ∀ item ∈ items, item.status = .pending ∨ item.status = .succeeded ∧ job.kind ≠ .export

structure Ended (job : DataLifecycleJob) (fragments : Dict String Json) : Prop where
  statuses : ∀ item ∈ job.adapters,
    item.status = .succeeded ∨ item.status = .failed ∨ item.status = .pending
  through : (∀ item ∈ job.adapters, item.status ≠ .failed) → ∀ item ∈ job.adapters,
    item.status = .succeeded ∧ (job.kind = .export → (fragments.get? item.adapter).isSome)

/-- Looking up an adapter that is not registered is a `KeyError`, and while all is calm no pass
leaves a job behind. -/
abbrev Registered (calm : Prop) (later : Progress) (error : LifecycleError) : Prop :=
  error ≠ .keyError ∧ (calm → later.claimed = none)

section

variable {job : DataLifecycleJob} {fragments : Dict String Json}
  {items : List LifecycleAdapterResult}

theorem withAdapter_split {before : List LifecycleAdapterResult}
  {item replacement : LifecycleAdapterResult}
  (declared : job.adapterNames = exporter.adapters)
  (split : job.adapters = before ++ item :: items)
  (named : replacement.adapter = item.adapter) :
  (withAdapter job replacement).adapters = before ++ replacement :: items := by
  have distinct : job.adapterNames.Nodup := declared ▸ exporter.distinctAdapters
  rw [DataLifecycleJob.adapterNames, split, map_append, map_cons,
    nodup_append, nodup_cons] at distinct
  obtain ⟨_, ⟨unlisted, _⟩, apart⟩ := distinct
  have stays : ∀ others : List LifecycleAdapterResult,
    (∀ other ∈ others, other.adapter ≠ item.adapter) → others.map (fun other =>
        if other.adapter = replacement.adapter then replacement else other) = others := by
    intro others foreign
    conv_rhs => rw [← map_id others]
    apply map_congr_left
    intro other member
    rw [named, if_neg (foreign other member)]
    rfl
  unfold withAdapter
  rw [split, map_append, map_cons, if_pos named.symm, stays before, stays items]
  · exact fun other member same => unlisted (same ▸ mem_map_of_mem member)
  exact fun other member same => apart _ (mem_map_of_mem member) _
    mem_cons_self same

theorem wp_replaceAdapter (replacement : LifecycleAdapterResult)
  (working : exporter.Working known job fragments)
  (fresh : job.kind ≠ .export → ∀ item ∈ job.adapters, item.status = .succeeded →
    item.adapter ≠ replacement.adapter) :
  (lifecycle (replaceAdapter job replacement)).wp (exporter.contract calm)
    (fun later updated => updated = withAdapter job replacement ∧
    exporter.Working later updated fragments)
    (Registered calm) known := by
  apply wp_lifecycle
  have names : (withAdapter job replacement).adapterNames = exporter.adapters :=
    adapterNames_withAdapter.trans working.declared
  have running : (withAdapter job replacement).status = .running := working.running
  have keeps : Keeps job (withAdapter job replacement) := by
    refine ⟨rfl, rfl, ?_⟩
    intro notExport item member succeeded
    refine mem_map.mpr ⟨item, member, ?_⟩
    exact if_neg (fresh notExport item member succeeded)
  unfold replaceAdapter
  rw [wp_do_perform]
  refine ⟨⟨?_, ?_, job, working.claimed, keeps, rfl⟩, ?_, ?_⟩
  · constructor
    · exact .inl names
    · exact fun _ => names
    · exact fun queued => by rw [running] at queued; cases queued
    · exact fun queued => by rw [running] at queued; cases queued
    exact fun _ ended => absurd running ended
  · intro _ succeeded
    rw [running] at succeeded
    cases succeeded
  · intro stored later learned
    obtain ⟨_, same⟩ := learned
    cases stored with
    | false =>
      refine ⟨nofun, fun _ => ?_⟩
      rw [same]
      rfl
    | true =>
      refine ⟨rfl, ?_⟩
      rw [same]
      constructor
      · exact if_pos ⟨rfl, running⟩
      · exact running
      · exact names
      exact working.collected
  rintro error later ⟨registered, same⟩
  refine ⟨registered, fun _ => ?_⟩
  rw [same]
  rfl

theorem wp_runAdapter (adapter : String) (working : exporter.Working known job fragments)
    (turn : job.kind ≠ .export → Turn job adapter) :
    (exporter.runAdapter job adapter fragments).wp (exporter.contract calm)
      (fun later result =>
        match result with
        | .error _ => exporter.Working later job fragments
        | .ok (_, fragments') => exporter.Working later job fragments' ∧
            (job.kind = .export → (fragments'.get? adapter).isSome ∧
              ∀ name, (fragments.get? name).isSome → (fragments'.get? name).isSome))
      (Registered calm) known := by
  unfold runAdapter
  rw [wp_catching]
  by_cases isExport : job.kind = .export
  · dsimp only
    rw [if_pos isExport, wp_do_perform]
    refine ⟨⟨job, working.claimed, rfl⟩, ?_, ?_⟩
    · intro answer later learned
      obtain ⟨fragment, count⟩ := answer
      obtain ⟨_, same⟩ := learned
      rw [same]
      refine ⟨⟨working.claimed, working.running, working.declared, ?_⟩, fun _ => ⟨?_, ?_⟩⟩
      · change _ = exporter.collect (known.exported ++ [(adapter, fragment)])
        rw [collect_append, working.collected]
      · rw [get?_set_self]
        rfl
      intro name present
      rw [get?_set]
      split
      · rfl
      exact present
    intro error later learned
    obtain ⟨_, same⟩ := learned
    rw [same]
    exact working
  rw [if_neg isExport, wp_do]
  apply wp_lifecycle
  rw [wp_perform]
  refine ⟨⟨job, working.claimed, rfl, isExport, turn isExport⟩, ?_, ?_⟩
  · intro count later learned
    obtain ⟨_, same⟩ := learned
    rw [same]
    exact ⟨working, fun kind => absurd kind isExport⟩
  intro error later learned
  obtain ⟨_, same⟩ := learned
  rw [same]
  exact working

theorem wp_runAdapters (working : exporter.Working known job fragments)
  (passed : Passed items job fragments) :
  (exporter.runAdapters items job fragments).wp (exporter.contract calm)
    (fun later result => exporter.Working later result.1 result.2 ∧ Ended result.1 result.2)
    (Registered calm) known := by
  induction items generalizing known job fragments with
  | nil =>
    obtain ⟨before, whole, done⟩ := passed.split
    rw [append_nil] at whole
    rw [← whole] at done
    refine ⟨working, ?_, ?_⟩
    · exact fun item member => (done item member).imp And.left fun failed => .inl failed.1
    exact fun unfailed item member => (done item member).resolve_right
      (fun failed => unfailed item member failed.1)
  | cons item items ih =>
    obtain ⟨before, split, done⟩ := passed.split
    have later : ∀ other ∈ items,
      other.status = .pending ∨ other.status = .succeeded ∧ job.kind ≠ .export :=
      fun other member => passed.waiting other (mem_cons_of_mem item member)
    have own := passed.waiting item mem_cons_self
    -- The next result takes its place, whatever it is.
    have next : ∀ {job' : DataLifecycleJob} {replacement : LifecycleAdapterResult}
      {fragments' : Dict String Json}, job'.kind = job.kind →
      job'.adapters = before ++ replacement :: items →
      (job.kind = .export → ∀ name, (fragments.get? name).isSome → (fragments'.get? name).isSome) →
      (replacement.status = .succeeded ∧
        (job.kind = .export → (fragments'.get? replacement.adapter).isSome) ∨
          replacement.status = .failed ∧ job.kind = .export) →
      Passed items job' fragments' := by
      intro job' replacement fragments' kind placed grown result
      constructor
      · refine ⟨before ++ [replacement], by rw [placed, append_assoc]; rfl, ?_⟩
        intro entry member
        rw [kind]
        rcases mem_append.mp member with old | new
        · exact (done entry old).imp_left (fun succeeded =>
            ⟨succeeded.1, fun isExport => grown isExport _ (succeeded.2 isExport)⟩)
        rw [mem_singleton.mp new]
        exact result
      rw [kind]
      exact later
    unfold runAdapters
    by_cases succeeded : item.status = .succeeded
    · rw [if_pos succeeded]
      have notExport : job.kind ≠ .export := by
        rcases own with pending | ⟨_, notExport⟩
        · rw [succeeded] at pending
          cases pending
        exact notExport
      exact ih working (next rfl split (fun _ _ => id)
        (.inl ⟨succeeded, fun isExport => absurd isExport notExport⟩))
    have declared : item.adapter ∈ exporter.adapters := by
      rw [← working.declared, DataLifecycleJob.adapterNames, split]
      exact mem_map_of_mem (mem_append_right _ mem_cons_self)
    have registered : ¬exporter.adapters.contains item.adapter = false := by
      rw [contains_iff_mem.mpr declared]
      nofun
    rw [if_neg succeeded, if_neg registered]
    -- No other result of the job bears the adapter's name.
    have placed : ∀ (replacement : LifecycleAdapterResult) {job' : DataLifecycleJob}
      {old : LifecycleAdapterResult}, job'.adapterNames = exporter.adapters →
      job'.adapters = before ++ old :: items → replacement.adapter = old.adapter →
      old.status ≠ .succeeded →
      (withAdapter job' replacement).adapters = before ++ replacement :: items ∧
        ∀ entry ∈ job'.adapters, entry.status = .succeeded →
          entry.adapter ≠ replacement.adapter := by
      intro replacement job' old names split named unfinished
      refine ⟨withAdapter_split names split named, ?_⟩
      intro entry member finished same
      have distinct : job'.adapterNames.Nodup := names ▸ exporter.distinctAdapters
      have position : old ∈ job'.adapters := by
        rw [split]
        exact mem_append_right _ mem_cons_self
      have equal := inj_on_of_nodup_map distinct member position (same.trans named)
      rw [equal] at finished
      exact unfinished finished
    obtain ⟨first, foreign⟩ := placed { item with
      status := .running, attempts := item.attempts + 1 } working.declared split rfl succeeded
    rw [wp_do]
    refine wp_mono (wp_replaceAdapter _ working fun _ => foreign) ?_ fun _ _ => id
    rintro starting running ⟨started, working⟩
    rw [← started] at first
    have kind : running.kind = job.kind := by
      rw [started]
      rfl
    rw [wp_do]
    refine wp_mono (wp_runAdapter item.adapter working ?_) ?_ fun _ _ => id
    · intro notExport
      refine ⟨before, _, items, first, rfl, nofun, ?_⟩
      intro earlier member
      exact ((done earlier member).resolve_right fun failed => notExport (kind.trans failed.2)).1
    intro answering result answered
    cases result with
    | error error =>
      obtain ⟨failing, foreign⟩ := placed { item with
        status := .failed, attempts := item.attempts + 1, errorCode := some error.typeName
        errorMessage := some "Adapter operation failed; retry is available." }
        answered.declared first rfl nofun
      rw [wp_do]
      refine wp_mono (wp_replaceAdapter _ answered fun _ => foreign) ?_
        (fun _ _ => id)
      rintro last updated ⟨replaced, working⟩
      rw [← replaced] at failing
      have kind' : updated.kind = job.kind := by
        rw [replaced]
        exact kind
      by_cases isExport : updated.kind = .export
      · rw [if_pos isExport]
        exact ih working (next kind' failing (fun _ _ => id)
          (.inr ⟨rfl, kind' ▸ isExport⟩))
      rw [if_neg isExport]
      refine ⟨working, ?_, ?_⟩
      · intro entry member
        rw [failing] at member
        rcases mem_append.mp member with old | new
        · exact (done entry old).imp And.left fun failed => .inl failed.1
        rcases mem_cons.mp new with same | rest
        · rw [same]
          exact .inr (.inl rfl)
        rcases later entry rest with pending | succeeded
        · exact .inr (.inr pending)
        exact .inl succeeded.1
      intro unfailed
      rw [failing] at unfailed
      exact absurd rfl (unfailed _ (mem_append_right before mem_cons_self))
    | ok answer =>
      obtain ⟨count, fragments'⟩ := answer
      obtain ⟨answered, grown⟩ := answered
      obtain ⟨ending, foreign⟩ := placed { item with
        status := .succeeded, attempts := item.attempts + 1, processedItems := count
        errorCode := none, errorMessage := none } answered.declared first rfl nofun
      rw [wp_do]
      refine wp_mono (wp_replaceAdapter _ answered fun _ => foreign) ?_
        (fun _ _ => id)
      rintro last updated ⟨replaced, working⟩
      rw [← replaced] at ending
      have kind' : updated.kind = job.kind := by
        rw [replaced]
        exact kind
      exact ih working (next kind' ending (fun isExport => (grown (kind.trans isExport)).2)
        (.inl ⟨rfl, fun isExport => (grown (kind.trans isExport)).1⟩))

theorem holds_of_ended {archive : ExportArchive} {exported : List (String × Json)}
  (declared : job.adapterNames = exporter.adapters) (isExport : job.kind = .export)
  (ended : Ended job (exporter.collect exported))
  (unfailed : ∀ item ∈ job.adapters, item.status ≠ .failed)
  (written : exporter.files (exporter.collect exported) = .ok archive.files) :
  exporter.Holds exported archive := by
  intro adapter member
  rw [← declared] at member
  obtain ⟨item, present, named⟩ := mem_map.mp member
  have found := (ended.through unfailed item present).2 isExport
  rw [named, get?_collect, Option.isSome_map] at found
  obtain ⟨fragment, last⟩ := Option.isSome_iff_exists.mp found
  have collected : (exporter.collect exported).get? adapter =
    some (sanitizeExport exporter.redactText "" fragment) := by
    rw [get?_collect, last]
    rfl
  obtain ⟨text, dumped, filed⟩ := files_has written collected
  exact ⟨fragment, text, last, dumped, filed⟩

variable (exporter) in
structure Concluded (job : DataLifecycleJob) (known : Progress) (result : DataLifecycleJob) :
    Prop where
  claimed : known.claimed = some job
  keeps : Keeps job result
  token : result.fencingToken = job.fencingToken
  grown : result.adapterNames = exporter.adapters ∨
    result.kind = .export ∧ result.adapterNames = exporter.adapters ++ ["export-artifact"]
  statuses : ∀ item ∈ result.adapters,
    item.status = .succeeded ∨ item.status = .failed ∨ item.status = .pending
  through : (∀ item ∈ result.adapters, item.status ≠ .failed) →
    ∀ item ∈ result.adapters, item.status = .succeeded
  archived : result.kind = .export → (∀ item ∈ result.adapters, item.status ≠ .failed) →
    ∃ archive, known.archived = some archive ∧ exporter.Holds known.exported archive

theorem concluded_artifact {item : LifecycleAdapterResult} {result : DataLifecycleJob}
  (working : exporter.Working known job fragments) (ended : Ended job fragments)
  (isExport : job.kind = .export) (claimed : known'.claimed = some job)
  (artifact : item.adapter = "export-artifact")
  (status : item.status = .succeeded ∨ item.status = .failed)
  (key : result.key = job.key) (kind : result.kind = job.kind)
  (token : result.fencingToken = job.fencingToken)
  (appended : result.adapters = job.adapters ++ [item])
  (archived : (∀ entry ∈ job.adapters, entry.status ≠ .failed) → item.status ≠ .failed →
    ∃ archive, known'.archived = some archive ∧ exporter.Holds known'.exported archive) :
  exporter.Concluded job known' result := by
  have both : (∀ entry ∈ result.adapters, entry.status ≠ .failed) →
    (∀ entry ∈ job.adapters, entry.status ≠ .failed) ∧ item.status ≠ .failed := by
    rw [appended]
    intro unfailed
    exact ⟨fun entry member => unfailed entry (mem_append_left _ member),
      unfailed item (mem_append_right _ mem_cons_self)⟩
  constructor
  · exact claimed
  · exact ⟨key, kind, fun notExport => absurd (kind.trans isExport) notExport⟩
  · exact token
  · refine .inr ⟨kind.trans isExport, ?_⟩
    rw [DataLifecycleJob.adapterNames, appended, map_append, ← working.declared]
    exact congrArg (fun name => job.adapterNames ++ [name]) artifact
  · intro entry member
    rw [appended] at member
    rcases mem_append.mp member with old | new
    · exact ended.statuses entry old
    rw [mem_singleton.mp new]
    exact status.imp_right .inl
  · intro unfailed entry member
    obtain ⟨before, last⟩ := both unfailed
    rw [appended] at member
    rcases mem_append.mp member with old | new
    · exact (ended.through before entry old).1
    rw [mem_singleton.mp new]
    exact status.resolve_right last
  exact fun _ unfailed => archived (both unfailed).1 (both unfailed).2

theorem wp_archive {createdAt : Int} {post : Progress → ExportArchive → Prop}
  {fail : Progress → LifecycleError → Prop}
  (written : ∀ archive, exporter.files fragments = .ok archive.files → post known archive)
  (refused : ∀ error, fail known error) :
  (exporter.archive job createdAt fragments).wp (exporter.contract calm) post fail known := by
  unfold archive
  cases files : exporter.files fragments with
  | error error => exact refused error
  | ok files => exact written _ files

theorem wp_conclude (working : exporter.Working known job fragments) (ended : Ended job fragments) :
  (exporter.conclude job fragments).wp (exporter.contract calm) (exporter.Concluded job)
    (Registered calm) known := by
  unfold conclude
  by_cases isExport : job.kind = .export
  · rw [if_neg (not_not.mpr isExport), wp_catching]
    have failed : ∀ later : Progress, later.claimed = some job →
        ∀ error : LifecycleError, exporter.Concluded job later
          { job with
            adapters := job.adapters ++
              [{ adapter := "export-artifact", status := .failed, attempts := 1
                 errorCode := some error.typeName
                 errorMessage :=
                  some "Export artifact could not be stored; retry is available." }] } := by
      intro later claimed error
      exact concluded_artifact working ended isExport claimed rfl (.inr rfl) rfl rfl rfl rfl
        (fun _ impossible => absurd rfl impossible)
    unfold storeExport
    rw [wp_do]
    apply wp_lifecycle
    rw [wp_perform]
    refine ⟨trivial, ?_, ?_⟩
    · rintro createdAt later ⟨_, same⟩
      have kept : later = known := same
      rw [kept, wp_do]
      apply wp_archive
      · intro archive written
        rw [wp_do_perform]
        refine ⟨⟨job, working.claimed, rfl, rfl⟩, ?_, ?_⟩
        · rintro _ last ⟨_, stored⟩
          rw [stored]
          refine concluded_artifact working ended isExport working.claimed rfl (.inl rfl) rfl
            rfl rfl rfl ?_
          intro unfailed _
          refine ⟨archive, rfl, ?_⟩
          rw [working.collected] at ended written
          exact holds_of_ended working.declared isExport ended unfailed written
        rintro error last ⟨_, stored⟩
        rw [stored]
        exact failed { known with archived := none } working.claimed error
      exact failed known working.claimed
    rintro error later ⟨_, same⟩
    have kept : later = known := same
    rw [kept]
    exact failed known working.claimed error
  rw [if_pos isExport]
  constructor
  · exact working.claimed
  · exact ⟨rfl, rfl, fun _ item member _ => member⟩
  · rfl
  · exact .inl working.declared
  · exact ended.statuses
  · exact fun unfailed item member => (ended.through unfailed item member).1
  exact fun kind => absurd kind isExport

theorem wp_finish (working : exporter.Working known job fragments) (ended : Ended job fragments) :
  (exporter.finish job fragments).wp (exporter.contract calm)
    (fun later _ => later.claimed = none) (Registered calm) known := by
  unfold finish
  rw [wp_do]
  refine wp_mono (wp_conclude working ended) ?_ fun _ _ => id
  intro later result concluded
  rw [wp_do]
  apply wp_lifecycle
  have terminal := outcome_terminal result
  have succeeds : outcome result = .succeeded ↔
    ∀ item ∈ result.adapters, item.status = .succeeded := by
    rw [outcome_succeeded]
    refine ⟨concluded.through, ?_⟩
    intro succeeded item member failed
    rw [succeeded item member] at failed
    cases failed
  rw [wp_perform]
  refine ⟨⟨⟨concluded.grown, ?_, ?_, ?_, ?_⟩, ?_, job, concluded.claimed, ?_, ?_⟩, ?_, ?_⟩
  · intro active
    exact (active.elim terminal.1 terminal.2).elim
  · exact fun queued => absurd queued terminal.1
  · exact fun queued => absurd queued terminal.1
  · intro _ _
    refine ⟨succeeds, concluded.statuses, ?_⟩
    intro unsuccessful
    by_contra unfailed
    refine unsuccessful (outcome_succeeded.mpr ?_)
    exact fun item member failed => unfailed ⟨item, member, failed⟩
  · exact fun isExport succeeded => concluded.archived isExport (outcome_succeeded.mp succeeded)
  · exact ⟨concluded.keeps.key, concluded.keeps.kind, concluded.keeps.marks⟩
  · exact congrArg (fun token => token + 1) concluded.token
  · rintro stored last ⟨_, same⟩
    have released : last.claimed = none := by
      rw [same]
      exact if_neg fun both => terminal.2 both.2
    split
    · exact ⟨nofun, fun _ => released⟩
    exact released
  rintro error last ⟨registered, same⟩
  refine ⟨registered, fun _ => ?_⟩
  rw [same]
  rfl

theorem wp_heldBack (kind : LifecycleJobKind) (tenantId : String) (scope : LifecycleScope) :
  (lifecycle (heldBack kind tenantId scope)).wp (exporter.contract calm)
    (fun later _ => later = known) (Registered calm) known :=
  wp_lifecycle (wp_mono (heldBack_steady kind tenantId scope) (fun _ _ => id)
    fun _ _ failed => failed.2)

theorem wp_markHoldFailure (holdId : String) (working : exporter.Working known job fragments)
  (waiting : ∀ item ∈ job.adapters, item.status = .pending ∨ item.status = .succeeded)
  (pending : calm → ∃ item ∈ job.adapters, item.status = .pending) :
  (lifecycle (markHoldFailure job holdId)).wp (exporter.contract calm)
    (fun later marked => exporter.Working later marked fragments ∧ Ended marked fragments)
    (Registered calm) known := by
  unfold markHoldFailure
  cases found : job.adapters.find? (fun item => item.status ≠ .succeeded) with
  | none =>
    refine ⟨nofun, fun calm => ?_⟩
    obtain ⟨item, member, status⟩ := pending calm
    have finished := find?_eq_none.mp found item member
    rw [status] at finished
    exact absurd rfl finished
  | some target =>
    have member := mem_of_find?_eq_some found
    have unfinished : target.status ≠ .succeeded := by
      have chosen := find?_some found
      exact of_decide_eq_true chosen
    refine wp_mono (wp_replaceAdapter _ working ?_) ?_ fun _ _ => id
    · intro _ item present succeeded same
      have distinct : job.adapterNames.Nodup := working.declared ▸ exporter.distinctAdapters
      rw [inj_on_of_nodup_map distinct present member same] at succeeded
      exact unfinished succeeded
    rintro later marked ⟨replaced, working⟩
    refine ⟨working, ?_, ?_⟩
    · intro item present
      rw [replaced] at present
      rcases mem_withAdapter present with failed | ⟨old, _⟩
      · rw [failed]
        exact .inr (.inl rfl)
      rcases waiting item old with pending | succeeded
      · exact .inr (.inr pending)
      exact .inl succeeded
    intro unfailed
    refine absurd rfl (unfailed { target with
      status := .failed, errorCode := some "LegalHoldActive"
      errorMessage := some ("Deletion is blocked by legal hold " ++ holdId ++ ".") } ?_)
    rw [replaced]
    exact mem_map.mpr ⟨target, member, if_pos rfl⟩

theorem wp_processOnce (declared : calm → exporter.adapters ≠ [])
  (unclaimed : known.claimed = none) :
  exporter.processOnce.wp (exporter.contract calm) (fun later _ => later.claimed = none)
    (Registered calm) known := by
  unfold processOnce
  rw [wp_do]
  apply wp_lifecycle
  rw [wp_perform]
  refine ⟨unclaimed, ?_, ?_⟩
  · rintro jobs later ⟨runnable, listed⟩
    have remembered : later = { known with read := jobs.head? } := listed
    cases jobs with
    | nil =>
      rw [remembered]
      exact unclaimed
    | cons queued rest =>
      obtain ⟨wellFormed, waits⟩ := runnable queued mem_cons_self
      have names := wellFormed.declared (.inl waits)
      rw [wp_do]
      apply wp_lifecycle
      rw [wp_perform]
      refine ⟨⟨⟨.inl names, fun _ => names, nofun, nofun, fun _ ended => absurd rfl ended⟩,
        rfl, by rw [remembered]; exact unclaimed, queued, by rw [remembered]; rfl,
        ⟨rfl, rfl, fun _ item member _ => member⟩, rfl⟩, ?_, ?_⟩
      · rintro stored claimed ⟨_, same⟩
        cases stored with
        | false =>
          rw [same]
          rfl
        | true =>
          have working : exporter.Working claimed
              { queued with status := .running, fencingToken := queued.fencingToken + 1 }
              Dict.empty := by
            rw [same]
            exact ⟨rfl, rfl, names, rfl⟩
          rw [if_neg (by exact nofun), wp_do]
          refine wp_mono (wp_heldBack _ _ _) ?_ fun _ _ => id
          rintro checked blocking kept
          rw [kept]
          cases blocking with
          | some hold =>
            rw [wp_do]
            refine wp_mono (wp_markHoldFailure hold.holdId working ?_ ?_) ?_
              (fun _ _ => id)
            · exact fun item member => (wellFormed.waiting waits item member).imp_right
                And.left
            · exact fun calm => wellFormed.pending waits (declared calm)
            rintro marking marked ⟨working, ended⟩
            exact wp_finish working ended
          | none =>
            rw [wp_do]
            refine wp_mono (wp_runAdapters working ⟨⟨[], rfl, ?_⟩, ?_⟩) ?_
              (fun _ _ => id)
            · exact fun _ member => nomatch member
            · exact wellFormed.waiting waits
            rintro processing ⟨processed, fragments⟩ ⟨working, ended⟩
            exact wp_finish working ended
      rintro error last ⟨registered, same⟩
      refine ⟨registered, fun _ => ?_⟩
      rw [same]
      rfl
  rintro error later ⟨registered, same⟩
  refine ⟨registered, fun _ => ?_⟩
  rw [same]
  rfl

theorem wp_serve (request : LifecycleRequest) (declared : calm → exporter.adapters ≠ [])
  (unclaimed : known.claimed = none) :
  (exporter.serve request).wp (exporter.contract calm) (fun later _ => later.claimed = none)
    (fun later error => (request = .processOnce → error ≠ .keyError) ∧
    (calm → later.claimed = none)) known := by
  by_cases pass : request = .processOnce
  · rw [pass]
    unfold serve
    rw [wp_bind]
    exact wp_mono (wp_processOnce declared unclaimed) (fun _ _ => id)
      (fun _ _ failed => ⟨fun _ => failed.1, failed.2⟩)
  have service : exporter.serve request = lifecycle (exporter.toDataLifecycle.serve request) := by
    cases request with
    | processOnce => exact absurd rfl pass
    | _ => rfl
  rw [service]
  exact wp_mono (wp_lifecycle (service_harmless request pass known unclaimed))
    (fun _ _ => id)
    (fun _ _ released => ⟨fun impossible => absurd impossible pass, fun _ => released⟩)

end

end

end Exporter

end AgentHarness.Lifecycle
