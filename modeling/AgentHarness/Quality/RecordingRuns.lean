import AgentHarness.Quality.RecordingConduct

/-!
When what recordings leave behind is right.
-/

namespace AgentHarness.Quality

open Collections Interaction Dict Function List Pool QualityService QualityStores

variable {Value : Type}

section

variable [DecidableEq Value] (service : QualityService Value)

def Orderly (stores : QualityStores Value) (_ : Nat) (op : QualityOp Value)
  (input : QualityInput Value) : Prop :=
  match op with
  | .listAfter _ _ | .listForRun _ _ | .clock => True
  | .addScore score => input.failed = false →
      match stores.getScore score.key with
      | none => ∀ entry ∈ stores.reading, service.covers entry.2.1 entry.2.2 score = false
      | some existing => existing = score
  | .addSync job => input.failed = false ∧
      ((stores.syncs.get? (job.tenantId, job.syncId)).isSome = true →
        { tenantId := job.tenantId, syncId := job.syncId } ∈ stores.queued)
  | .enqueue _ | .listRules _ _ | .listScores _ _ _ _ | .listIncidents _ _ => input.failed = false
  | .upsertIncident incident => input.failed = false ∧
      ∀ old ∈ stores.incidents.get? (incident.tenantId, incident.incidentId),
        old.ruleId = incident.ruleId ∧ old.agentVersion = incident.agentVersion
  | .addRule rule => input.failed = false → (stores.rules.get? rule.key).isNone = true →
      rule.enabled = true → ∀ score ∈ stores.scores,
        (stores.covered service rule score.agentVersion).length < rule.minimumSamples

instance (stores : QualityStores Value) (actor : Nat) (op : QualityOp Value)
  (input : QualityInput Value) : Decidable (Orderly service stores actor op input) := by
  unfold Orderly
  cases op with
  | addScore score =>
    dsimp only
    cases stores.getScore score.key with
    | none | some existing => infer_instance
  | _ => infer_instance

end

section

variable (service : QualityService Value) (stores : QualityStores Value)

def Judged (rule : AlertRule Value) (version : String) : Prop :=
  (stores.covered service rule version).length < rule.minimumSamples ∨
    ∃ incident, stores.incidents.get? (rule.tenantId, service.incidentId rule version) =
        some incident ∧
      incident.ruleId = rule.ruleId ∧ incident.agentVersion = version ∧
        (incident.state = .open ↔ service.python.below
          (service.python.observed (stores.covered service rule version)) rule.minimumValue = true)

def Owes (rule : AlertRule Value) (version : String) : Phase Value → Prop
  | .waiting | .idle => False
  | .fresh score | .filed score | .synced score => service.covers rule version score = true
  | .listed score rest => rule ∈ rest ∧ service.covers rule version score = true
  | .read score current rest _ =>
    (rule = current ∨ rule ∈ rest) ∧ service.covers rule version score = true

def Due (score : QualityScore Value) (rule : AlertRule Value) : Prop :=
  stores.rules.get? rule.key = some rule ∧ service.covers rule score.agentVersion score = true

def Filed (task : QualityTask) : Prop :=
  (stores.syncs.get? (task.tenantId, task.syncId)).isSome = true

def Placed (actor : Nat) : Phase Value → Prop
  | .waiting | .idle => True
  | .fresh score | .synced score => score ∈ stores.scores
  | .filed score => score ∈ stores.scores ∧ Filed stores (service.taskOf score)
  | .listed score rest => score ∈ stores.scores ∧ ∀ rule ∈ rest, Due service stores score rule
  | .read score rule rest matching => score ∈ stores.scores ∧ Due service stores score rule ∧
      (∀ rule ∈ rest, Due service stores score rule) ∧
        matching = stores.covered service rule score.agentVersion ∧
          (actor, rule, score.agentVersion) ∈ stores.reading

structure Kept (stores : QualityStores Value) (known : Nat → Progress Value) : Prop where
  sound : ∀ score ∈ stores.scores, service.Sound score
  distinct : (stores.scores.map QualityScore.key).Nodup
  filed : ∀ key rule, stores.rules.get? key = some rule → key = rule.key
  queued : ∀ score ∈ stores.scores, service.taskOf score ∈ stores.queued ∨
    ∃ actor, (known actor).phase = .fresh score ∨ (known actor).phase = .filed score
  jobs : ∀ task ∈ stores.queued, Filed stores task
  judged : ∀ key rule version, stores.rules.get? key = some rule → rule.enabled = true →
    Judged service stores rule version ∨ ∃ actor, Owes service rule version (known actor).phase
  placed : ∀ actor, Placed service stores actor (known actor).phase
  stored : ∀ actor, ∀ score ∈ (known actor).stored,
    score ∈ stores.scores ∧ service.taskOf score ∈ stores.queued
  begun : ∀ actor, (known actor).phase ≠ .waiting → actor ∈ stores.begun

end

structure Grows (service : QualityService Value) (stores later : QualityStores Value)
    (other : Nat) : Prop where
  scores : ∀ score ∈ stores.scores, score ∈ later.scores
  rules : ∀ rule : AlertRule Value, stores.rules.get? rule.key = some rule →
    later.rules.get? rule.key = some rule
  queued : ∀ task ∈ stores.queued, task ∈ later.queued
  jobs : ∀ task, Filed stores task → Filed later task
  covered : ∀ rule version, (other, rule, version) ∈ stores.reading →
    later.covered service rule version = stores.covered service rule version
  reading : ∀ rule version, (other, rule, version) ∈ stores.reading →
    (other, rule, version) ∈ later.reading
  begun : ∀ actor ∈ stores.begun, actor ∈ later.begun

section

variable {service : QualityService Value} {stores later : QualityStores Value}
  {known : Nat → Progress Value} {actor other : Nat} {next : Progress Value}

theorem Grows.refl : Grows service stores stores other where
  scores _ present := present
  rules _ found := found
  queued _ member := member
  jobs _ filed := filed
  covered _ _ _ := rfl
  reading _ _ member := member
  begun _ member := member

theorem Grows.due (grows : Grows service stores later other)
  {score : QualityScore Value} {rule : AlertRule Value} (due : Due service stores score rule) :
  Due service later score rule :=
  ⟨grows.rules rule due.1, due.2⟩

theorem Grows.placed (grows : Grows service stores later other) {phase : Phase Value}
  (placed : Placed service stores other phase) : Placed service later other phase := by
  cases phase with
  | waiting | idle => trivial
  | fresh score | synced score => exact grows.scores score placed
  | filed score => exact ⟨grows.scores score placed.1, grows.jobs _ placed.2⟩
  | listed score rest =>
    exact ⟨grows.scores score placed.1, fun rule member => grows.due (placed.2 rule member)⟩
  | read score rule rest matching =>
    obtain ⟨present, due, rests, same, reading⟩ := placed
    exact ⟨grows.scores score present, grows.due due,
      fun rule member => grows.due (rests rule member),
      same.trans (grows.covered rule _ reading).symm, grows.reading rule _ reading⟩

section

variable (kept : Kept service stores known)

include kept

theorem Kept.moves (sound : ∀ score ∈ later.scores, service.Sound score)
  (distinct : (later.scores.map QualityScore.key).Nodup)
  (filed : ∀ key rule, later.rules.get? key = some rule → key = rule.key)
  (queued : ∀ score ∈ later.scores, service.taskOf score ∈ later.queued ∨
    (next.phase = .fresh score ∨ next.phase = .filed score) ∨ ∃ other, other ≠ actor ∧
    ((known other).phase = .fresh score ∨ (known other).phase = .filed score))
  (jobs : ∀ task ∈ later.queued, Filed later task)
  (judged : ∀ key rule version, later.rules.get? key = some rule → rule.enabled = true →
    Judged service later rule version ∨ Owes service rule version next.phase ∨
    ∃ other, other ≠ actor ∧ Owes service rule version (known other).phase)
  (grows : ∀ other, Grows service stores later other ∨ other = actor)
  (scores : ∀ score ∈ stores.scores, score ∈ later.scores)
  (tasks : ∀ task ∈ stores.queued, task ∈ later.queued)
  (placed : Placed service later actor next.phase) (stored : ∀ score ∈ next.stored,
    score ∈ (known actor).stored ∨ score ∈ later.scores ∧ service.taskOf score ∈ later.queued)
  (begun : ∀ actor ∈ stores.begun, actor ∈ later.begun)
  (begins : next.phase ≠ .waiting → actor ∈ later.begun) :
  Kept service later (update known actor next) := by
  constructor
  · exact sound
  · exact distinct
  · exact filed
  · intro score found
    rcases queued score found with done | own | ⟨other, different, theirs⟩
    · exact .inl done
    · exact .inr ⟨actor, by rw [update_self]; exact own⟩
    exact .inr ⟨other, by rw [update_of_ne different]; exact theirs⟩
  · exact jobs
  · intro key rule version found enabled
    rcases judged key rule version found enabled with done | own | ⟨other, different, theirs⟩
    · exact .inl done
    · exact .inr ⟨actor, by rw [update_self]; exact own⟩
    exact .inr ⟨other, by rw [update_of_ne different]; exact theirs⟩
  · intro other
    rcases update_cases known actor next other with ⟨rfl, now⟩ | ⟨different, now⟩
    · rw [now]
      exact placed
    rw [now]
    exact ((grows other).resolve_right different).placed (kept.placed other)
  · intro other score member
    have before : ∀ progress : Nat, score ∈ (known progress).stored →
      score ∈ later.scores ∧ service.taskOf score ∈ later.queued := by
      intro progress member
      obtain ⟨present, queued⟩ := kept.stored progress score member
      exact ⟨scores score present, tasks _ queued⟩
    rcases update_cases known actor next other with ⟨rfl, now⟩ | ⟨_, now⟩
    · rw [now] at member
      exact (stored score member).elim (before other) id
    rw [now] at member
    exact before other member
  intro other moving
  rcases update_cases known actor next other with ⟨rfl, now⟩ | ⟨_, now⟩
  · rw [now] at moving
    exact begins moving
  rw [now] at moving
  exact begun other (kept.begun other moving)

theorem Kept.same : Kept service stores (update known actor (known actor)) := by
  rw [update_eq_self]
  exact kept

theorem Kept.sees (actor : Nat) {score : QualityScore Value} (found : score ∈ stores.scores) :
  service.taskOf score ∈ stores.queued ∨
    ((known actor).phase = .fresh score ∨ (known actor).phase = .filed score) ∨
    ∃ other, other ≠ actor ∧
    ((known other).phase = .fresh score ∨ (known other).phase = .filed score) := by
  rcases kept.queued score found with done | ⟨other, theirs⟩
  · exact .inl done
  by_cases same : other = actor
  · subst other
    exact .inr (.inl theirs)
  exact .inr (.inr ⟨other, same, theirs⟩)

theorem Kept.owes (actor : Nat) {key : String × String} {rule : AlertRule Value}
  (version : String) (found : stores.rules.get? key = some rule) (enabled : rule.enabled = true) :
  Judged service stores rule version ∨ Owes service rule version (known actor).phase ∨
    ∃ other, other ≠ actor ∧ Owes service rule version (known other).phase := by
  rcases kept.judged key rule version found enabled with done | ⟨other, theirs⟩
  · exact .inl done
  by_cases same : other = actor
  · subst other
    exact .inr (.inl theirs)
  exact .inr (.inr ⟨other, same, theirs⟩)

theorem Kept.learns (scores : later.scores = stores.scores)
  (rules : later.rules = stores.rules) (incidents : later.incidents = stores.incidents)
  (syncs : ∀ task, Filed stores task → Filed later task)
  (jobs : ∀ task ∈ later.queued, Filed later task)
  (tasks : ∀ task ∈ stores.queued, task ∈ later.queued)
  (reading : ∀ other, other ≠ actor → ∀ rule version, (other, rule, version) ∈ stores.reading →
    (other, rule, version) ∈ later.reading) (begun : ∀ actor ∈ stores.begun, actor ∈ later.begun)
  (begins : next.phase ≠ .waiting → actor ∈ later.begun) (queued : ∀ score ∈ stores.scores,
    (known actor).phase = .fresh score ∨ (known actor).phase = .filed score →
    service.taskOf score ∈ later.queued ∨ next.phase = .fresh score ∨ next.phase = .filed score)
  (owed : ∀ rule version, stores.rules.get? rule.key = some rule → rule.enabled = true →
    Owes service rule version (known actor).phase →
    Judged service stores rule version ∨ Owes service rule version next.phase)
  (placed : Placed service later actor next.phase) (stored : ∀ score ∈ next.stored,
    score ∈ (known actor).stored ∨ score ∈ later.scores ∧ service.taskOf score ∈ later.queued) :
  Kept service later (update known actor next) := by
  have covered : ∀ rule version,
    later.covered service rule version = stores.covered service rule version := by
    intro rule version
    unfold QualityStores.covered
    rw [scores]
  have present : ∀ score ∈ stores.scores, score ∈ later.scores := by
    rw [scores]
    exact fun _ => id
  have judged : ∀ rule version, Judged service stores rule version →
    Judged service later rule version := by
    intro rule version
    unfold Judged
    rw [covered, incidents]
    exact id
  refine kept.moves ?_ ?_ ?_ ?_ jobs ?_ ?_ present tasks placed stored begun begins
  · rw [scores]
    exact kept.sound
  · rw [scores]
    exact kept.distinct
  · rw [rules]
    exact kept.filed
  · intro score found
    rw [scores] at found
    rcases kept.sees actor found with done | own | theirs
    · exact .inl (tasks _ done)
    · exact (queued score found own).imp_right .inl
    exact .inr (.inr theirs)
  · intro key rule version found enabled
    rw [rules] at found
    rcases kept.owes actor version found enabled with done | own | theirs
    · exact .inl (judged rule version done)
    · have same := kept.filed key rule found
      subst key
      rcases owed rule version found enabled own with done | later
      · exact .inl (judged rule version done)
      exact .inr (.inl later)
    exact .inr (.inr theirs)
  intro other
  by_cases same : other = actor
  · exact .inr same
  refine .inl
    { scores := present, rules := fun rule found => by rw [rules]; exact found
      queued := tasks, jobs := syncs, covered := fun rule version _ => covered rule version
      reading := reading other same, begun }

end

end

section

variable {service : QualityService Value} {stores : QualityStores Value}
  {known : Nat → Progress Value} {actor : Nat}

def Follows (service : QualityService Value) (known : Nat → Progress Value) (actor : Nat)
  (op : QualityOp Value) (reply : Except QualityError op.Answer × QualityStores Value) : Prop :=
  QualityService.Foreseen op reply.1 ∧ Kept service reply.2
      (update known actor (service.after (known actor) op reply.1))

variable {phase : Phase Value} {rule : AlertRule Value} {score : QualityScore Value}
  {rest : List (AlertRule Value)} {input : QualityInput Value}

theorem not_owes {version : String} (rested : Rested phase) : ¬Owes service rule version phase := by
  cases phase with
  | idle => exact id
  | listed score rest =>
    cases rested
    exact fun owes => nomatch owes.1
  | _ => exact rested.elim

theorem not_waiting (rested : Rested phase) : phase ≠ .waiting := by
  rintro rfl
  exact rested

theorem not_owned (rested : Rested phase) : ¬(phase = .fresh score ∨ phase = .filed score) := by
  rintro (rfl | rfl)
  · exact rested
  exact rested

section

variable (kept : Kept service stores known)

include kept

theorem follows_same {op : QualityOp Value} {answer : Except QualityError op.Answer}
  (foreseen : QualityService.Foreseen op answer)
  (same : service.after (known actor) op answer = known actor) :
  Follows service known actor op (answer, stores) := by
  refine ⟨foreseen, ?_⟩
  rw [same]
  exact kept.same

theorem kept_begun (here : (known actor).phase = .waiting) :
  Kept service { stores with begun := actor :: stores.begun }
    (update known actor { known actor with phase := .idle }) := by
  refine kept.learns rfl rfl rfl (fun _ => id) kept.jobs
    (fun _ => id) (fun _ _ _ _ => id)
    (fun _ member => mem_cons_of_mem _ member) (fun _ => mem_cons_self ..) ?_ ?_ trivial
    (fun _ member => .inl member)
  · intro score _ own
    rw [here] at own
    rcases own with fresh | filed
    · cases fresh
    cases filed
  intro rule version _ _ owes
  rw [here] at owes
  exact owes.elim

theorem kept_again (rested : Rested (known actor).phase) (present : score ∈ stores.scores) :
  Kept service stores
    (update known actor { known actor with phase := .fresh score }) := by
  refine kept.learns rfl rfl rfl (fun _ => id) kept.jobs
    (fun _ => id) (fun _ _ _ _ => id)
    (fun _ => id) (fun _ => kept.begun actor (not_waiting rested)) ?_ ?_ present
    (fun _ member => .inl member)
  · exact fun _ _ own => absurd own (not_owned rested)
  exact fun _ _ _ _ owes => absurd owes (not_owes rested)

theorem kept_added (rested : Rested (known actor).phase) (sound : service.Sound score)
  (absent : stores.getScore score.key = none)
  (quiet : ∀ entry ∈ stores.reading, service.covers entry.2.1 entry.2.2 score = false) :
  Kept service { stores with scores := stores.scores ++ [score] }
    (update known actor { known actor with phase := .fresh score }) := by
  have uncovered : ∀ rule version, service.covers rule version score = false →
      QualityStores.covered service { stores with scores := stores.scores ++ [score] } rule
        version = stores.covered service rule version := by
    intro rule version other
    unfold QualityStores.covered
    rw [filter_append, filter_cons_of_neg (by rw [other]; exact nofun), filter_nil, append_nil]
  have present : ∀ item ∈ stores.scores, item ∈ stores.scores ++ [score] :=
    fun _ member => mem_append_left _ member
  have new : score ∈ stores.scores ++ [score] := mem_append_right _ (mem_singleton_self _)
  refine kept.moves ?_ ?_ kept.filed ?_ kept.jobs ?_ ?_ present (fun _ => id) new
    (fun _ member => .inl member) (fun _ => id)
    (fun _ => kept.begun actor (not_waiting rested))
  · intro item member
    rcases mem_append.mp member with old | same
    · exact kept.sound item old
    rw [mem_singleton.mp same]
    exact sound
  · dsimp only
    rw [map_append, nodup_append]
    refine ⟨kept.distinct, nodup_singleton _, ?_⟩
    intro key member other same equal
    obtain ⟨item, stored, rfl⟩ := mem_map.mp member
    have unlike := find?_eq_none.mp absent item stored
    rw [map_singleton, mem_singleton] at same
    rw [same] at equal
    simp [equal] at unlike
  · intro item member
    rcases mem_append.mp member with old | same
    · rcases kept.sees actor old with done | own | theirs
      · exact .inl done
      · exact absurd own (not_owned rested)
      exact .inr (.inr theirs)
    rw [mem_singleton.mp same]
    exact .inr (.inl (.inl rfl))
  · intro key rule version found enabled
    cases covers : service.covers rule version score with
    | true => exact .inr (.inl covers)
    | false =>
      rcases kept.owes actor version found enabled with done | own | theirs
      · refine .inl ?_
        unfold Judged at done ⊢
        rw [uncovered rule version covers]
        exact done
      · exact absurd own (not_owes rested)
      exact .inr (.inr theirs)
  intro other
  exact .inl
    { (Grows.refl : Grows service stores stores other) with
      scores := present
      covered := fun rule version member =>
        uncovered rule version (quiet (other, rule, version) member) }

theorem kept_filed (here : (known actor).phase = .fresh score) : Kept service
  { stores with
    syncs := stores.syncs.set (score.tenantId, (service.jobOf score).syncId)
      (service.jobOf score) }
  (update known actor { known actor with phase := .filed score }) := by
  have placed := kept.placed actor
  rw [here] at placed
  have syncs : ∀ task, Filed stores task → Filed
      { stores with
        syncs := stores.syncs.set (score.tenantId, (service.jobOf score).syncId)
          (service.jobOf score) } task := by
    intro task filed
    unfold Filed at filed ⊢
    rw [get?_set]
    split
    · rfl
    exact filed
  have own : Filed
      { stores with
        syncs := stores.syncs.set (score.tenantId, (service.jobOf score).syncId)
          (service.jobOf score) } (service.taskOf score) := by
    unfold Filed taskOf
    rw [get?_set_self]
    rfl
  refine kept.learns rfl rfl rfl syncs (fun task member => syncs task (kept.jobs task member))
    (fun _ => id) (fun _ _ _ _ => id)
    (fun _ => id) (fun _ => kept.begun actor (by rw [here]; rintro ⟨⟩)) ?_ ?_ ⟨placed, own⟩
    (fun _ member => .inl member)
  · intro item _ own
    rw [here] at own
    rcases own with fresh | filed
    · obtain rfl := Phase.fresh.inj fresh
      exact .inr (.inr rfl)
    cases filed
  intro rule version _ _ owes
  rw [here] at owes
  exact .inr owes

theorem kept_settled
  (here : (known actor).phase = .fresh score ∨ (known actor).phase = .filed score)
  {queued : List QualityTask} (grown : ∀ task ∈ stores.queued, task ∈ queued)
  (jobs : ∀ task ∈ queued, Filed stores task) (done : service.taskOf score ∈ queued) :
  Kept service { stores with queued }
    (update known actor (settle (known actor))) := by
  have placed := kept.placed actor
  have present : score ∈ stores.scores := by
    rcases here with fresh | filed
    · rw [fresh] at placed
      exact placed
    rw [filed] at placed
    exact placed.1
  have settled : settle (known actor) =
      { stored := (known actor).stored ++ [score], phase := .synced score } := by
    unfold settle
    rcases here with fresh | filed
    · rw [fresh]
    rw [filed]
  rw [settled]
  refine kept.learns rfl rfl rfl (fun _ => id) jobs
    grown (fun _ _ _ _ => id)
    (fun _ => id) (fun _ => kept.begun actor ?_) ?_ ?_ present ?_
  · rcases here with fresh | filed
    · rw [fresh]; nofun
    rw [filed]; nofun
  · intro item _ own
    refine .inl ?_
    have same : item = score := by
      rcases here with fresh | filed
      · rw [fresh] at own
        rcases own with own | own
        · exact (Phase.fresh.inj own).symm
        cases own
      rw [filed] at own
      rcases own with own | own
      · cases own
      exact (Phase.filed.inj own).symm
    rw [same]
    exact done
  · intro rule version _ _ owes
    rcases here with fresh | filed
    · rw [fresh] at owes
      exact .inr owes
    rw [filed] at owes
    exact .inr owes
  intro item member
  rcases mem_append.mp member with old | same
  · exact .inl old
  rw [mem_singleton.mp same]
  exact .inr ⟨present, done⟩

end

theorem version_eq {version : String} (covers : service.covers rule version score = true) :
  version = score.agentVersion := by
  unfold QualityService.covers at covers
  simp only [Bool.and_eq_true, decide_eq_true_eq] at covers
  exact covers.1.2.symm

theorem matched_eq {score : QualityScore Value} {rule : AlertRule Value}
  (covers : service.covers rule score.agentVersion score = true) :
  service.matched score (stores.scores.filter fun item =>
    item.tenantId = score.tenantId && item.agentName = score.agentName) =
    stores.covered service rule score.agentVersion := by
  unfold QualityService.covers at covers
  simp only [Bool.and_eq_true, decide_eq_true_eq] at covers
  obtain ⟨⟨⟨⟨tenant, agent⟩, owner⟩, _⟩, name⟩ := covers
  unfold matched QualityStores.covered
  rw [filter_filter]
  apply filter_congr
  intro item _
  unfold QualityService.covers
  rw [tenant, agent, owner, name]
  grind

section

variable (kept : Kept service stores known)

include kept

theorem kept_ruled (here : (known actor).phase = .synced score) :
  Kept service stores (update known actor
    { known actor with
      phase := .listed score (QualityService.due score ((stores.rules.values.filter fun rule =>
            rule.tenantId = score.tenantId && rule.agentName = score.agentName).filter
          fun rule => rule.createdBy = service.ownerOf score)) }) := by
  have placed := kept.placed actor
  rw [here] at placed
  refine kept.learns rfl rfl rfl (fun _ => id) kept.jobs
    (fun _ => id) (fun _ _ _ _ => id)
    (fun _ => id) (fun _ => kept.begun actor (by rw [here]; nofun)) ?_ ?_
    ⟨placed, ?_⟩ fun _ member => .inl member
  · intro item _ own
    rw [here] at own
    rcases own with fresh | filed
    · cases fresh
    cases filed
  · intro rule version found enabled owes
    rw [here] at owes
    refine .inr ⟨?_, owes⟩
    have covers : service.covers rule version score = true := owes
    unfold QualityService.covers at covers
    simp only [Bool.and_eq_true, decide_eq_true_eq] at covers
    obtain ⟨⟨⟨⟨tenant, agent⟩, owner⟩, _⟩, name⟩ := covers
    have listed : rule ∈ stores.rules.values := mem_values.mpr ⟨_, found⟩
    simp only [QualityService.due, mem_filter, Bool.and_eq_true, decide_eq_true_eq]
    exact ⟨⟨⟨listed, tenant.symm, agent.symm⟩, owner.symm⟩, enabled, name.symm⟩
  intro rule member
  simp only [QualityService.due, mem_filter, Bool.and_eq_true, decide_eq_true_eq] at member
  obtain ⟨⟨⟨listed, tenant, agent⟩, owner⟩, _, name⟩ := member
  obtain ⟨key, found⟩ := mem_values.mp listed
  have same := kept.filed key rule found
  subst key
  refine ⟨found, ?_⟩
  unfold QualityService.covers
  simp only [Bool.and_eq_true, decide_eq_true_eq]
  exact ⟨⟨⟨⟨tenant.symm, agent.symm⟩, owner.symm⟩, trivial⟩, name.symm⟩

theorem kept_short (here : (known actor).phase = .listed score (rule :: rest))
  (short : (stores.covered service rule score.agentVersion).length < rule.minimumSamples) :
  Kept service stores
    (update known actor { known actor with phase := .listed score rest }) := by
  have placed := kept.placed actor
  rw [here] at placed
  refine kept.learns rfl rfl rfl (fun _ => id) kept.jobs
    (fun _ => id) (fun _ _ _ _ => id)
    (fun _ => id) (fun _ => kept.begun actor (by rw [here]; nofun)) ?_ ?_
    ⟨placed.1, fun other member => placed.2 other (mem_cons_of_mem _ member)⟩
    (fun _ member => .inl member)
  · intro item _ own
    rw [here] at own
    rcases own with fresh | filed
    · cases fresh
    cases filed
  intro other version _ _ owes
  rw [here] at owes
  obtain ⟨member, covers⟩ := owes
  rcases mem_cons.mp member with rfl | later
  · refine .inl (.inl ?_)
    rw [version_eq covers]
    exact short
  exact .inr ⟨later, covers⟩

theorem kept_reading (here : (known actor).phase = .listed score (rule :: rest)) : Kept service
    { stores with reading := (actor, rule, score.agentVersion) :: stores.reading }
    (update known actor
      { known actor with
        phase := .read score rule rest (stores.covered service rule score.agentVersion) }) := by
  have placed := kept.placed actor
  rw [here] at placed
  obtain ⟨present, due⟩ := placed
  refine kept.learns rfl rfl rfl (fun _ => id) kept.jobs
    (fun _ => id)
    (fun _ _ _ _ member => mem_cons_of_mem _ member)
    (fun _ => id) (fun _ => kept.begun actor (by rw [here]; nofun)) ?_ ?_
    ⟨present, due rule (mem_cons_self ..),
      fun other member => due other (mem_cons_of_mem _ member), rfl,
      mem_cons_self ..⟩
    (fun _ member => .inl member)
  · intro item _ own
    rw [here] at own
    rcases own with fresh | filed
    · cases fresh
    cases filed
  intro other version _ _ owes
  rw [here] at owes
  exact .inr ⟨mem_cons.mp owes.1, owes.2⟩

theorem kept_written {matching : List (QualityScore Value)}
  (here : (known actor).phase = .read score rule rest matching)
  (apart : ∀ old ∈ stores.incidents.get?
      (score.tenantId, service.incidentId rule score.agentVersion),
    old.ruleId = rule.ruleId ∧ old.agentVersion = score.agentVersion) :
  Kept service
    { stores with
      incidents := stores.incidents.set
        (score.tenantId, service.incidentId rule score.agentVersion)
        (service.incidentOf score rule matching)
      reading := stores.reading.filter fun entry => entry.1 ≠ actor }
    (update known actor { known actor with phase := .listed score rest }) := by
  have placed := kept.placed actor
  rw [here] at placed
  obtain ⟨present, due, rests, rfl, _⟩ := placed
  have tenant : score.tenantId = rule.tenantId := by
    have covers := due.2
    unfold QualityService.covers at covers
    simp only [Bool.and_eq_true, decide_eq_true_eq] at covers
    exact covers.1.1.1.1
  refine kept.moves kept.sound kept.distinct kept.filed ?_ kept.jobs ?_ ?_ (fun _ => id)
    (fun _ => id) ⟨present, rests⟩ (fun _ member => .inl member)
    (fun _ => id) fun _ => kept.begun actor (by rw [here]; nofun)
  · intro item member
    rcases kept.sees actor member with done | own | theirs
    · exact .inl done
    · rw [here] at own
      rcases own with fresh | filed
      · cases fresh
      cases filed
    exact .inr (.inr theirs)
  · intro key other version found enabled
    have same := kept.filed key other found
    subst key
    by_cases own : other = rule ∧ version = score.agentVersion
    · obtain ⟨sameRule, sameVersion⟩ := own
      subst other version
      refine .inl (.inr ⟨service.incidentOf score rule
        (stores.covered service rule score.agentVersion), ?_, rfl, rfl, ?_⟩)
      · dsimp only
        rw [← tenant, get?_set_self]
      unfold incidentOf
      split
      · rename_i below
        exact ⟨fun _ => below, fun _ => rfl⟩
      rename_i above
      exact ⟨nofun, fun below => absurd below above⟩
    rcases kept.owes actor version found enabled with (short | stored) | owes | theirs
    · exact .inl (.inl short)
    · obtain ⟨incident, there, named, versioned, state⟩ := stored
      refine .inl (.inr ⟨incident, ?_, named, versioned, state⟩)
      rw [get?_set_other]
      · exact there
      intro equal
      rw [equal] at there
      obtain ⟨sameRule, sameVersion⟩ := apart incident there
      have tenants : other.tenantId = rule.tenantId := (Prod.mk.inj equal).1.trans tenant
      have keys : other.key = rule.key := Prod.ext tenants (named.symm.trans sameRule)
      have rules := found
      rw [keys, due.1] at rules
      exact own ⟨(Option.some.inj rules).symm, versioned.symm.trans sameVersion⟩
    · rw [here] at owes
      obtain ⟨current | later, covers⟩ := owes
      · exact absurd ⟨current, version_eq covers⟩ own
      exact .inr (.inl ⟨later, covers⟩)
    exact .inr (.inr theirs)
  intro other
  by_cases same : other = actor
  · exact .inr same
  refine .inl { (Grows.refl : Grows service stores stores other) with reading := ?_ }
  intro entry version member
  exact mem_filter.mpr ⟨member, by simpa using same⟩

theorem kept_ruling (here : (known actor).phase = .waiting)
  (absent : stores.rules.get? rule.key = none)
  (early : rule.enabled = true → ∀ score ∈ stores.scores,
    (stores.covered service rule score.agentVersion).length < rule.minimumSamples) :
  Kept service { stores with rules := stores.rules.set rule.key rule }
    (update known actor (known actor)) := by
  refine kept.moves kept.sound kept.distinct ?_ (fun _ member => kept.sees actor member)
    kept.jobs ?_ ?_
    (fun _ => id) (fun _ => id) (by rw [here]; trivial)
    (fun _ member => .inl member) (fun _ => id)
    (fun moving => absurd here moving)
  · exact forall_set rfl kept.filed
  · intro key other version found enabled
    rw [get?_set] at found
    split at found
    · obtain rfl := Option.some.inj found
      refine .inl (.inl ?_)
      change (stores.covered service rule version).length < rule.minimumSamples
      cases covered : stores.covered service rule version with
      | nil => exact rule.positive
      | cons score rest =>
        have member : score ∈ stores.covered service rule version := by
          rw [covered]
          exact mem_cons_self ..
        obtain ⟨stored, covers⟩ := mem_filter.mp member
        rw [← covered, version_eq covers]
        exact early enabled score stored
    exact kept.owes actor version found enabled
  intro other
  refine .inl { (Grows.refl : Grows service stores stores other) with rules := ?_ }
  intro old found
  rw [get?_set_other]
  · exact found
  intro same
  rw [same, absent] at found
  cases found

end

variable [DecidableEq Value]

section

variable (kept : Kept service stores known)

include kept

theorem follows_addScore (admits : service.Admits (known actor) (.addScore score))
  (orderly : Orderly service stores actor (.addScore score) input) :
  Follows service known actor (.addScore score)
    (stores.respond service actor input (.addScore score)) := by
  obtain ⟨rested, sound⟩ := admits
  cases failed : input.failed with
  | true =>
    have reply : stores.respond service actor input (.addScore score) =
      (.error .interrupted, stores) := if_pos failed
    rw [reply]
    exact follows_same kept nofun rfl
  | false =>
    have orderly := orderly failed
    have reply : stores.respond service actor input (.addScore score) =
      stores.addScore score := if_neg (ne_true_of_eq_false failed)
    rw [reply]
    unfold QualityStores.addScore
    cases found : stores.getScore score.key with
    | none =>
      rw [found] at orderly
      exact ⟨trivial, kept_added kept rested sound found orderly⟩
    | some existing =>
      rw [found] at orderly
      have same : existing = score := orderly
      dsimp only
      rw [if_neg (not_not.mpr same)]
      subst existing
      exact ⟨trivial, kept_again kept rested (mem_of_find?_eq_some found)⟩

theorem follows_addSync {job : QualitySyncJob}
  (admits : service.Admits (known actor) (.addSync job))
  (orderly : Orderly service stores actor (.addSync job) input) :
  Follows service known actor (.addSync job)
    (stores.respond service actor input (.addSync job)) := by
  obtain ⟨score, here, rfl⟩ := admits
  obtain ⟨unfailed, met⟩ := orderly
  have reply : stores.respond service actor input (.addSync (service.jobOf score)) =
    stores.addSync (service.jobOf score) := if_neg (ne_true_of_eq_false unfailed)
  rw [reply]
  unfold QualityStores.addSync
  cases found : stores.syncs.get?
    ((service.jobOf score).tenantId, (service.jobOf score).syncId) with
  | none =>
    refine ⟨trivial, ?_⟩
    dsimp only [QualityService.after]
    rw [here]
    exact kept_filed kept here
  | some old =>
    rw [found] at met
    exact ⟨rfl, kept_settled kept (.inl here) (fun _ => id) kept.jobs (met rfl)⟩

theorem follows_listScores {tenantId agentName : String}
  (admits : service.Admits (known actor) (.listScores tenantId agentName rule score))
  (unfailed : input.failed = false) :
  Follows service known actor (.listScores tenantId agentName rule score)
    (stores.respond service actor input (.listScores tenantId agentName rule score)) := by
  obtain ⟨rest, here, rfl, rfl⟩ := admits
  have placed := kept.placed actor
  rw [here] at placed
  have same := @matched_eq _ service stores score rule (placed.2 rule (mem_cons_self ..)).2
  have reply : stores.respond service actor input
      (.listScores score.tenantId score.agentName rule score) =
        (.ok (stores.scores.filter fun item =>
            item.tenantId = score.tenantId && item.agentName = score.agentName),
          if (stores.covered service rule score.agentVersion).length < rule.minimumSamples then
            stores
          else { stores with reading := (actor, rule, score.agentVersion) :: stores.reading }) :=
    if_neg (ne_true_of_eq_false unfailed)
  rw [reply]
  refine ⟨trivial, ?_⟩
  dsimp only [QualityService.after]
  rw [here]
  rw [same]
  split
  · rename_i short
    exact kept_short kept here short
  exact kept_reading kept here

theorem follows_addRule (here : (known actor).phase = .waiting)
  (orderly : Orderly service stores actor (.addRule rule) input) :
  Follows service known actor (.addRule rule)
    (stores.respond service actor input (.addRule rule)) := by
  cases failed : input.failed with
  | true =>
    have reply : stores.respond service actor input (.addRule rule) =
      (.error .interrupted, stores) := if_pos failed
    rw [reply]
    exact follows_same kept trivial rfl
  | false =>
    have orderly := orderly failed
    have reply : stores.respond service actor input (.addRule rule) = stores.addRule rule :=
      if_neg (ne_true_of_eq_false failed)
    rw [reply]
    unfold QualityStores.addRule
    cases found : stores.rules.get? rule.key with
    | some old => exact follows_same kept trivial rfl
    | none =>
      rw [found] at orderly
      exact ⟨trivial, kept_ruling kept here found (orderly rfl)⟩

theorem answered {op : QualityOp Value} (orderly : Orderly service stores actor op input)
  (admits : service.Admits (known actor) op) :
  Follows service known actor op (stores.respond service actor input op) := by
  cases op with
  | listAfter tenantId runId =>
    cases failed : input.failed with
    | true =>
      have reply : stores.respond service actor input (.listAfter tenantId runId) =
          (.error .interrupted, { stores with begun := actor :: stores.begun }) :=
        if_pos failed
      rw [reply]
      exact ⟨nofun, kept_begun kept admits⟩
    | false =>
      have reply : stores.respond service actor input (.listAfter tenantId runId) =
          (.ok input.events, { stores with begun := actor :: stores.begun }) :=
        if_neg (ne_true_of_eq_false failed)
      rw [reply]
      exact ⟨trivial, kept_begun kept admits⟩
  | listForRun tenantId runId =>
    cases failed : input.failed with
    | true =>
      have reply : stores.respond service actor input (.listForRun tenantId runId) =
        (.error .interrupted, stores) := if_pos failed
      rw [reply]
      exact follows_same kept nofun rfl
    | false =>
      have reply : stores.respond service actor input (.listForRun tenantId runId) =
        (.ok input.artifacts, stores) := if_neg (ne_true_of_eq_false failed)
      rw [reply]
      exact follows_same kept trivial rfl
  | clock => exact follows_same kept trivial rfl
  | addScore score => exact follows_addScore kept admits orderly
  | addSync job => exact follows_addSync kept admits orderly
  | enqueue task =>
    obtain ⟨score, here, rfl⟩ := admits
    have filed : Filed stores (service.taskOf score) := by
      have placed := kept.placed actor
      rw [here] at placed
      exact placed.2
    have jobs : ∀ task ∈ service.taskOf score :: stores.queued, Filed stores task := by
      intro task member
      rcases mem_cons.mp member with rfl | old
      · exact filed
      exact kept.jobs task old
    have reply : stores.respond service actor input (.enqueue (service.taskOf score)) =
        (.ok (), { stores with queued := service.taskOf score :: stores.queued }) :=
      if_neg (ne_true_of_eq_false orderly)
    rw [reply]
    exact ⟨trivial, kept_settled kept (.inr here)
      (fun _ member => mem_cons_of_mem _ member) jobs (mem_cons_self ..)⟩
  | listRules tenantId agentName =>
    obtain ⟨score, here, rfl, rfl⟩ := admits
    have reply : stores.respond service actor input
      (.listRules score.tenantId score.agentName) = (.ok (stores.rules.values.filter fun rule =>
          rule.tenantId = score.tenantId && rule.agentName = score.agentName), stores) :=
      if_neg (ne_true_of_eq_false orderly)
    rw [reply]
    refine ⟨trivial, ?_⟩
    dsimp only [QualityService.after]
    rw [here]
    exact kept_ruled kept here
  | listScores tenantId agentName rule score => exact follows_listScores kept admits orderly
  | listIncidents tenantId agentName =>
    have reply : stores.respond service actor input (.listIncidents tenantId agentName) =
      (.ok (stores.incidents.values.filter fun incident =>
        incident.tenantId = tenantId && incident.agentName = agentName), stores) :=
      if_neg (ne_true_of_eq_false orderly)
    rw [reply]
    exact follows_same kept trivial rfl
  | upsertIncident incident =>
    obtain ⟨score, rule, rest, matching, here, rfl⟩ := admits
    obtain ⟨unfailed, apart⟩ := orderly
    have reply : stores.respond service actor input
        (.upsertIncident (service.incidentOf score rule matching)) =
          (.ok (), { stores with
            incidents := stores.incidents.set
              (score.tenantId, service.incidentId rule score.agentVersion)
              (service.incidentOf score rule matching)
            reading := stores.reading.filter fun entry => entry.1 ≠ actor }) :=
      if_neg (ne_true_of_eq_false unfailed)
    rw [reply]
    refine ⟨trivial, ?_⟩
    dsimp only [QualityService.after]
    rw [here]
    exact kept_written kept here apart
  | addRule rule => exact follows_addRule kept admits orderly

end

theorem adheres : Pool.Adheres (component service)
  (fun _ => service.contract) (Kept service) (Orderly service) := by
  intro stores known actor op input kept orderly admits
  obtain ⟨foreseen, next⟩ := answered kept orderly admits
  exact ⟨_, ⟨foreseen, rfl⟩, next⟩

end

section

variable [DecidableEq Value] {service : QualityService Value}

def Ended : QualityProgram Value (List (QualityScore Value)) → Prop
  | .done _ | .raised _ => True
  | .call _ _ => False

omit [DecidableEq Value] in
instance (program : QualityProgram Value (List (QualityScore Value))) :
  Decidable (Ended program) :=
  match program with
  | .done _ | .raised _ => isTrue trivial
  | .call _ _ => isFalse id

omit [DecidableEq Value] in
theorem attempt_scores {stores : QualityStores Value} {input : QualityInput Value}
  {α : Type} {reply : Except QualityError α × QualityStores Value} {score : QualityScore Value}
  (member : score ∈ stores.scores) (later : score ∈ reply.2.scores) :
  score ∈ (attempt input stores reply).2.scores := by
  unfold attempt
  split
  · exact member
  exact later

theorem respond_scores (stores : QualityStores Value) (actor : Nat)
  (input : QualityInput Value) (op : QualityOp Value) :
  ∀ score ∈ stores.scores, score ∈ (stores.respond service actor input op).2.scores := by
  intro score member
  cases op with
  | addScore item =>
    have later : score ∈ (stores.addScore item).2.scores := by
      unfold QualityStores.addScore
      split
      · exact mem_append_left _ member
      split
      · exact member
      exact member
    exact attempt_scores member later
  | addSync job =>
    have later : score ∈ (stores.addSync job).2.scores := by
      unfold QualityStores.addSync
      split
      · exact member
      exact member
    exact attempt_scores member later
  | addRule rule =>
    have later : score ∈ (stores.addRule rule).2.scores := by
      unfold QualityStores.addRule
      split
      · exact member
      exact member
    exact attempt_scores member later
  | listScores tenantId agentName rule item =>
    refine attempt_scores member ?_
    split
    · exact member
    exact member
  | clock => exact member
  | _ => exact attempt_scores member member

theorem run_scores
  (pool : Pool (QualityOp Value) QualityOp.Answer QualityError Nat (QualityStores Value)
    (List (QualityScore Value))) (schedule : List (Nat × QualityInput Value)) :
  ∀ score ∈ pool.state.scores, score ∈ (pool.run (component service) schedule).state.scores := by
  induction schedule generalizing pool with
  | nil => exact fun _ => id
  | cons move rest ih =>
    intro score member
    apply ih
    rcases call_or_idle (component service) pool move.1 with
      ⟨op, next, calls⟩ | idle
    · rw [step_call calls]
      exact respond_scores pool.state move.1 move.2 op score member
    rw [idle]
    exact member

omit [DecidableEq Value] in
theorem kept_start : Kept service {} (fun _ => {}) where
  sound := nofun
  distinct := nodup_nil
  filed := nofun
  queued := nofun
  jobs := nofun
  judged := nofun
  placed _ := trivial
  stored := nofun
  begun _ moving := absurd rfl moving

structure Settled (service : QualityService Value) (requests : Nat → QualityRequest Value)
    (before pool : Pool (QualityOp Value) QualityOp.Answer QualityError Nat
      (QualityStores Value) (List (QualityScore Value))) : Prop where
  kept : ∀ score ∈ before.state.scores, score ∈ pool.state.scores
  unique : ∀ one ∈ pool.state.scores, ∀ other ∈ pool.state.scores,
    one.tenantId = other.tenantId → one.runId = other.runId → one.name = other.name →
      one.source = other.source → one.createdBy = other.createdBy → one = other
  recorded : ∀ actor scores, pool.thread actor = .done scores →
    (∀ score ∈ scores, score ∈ pool.state.scores ∧ service.taskOf score ∈ pool.state.queued) ∧
      ∀ run traceId, requests actor = .record run traceId → run.terminal = true → traceId ≠ "" →
        List.Forall₂ (QualityService.Scores run) metricNames scores
  jobs : ∀ task ∈ pool.state.queued, Filed pool.state task
  accepted : ∀ actor run traceId error, requests actor = .record run traceId →
    pool.thread actor = .raised error → error ≠ .conflict
  queued : (∀ actor ∈ pool.state.begun, Ended (pool.thread actor)) →
    ∀ score ∈ pool.state.scores, service.taskOf score ∈ pool.state.queued
  judged : (∀ actor ∈ pool.state.begun, Ended (pool.thread actor)) →
    ∀ key rule version, pool.state.rules.get? key = some rule → rule.enabled = true →
      Judged service pool.state rule version

theorem recordings_settled (service : QualityService Value)
  (requests : Nat → QualityRequest Value) (first second : List (Nat × QualityInput Value))
  (orderly : (start service requests).Along (component service)
    (Orderly service) (first ++ second)) :
  let before := (start service requests).run (component service) first
  Settled service requests before (before.run (component service) second) := by
  intro before
  let pool := before.run (component service) second
  have whole : pool = (start service requests).run (component service)
    (first ++ second) := (run_append _ _ _).symm
  have ready : (start service requests).Ready (fun _ => service.contract) (Kept service)
    (fun actor => QualityService.Returned (requests actor))
    (fun actor => QualityService.Failed (requests actor)) (fun _ => {}) :=
    ⟨kept_start, fun actor => wp_serve service (requests actor)⟩
  obtain ⟨known, kept, threads⟩ := run_ready adheres ready (first ++ second) orderly
  rw [← whole] at kept threads
  have rests : (∀ actor ∈ pool.state.begun, Ended (pool.thread actor)) → ∀ actor,
    (known actor).phase = .waiting ∨ Rested (known actor).phase := by
    intro ended actor
    by_cases waits : (known actor).phase = .waiting
    · exact .inl waits
    have stopped := ended actor (kept.begun actor waits)
    have own := threads actor
    cases thread : pool.thread actor with
    | done scores | raised error =>
      rw [thread] at own
      exact own.1
    | call op next =>
      rw [thread] at stopped
      exact stopped.elim
  refine ⟨run_scores before second, ?_, ?_, kept.jobs, ?_, ?_, ?_⟩
  · intro one stored other stored' tenant run name source author
    refine inj_on_of_nodup_map kept.distinct stored stored' ?_
    refine Prod.ext tenant ?_
    have id : one.scoreId = _ := kept.sound one stored
    have id' : other.scoreId = _ := kept.sound other stored'
    unfold QualityScore.key
    rw [id, id', run, name, source, author]
  · intro actor scores returned
    have own := threads actor
    rw [returned] at own
    obtain ⟨_, stored, recorded⟩ := own
    subst scores
    exact ⟨kept.stored actor, recorded⟩
  · intro actor run traceId error asks raised
    have own := threads actor
    rw [raised] at own
    exact own.2 run traceId asks
  · intro ended score stored
    rcases kept.queued score stored with done | ⟨actor, sees⟩
    · exact done
    rcases rests ended actor with waits | rested
    · rw [waits] at sees
      rcases sees with fresh | filed
      · cases fresh
      cases filed
    exact absurd sees (not_owned rested)
  intro ended key rule version found enabled
  rcases kept.judged key rule version found enabled with done | ⟨actor, owes⟩
  · exact done
  rcases rests ended actor with waits | rested
  · rw [waits] at owes
    exact owes.elim
  exact absurd owes (not_owes rested)

end

def quality : QualityService Nat where
  python :=
    { one := 100, zero := 0, withinBudget := fun cost => cost ≤ 100
      observed := fun scores => (scores.map QualityScore.value).sum / scores.length
      below := fun observed minimum => observed < minimum
      stable := fun kind parts => kind ++ ":" ++ String.intercalate ":" parts }
  session _ _ := { agentName := "writer", agentVersion := "1", owner := "ada" }

def successRule : AlertRule Nat where
  tenantId := "acme"
  ruleId := "rule-1"
  agentName := "writer"
  scoreName := "terminal_success"
  minimumValue := 60
  createdBy := "ada"

def succeededRun : Run := { tenantId := "acme", runId := "run-1", sessionId := "session-1" }

def failedRun : Run :=
  { tenantId := "acme", runId := "run-2", sessionId := "session-1", succeeded := false }

def paced (turns : List (Nat × Nat × QualityInput Nat)) : List (Nat × QualityInput Nat) :=
  turns.flatMap fun turn => List.replicate turn.2.1 (turn.1, turn.2.2)

def recordings : Nat → QualityRequest Nat
  | 0 => .addRule successRule
  | 1 => .record succeededRun "trace-1"
  | 2 => .record failedRun "trace-2"
  | _ => .record succeededRun "trace-1"

def firstRecording : List (Nat × QualityInput Nat) := paced [(0, 1, {}), (1, 35, {})]

def laterRecordings : List (Nat × QualityInput Nat) := paced [(2, 35, { now := 1 }), (3, 29, {})]

theorem recordings_settled_again : Settled quality recordings
  ((start quality recordings).run (component quality) firstRecording)
  (((start quality recordings).run (component quality) firstRecording).run
  (component quality) laterRecordings) := by
  have orderly : (start quality recordings).Along (component quality)
    (Orderly quality) (firstRecording ++ laterRecordings) := by decide +kernel
  exact recordings_settled quality recordings firstRecording laterRecordings orderly

/-- The second recording of a Run is refused, as its score has another time; a job whose score
could not be put on the queue is never put there; and the incident of a rule is written from
scores to which another one has been added since. -/
theorem recordings_unsettled :
  (¬∀ (service : QualityService Nat) (requests : Nat → QualityRequest Nat)
      (schedule : List (Nat × QualityInput Nat)) (actor : Nat) (run : Run) (traceId : String)
      (error : QualityError),
    requests actor = .record run traceId →
      ((start service requests).run (component service) schedule).thread actor = .raised error →
        error ≠ .conflict) ∧
    (¬∀ (service : QualityService Nat) (requests : Nat → QualityRequest Nat)
        (schedule : List (Nat × QualityInput Nat)) (actor : Nat)
        (scores : List (QualityScore Nat)),
      let pool := (start service requests).run (component service) schedule
      pool.thread actor = .done scores →
        ∀ score ∈ scores, service.taskOf score ∈ pool.state.queued) ∧
    ¬∀ (service : QualityService Nat) (requests : Nat → QualityRequest Nat)
        (schedule : List (Nat × QualityInput Nat)),
      let pool := (start service requests).run (component service) schedule
      (∀ actor ∈ pool.state.begun, Ended (pool.thread actor)) →
        ∀ key rule version, pool.state.rules.get? key = some rule → rule.enabled = true →
          Judged service pool.state rule version := by
  refine ⟨?_, ?_, ?_⟩
  · intro accepted
    exact accepted quality recordings (paced [(1, 32, {}), (3, 4, { now := 1 })]) 3 succeededRun
      "trace-1" .conflict rfl rfl rfl
  · intro queued
    have all := queued quality recordings
      (paced [(1, 5, {}), (1, 1, { failed := true }), (3, 31, {})]) 3 _ rfl
    exact absurd (all _ (mem_cons_self ..)) (by decide +kernel)
  intro judges
  have judged := judges quality recordings
    (paced [(0, 1, {}), (1, 8, {}), (2, 35, {}), (1, 27, {})]) (by decide +kernel)
    ("acme", "rule-1") successRule "1" (by decide +kernel) rfl
  rcases judged with short | ⟨incident, there, _, _, state⟩
  · exact absurd short (by decide +kernel)
  have resolved : (((start quality recordings).run (component quality)
    (paced [(0, 1, {}), (1, 8, {}), (2, 35, {}), (1, 27, {})])).state.incidents.get?
      (successRule.tenantId, quality.incidentId successRule "1")).map
        AlertIncident.state =
    some .resolved := by decide +kernel
  rw [there] at resolved
  have opened := state.mpr (by decide +kernel)
  rw [Option.map_some, opened] at resolved
  cases resolved

end AgentHarness.Quality
