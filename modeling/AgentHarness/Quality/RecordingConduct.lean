import AgentHarness.Quality.Recordings

/-!
What a recording may ask of the repository and the queue, and what it knows on the way.
-/

namespace AgentHarness.Quality

open Interaction Program List

variable {Value : Type}

inductive Phase (Value : Type) where
  | waiting
  | idle
  | fresh (score : QualityScore Value)
  | filed (score : QualityScore Value)
  | synced (score : QualityScore Value)
  | listed (score : QualityScore Value) (rest : List (AlertRule Value))
  | read (score : QualityScore Value) (rule : AlertRule Value) (rest : List (AlertRule Value))
      (matching : List (QualityScore Value))

structure Progress (Value : Type) where
  stored : List (QualityScore Value) := []
  phase : Phase Value := .waiting

def Rested : Phase Value → Prop
  | .idle => True
  | .listed _ rest => rest = []
  | _ => False

namespace QualityService

variable (service : QualityService Value) (score : QualityScore Value)

def Sound : Prop :=
  score.scoreId = service.python.stable "quality_score"
    [score.runId, score.name, score.source.value, score.createdBy]

def jobOf : QualitySyncJob := service.syncOf score.tenantId "score" score.scoreId

def taskOf : QualityTask where
  tenantId := score.tenantId
  syncId := (service.jobOf score).syncId

def due (rules : List (AlertRule Value)) : List (AlertRule Value) :=
  rules.filter fun rule => rule.enabled && rule.scoreName = score.name

def matched (listed : List (QualityScore Value)) : List (QualityScore Value) :=
  listed.filter fun item =>
    service.ownerOf item = service.ownerOf score &&
      item.agentVersion = score.agentVersion && item.name = score.name

def incidentOf (rule : AlertRule Value) (matching : List (QualityScore Value)) :
  AlertIncident Value where
  tenantId := score.tenantId
  incidentId := service.incidentId rule score.agentVersion
  ruleId := rule.ruleId
  agentName := score.agentName
  agentVersion := score.agentVersion
  ownerUserId := service.ownerOf score
  state := if service.python.below (service.python.observed matching) rule.minimumValue then .open
    else .resolved
  observedValue := service.python.observed matching
  sampleCount := matching.length

variable (known : Progress Value)

def Admits : QualityOp Value → Prop
  | .listAfter _ _ => known.phase = .waiting
  | .listForRun _ _ | .clock => Rested known.phase
  | .addScore score => Rested known.phase ∧ service.Sound score
  | .addSync job => ∃ score, known.phase = .fresh score ∧ job = service.jobOf score
  | .enqueue task => ∃ score, known.phase = .filed score ∧ task = service.taskOf score
  | .listRules tenantId agentName => ∃ score, known.phase = .synced score ∧
      tenantId = score.tenantId ∧ agentName = score.agentName
  | .listScores tenantId agentName rule score => ∃ rest,
      known.phase = .listed score (rule :: rest) ∧
        tenantId = score.tenantId ∧ agentName = score.agentName
  | .listIncidents _ _ => True
  | .upsertIncident incident => ∃ score rule rest matching,
      known.phase = .read score rule rest matching ∧
        incident = service.incidentOf score rule matching
  | .addRule _ => known.phase = .waiting

def settle : Progress Value :=
  match known.phase with
  | .fresh score | .filed score => { stored := known.stored ++ [score], phase := .synced score }
  | _ => known

def after : (op : QualityOp Value) → Except QualityError op.Answer → Progress Value
  | .listAfter _ _, _ => { known with phase := .idle }
  | .addScore score, .ok _ => { known with phase := .fresh score }
  | .addSync _, .ok _ =>
    match known.phase with
    | .fresh score => { known with phase := .filed score }
    | _ => known
  | .addSync _, .error _ => settle known
  | .enqueue _, .ok _ => settle known
  | .listRules _ _, .ok rules =>
    match known.phase with
    | .synced score =>
      { known with
        phase := .listed score (due score
          (rules.filter fun rule => rule.createdBy = service.ownerOf score)) }
    | _ => known
  | .listScores _ _ rule score, .ok listed =>
    match known.phase with
    | .listed _ (_ :: rest) =>
      if (service.matched score listed).length < rule.minimumSamples then
        { known with phase := .listed score rest }
      else { known with phase := .read score rule rest (service.matched score listed) }
    | _ => known
  | .upsertIncident _, .ok _ =>
    match known.phase with
    | .read score _ rest _ => { known with phase := .listed score rest }
    | _ => known
  | _, _ => known

def Foreseen : (op : QualityOp Value) → Except QualityError op.Answer → Prop
  | .listAfter _ _, .error error | .listForRun _ _, .error error => error ≠ .conflict
  | .addScore _, .error error => error ≠ .conflict
  | .addSync _, .error error => error = .conflict
  | .clock, .error _ | .enqueue _, .error _ | .listRules _ _, .error _ => False
  | .listScores _ _ _ _, .error _ | .listIncidents _ _, .error _ => False
  | .upsertIncident _, .error _ => False
  | _, _ => True

def contract : Contract (QualityOp Value) QualityOp.Answer QualityError (Progress Value) where
  allowed := service.Admits
  learns known op answer later := Foreseen op answer ∧ later = service.after known op answer

def Scores (run : Run) (name : String) (score : QualityScore Value) : Prop :=
  score.tenantId = run.tenantId ∧ score.runId = run.runId ∧ score.name = name ∧
    score.source = .rule ∧ score.createdBy = "system"

def metricNames : List String :=
  ["terminal_success", "tool_reliability", "approval_completion", "duration_budget", "cost_budget",
    "artifact_integrity"]

def Returned (request : QualityRequest Value) (known : Progress Value)
  (scores : List (QualityScore Value)) : Prop :=
  (known.phase = .waiting ∨ Rested known.phase) ∧ known.stored = scores ∧
    ∀ run traceId, request = .record run traceId → run.terminal = true → traceId ≠ "" →
      List.Forall₂ (Scores run) metricNames scores

def Failed (request : QualityRequest Value) (known : Progress Value) (error : QualityError) :
  Prop :=
  (known.phase = .waiting ∨ Rested known.phase) ∧
    ∀ run traceId, request = .record run traceId → error ≠ .conflict

section

variable {service : QualityService Value} {known : Progress Value}
  {fail : Progress Value → QualityError → Prop} {score : QualityScore Value}

theorem wp_call {op : QualityOp Value} {post : Progress Value → op.Answer → Prop}
  (admits : service.Admits known op)
  (onValue : ∀ value, post (service.after known op (.ok value)) value)
  (onError : ∀ error, Foreseen op (.error error) →
    fail (service.after known op (.error error)) error) :
  (QualityPort.call op).wp service.contract post fail known := by
  rw [wp_perform]
  refine ⟨admits, ?_, ?_⟩
  · rintro value later ⟨_, rfl⟩
    exact onValue value
  rintro error later ⟨foreseen, rfl⟩
  exact onError error foreseen

theorem wp_enqueue {score : QualityScore Value} {fail : Progress Value → QualityError → Prop}
  (here : known.phase = .fresh score) :
  (service.enqueue score.tenantId "score" score.scoreId).wp service.contract
    (fun later _ => later = { stored := known.stored ++ [score], phase := .synced score })
    fail known := by
  obtain ⟨stored, phase⟩ := known
  cases here
  unfold enqueue
  rw [wp_do, wp_catching, wp_bind]
  refine wp_call (by exact ⟨score, rfl, rfl⟩) ?_ ?_
  · intro _
    refine wp_call (by exact ⟨score, rfl, rfl⟩) ?_ ?_
    · exact fun _ => rfl
    nofun
  rintro error rfl
  rfl

variable {stored : List (QualityScore Value)}

theorem wp_evaluateRule {rule : AlertRule Value} {rest : List (AlertRule Value)}
  : (service.evaluateRule score rule).wp service.contract
    (fun later _ => later = { stored, phase := .listed score (due score rest) }) fail
    { stored, phase := .listed score (due score (rule :: rest)) } := by
  unfold evaluateRule
  by_cases applies : (rule.enabled && decide (rule.scoreName = score.name)) = true
  · have now : due score (rule :: rest) = rule :: due score rest := filter_cons_of_pos applies
    rw [if_pos applies, wp_do, now]
    refine wp_call (by exact ⟨_, rfl, rfl, rfl⟩) ?_ ?_
    · intro listed
      by_cases short : (service.matched score listed).length < rule.minimumSamples
      · dsimp only
        have told : service.after { stored, phase := .listed score (rule :: due score rest) }
            (.listScores score.tenantId score.agentName rule score) (.ok listed) =
              { stored, phase := .listed score (due score rest) } := if_pos short
        rw [told]
        unfold matched at short
        rw [if_pos short]
        rfl
      have told : service.after { stored, phase := .listed score (rule :: due score rest) }
          (.listScores score.tenantId score.agentName rule score) (.ok listed) =
            { stored, phase := .read score rule (due score rest) (service.matched score listed) } :=
        if_neg short
      rw [told]
      have long := short
      unfold matched at long
      rw [if_neg long, wp_do]
      refine wp_call (by trivial) ?_ ?_
      · intro _
        exact wp_call ⟨score, rule, due score rest, _, rfl, rfl⟩ (fun _ => rfl)
          nofun
      nofun
    nofun
  have now : due score (rule :: rest) = due score rest := filter_cons_of_neg applies
  rw [if_neg applies, now]
  rfl

theorem wp_rules (rules : List (AlertRule Value)) :
  (each rules (service.evaluateRule score)).wp service.contract
    (fun later _ => later = { stored, phase := .listed score [] }) fail
    { stored, phase := .listed score (due score rules) } := by
  induction rules with
  | nil => rfl
  | cons rule rest ih =>
    rw [each, wp_bind]
    apply wp_mono wp_evaluateRule
    · rintro later _ rfl
      exact ih
    exact fun _ _ => id

theorem wp_evaluateAlerts (here : known.phase = .synced score) :
  (service.evaluateAlerts score).wp service.contract
    (fun later _ => later = { stored := known.stored, phase := .listed score [] }) fail
    known := by
  obtain ⟨stored, phase⟩ := known
  cases here
  unfold evaluateAlerts
  rw [wp_do]
  refine wp_call (by exact ⟨score, rfl, rfl, rfl⟩) ?_ ?_
  · exact fun rules => wp_rules _
  nofun

variable {session : Session} {run : Run}

theorem wp_storeScore {traceId name : String} {value : Value} (rested : Rested known.phase)
  (fails : ∀ error, error ≠ .conflict → fail known error) :
  (service.storeScore run session traceId name value .rule "system").wp service.contract
    (fun later score => Rested later.phase ∧ later.stored = known.stored ++ [score] ∧
    Scores run name score) fail known := by
  unfold storeScore
  rw [wp_do]
  refine wp_call (by exact rested) ?_ ?_
  · intro createdAt
    rw [wp_do]
    refine wp_call (by exact ⟨rested, rfl⟩) ?_ ?_
    · intro _
      rw [wp_do]
      have queued := @wp_enqueue Value service
        { known with
          phase := .fresh
            (service.scoreOf run session traceId name value .rule "system" createdAt) }
        _ fail rfl
      apply wp_mono queued
      · rintro later _ rfl
        rw [wp_do]
        apply wp_mono (wp_evaluateAlerts rfl)
        · rintro later _ rfl
          exact ⟨rfl, rfl, rfl, rfl, rfl, rfl, rfl⟩
        exact fun _ _ => id
      exact fun _ _ => id
    exact fun error foreseen => fails error foreseen
  nofun

theorem wp_storeScores {traceId : String}
  {metrics : List (String × Value)} {request : QualityRequest Value} (rested : Rested known.phase) :
  (service.storeScores run session traceId metrics).wp service.contract
    (fun later scores => Rested later.phase ∧ later.stored = known.stored ++ scores ∧
    List.Forall₂ (Scores run) (metrics.map Prod.fst) scores) (Failed request) known := by
  induction metrics generalizing known with
  | nil => exact ⟨rested, (append_nil _).symm, .nil⟩
  | cons metric rest ih =>
    obtain ⟨name, value⟩ := metric
    rw [storeScores, wp_do]
    have fails : ∀ error, error ≠ .conflict → Failed request known error :=
      fun error other => ⟨.inr rested, fun _ _ _ => other⟩
    apply wp_mono (wp_storeScore rested fails)
    · rintro later score ⟨rests, stored, told⟩
      rw [wp_do]
      apply wp_mono (ih rests)
      · rintro last scores ⟨ends, all, tells⟩
        refine ⟨ends, ?_, .cons told tells⟩
        rw [all, stored, append_assoc]
        rfl
      exact fun _ _ => id
    exact fun _ _ => id

theorem wp_serve (service : QualityService Value) (request : QualityRequest Value) :
  (service.serve request).wp service.contract (Returned request) (Failed request) {} := by
  cases request with
  | record run traceId =>
    unfold serve recordTerminalRun
    dsimp only
    by_cases skipped : ¬run.terminal ∨ traceId = ""
    · rw [if_pos skipped]
      refine ⟨.inl rfl, rfl, ?_⟩
      rintro run' traceId' same terminal traced
      cases same
      rcases skipped with running | untraced
      · exact absurd terminal running
      exact absurd untraced traced
    rw [if_neg skipped, wp_do]
    refine wp_call (by rfl) ?_ ?_
    · intro events
      rw [wp_do]
      refine wp_call (by trivial) ?_ ?_
      · intro artifacts
        have rested : Rested (Phase.idle : Phase Value) := trivial
        apply wp_mono (wp_storeScores rested)
        · rintro later scores ⟨rests, stored, told⟩
          refine ⟨.inr rests, stored, ?_⟩
          rintro run' traceId' same _ _
          cases same
          exact told
        exact fun _ _ => id
      exact fun error other => ⟨.inr trivial, fun _ _ _ => other⟩
    exact fun error other => ⟨.inr trivial, fun _ _ _ => other⟩
  | addRule rule =>
    unfold serve
    rw [wp_bind]
    refine wp_call (by rfl) ?_ ?_
    · exact fun _ => ⟨.inl rfl, rfl, nofun⟩
    exact fun _ _ => ⟨.inl rfl, nofun⟩

end

end QualityService

end AgentHarness.Quality
