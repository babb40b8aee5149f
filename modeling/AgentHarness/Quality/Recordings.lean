import AgentHarness.Collections.Dict
import AgentHarness.Interaction.Pool

/-!
The quality service records what a terminal Run was worth.
-/

namespace AgentHarness.Quality

open Collections Interaction Program

inductive ScoreSource where
  | rule
  | human
  | llmJudge
  deriving DecidableEq

def ScoreSource.value : ScoreSource → String
  | .rule => "rule"
  | .human => "human"
  | .llmJudge => "llm_judge"

inductive AlertState where
  | open
  | resolved
  deriving DecidableEq

structure QualityScore (Value : Type) where
  (tenantId scoreId runId traceId sessionId agentName agentVersion name : String)
  value : Value
  source : ScoreSource
  createdBy : String
  createdAt : Nat
  deriving DecidableEq

structure AlertRule (Value : Type) where
  (tenantId ruleId agentName scoreName : String)
  minimumValue : Value
  minimumSamples : Nat := 1
  enabled : Bool := true
  createdBy : String
  positive : 1 ≤ minimumSamples := by decide

instance {Value : Type} [DecidableEq Value] : DecidableEq (AlertRule Value) := fun rule other =>
  decidable_of_iff (rule.tenantId = other.tenantId ∧ rule.ruleId = other.ruleId ∧
      rule.agentName = other.agentName ∧ rule.scoreName = other.scoreName ∧
      rule.minimumValue = other.minimumValue ∧ rule.minimumSamples = other.minimumSamples ∧
      rule.enabled = other.enabled ∧ rule.createdBy = other.createdBy) <| by
    cases rule
    cases other
    simp only [AlertRule.mk.injEq]

structure AlertIncident (Value : Type) where
  (tenantId incidentId ruleId agentName agentVersion ownerUserId : String)
  state : AlertState
  observedValue : Value
  sampleCount : Nat

structure QualitySyncJob where
  (tenantId syncId kind resourceId : String)

structure QualityTask where
  (tenantId syncId : String)
  deriving DecidableEq

structure Session where
  (agentName agentVersion : String)
  /-- `resolved_agent_owner_user_id`. -/
  owner : String

structure RunEvent (Value : Type) where
  type : String
  /-- The payload's `is_error` is `True`. -/
  isError : Bool := false
  /-- The payload's `total_cost_usd`, when it is a number. -/
  totalCostUsd : Option Value := none

structure Artifact where
  ready : Bool
  sha256 : String

structure Run where
  (tenantId runId sessionId : String)
  terminal : Bool := true
  succeeded : Bool := true
  /-- In microseconds. -/
  createdAt : Int := 0
  updatedAt : Int := 0

structure Python (Value : Type) where
  (one zero : Value)
  /-- `cost <= 1`. -/
  withinBudget : Value → Bool
  /-- The mean of the scores in the order of `list_scores`. -/
  observed : List (QualityScore Value) → Value
  /-- `observed < minimum`. -/
  below : Value → Value → Bool
  /-- `_stable`. -/
  stable : String → List String → String

variable {Value : Type}

inductive QualityError where
  | conflict
  | interrupted
  deriving DecidableEq

inductive QualityOp (Value : Type) where
  | listAfter (tenantId runId : String)
  | listForRun (tenantId runId : String)
  /-- `self._clock()`. -/
  | clock
  | addScore (score : QualityScore Value)
  | addSync (job : QualitySyncJob)
  | enqueue (task : QualityTask)
  | listRules (tenantId agentName : String)
  | listScores (tenantId agentName : String) (rule : AlertRule Value) (score : QualityScore Value)
  | listIncidents (tenantId agentName : String)
  | upsertIncident (incident : AlertIncident Value)
  | addRule (rule : AlertRule Value)

abbrev QualityOp.Answer : QualityOp Value → Type
  | .listAfter _ _ => List (RunEvent Value)
  | .listForRun _ _ => List Artifact
  | .clock => Nat
  | .listRules _ _ => List (AlertRule Value)
  | .listScores _ _ _ _ => List (QualityScore Value)
  | .listIncidents _ _ => List (AlertIncident Value)
  | _ => Unit

abbrev QualityProgram (Value α : Type) := Program (QualityOp Value) QualityOp.Answer QualityError α

namespace QualityPort

abbrev call (op : QualityOp Value) : QualityProgram Value op.Answer :=
  perform op fun answer => answer

end QualityPort

open Program QualityPort

def cost (events : List (RunEvent Value)) : Option Value :=
  events.reverse.findSome? fun event =>
    if event.type = "runtime.result" then event.totalCostUsd else none

def artifactsValid (artifacts : List Artifact) : Bool :=
  artifacts.all fun artifact => artifact.ready && artifact.sha256 != ""

structure QualityService (Value : Type) where
  python : Python Value
  session : String → String → Session

namespace QualityService

variable (service : QualityService Value)

def flag (holds : Bool) : Value := if holds then service.python.one else service.python.zero

variable (run : Run)

def metrics (events : List (RunEvent Value)) (artifacts : List Artifact) : List (String × Value) :=
  let toolErrors := events.countP fun event => event.type = "tool.result" && event.isError
  let approvalsRequested := events.countP fun event => event.type = "approval.requested"
  let approvalsDecided := events.countP fun event =>
    event.type = "approval.approved" || event.type = "approval.rejected" ||
      event.type = "approval.expired"
  [("terminal_success", service.flag run.succeeded),
    ("tool_reliability", service.flag (toolErrors = 0)),
    ("approval_completion", service.flag (approvalsRequested ≤ approvalsDecided)),
    ("duration_budget", service.flag (max 0 (run.updatedAt - run.createdAt) ≤ 900000000)),
    ("cost_budget", service.flag ((cost events).all service.python.withinBudget)),
    ("artifact_integrity", service.flag (artifactsValid artifacts))]

def scoreOf (session : Session) (traceId name : String) (value : Value) (source : ScoreSource)
  (createdBy : String) (createdAt : Nat) : QualityScore Value where
  tenantId := run.tenantId
  scoreId := service.python.stable "quality_score" [run.runId, name, source.value, createdBy]
  runId := run.runId
  traceId
  sessionId := run.sessionId
  agentName := session.agentName
  agentVersion := session.agentVersion
  name
  value
  source
  createdBy
  createdAt

def syncOf (tenantId kind resourceId : String) : QualitySyncJob where
  tenantId
  syncId := service.python.stable "quality_sync" [kind, resourceId]
  kind
  resourceId

def enqueue (tenantId kind resourceId : String) : QualityProgram Value Unit := do
  let sync := service.syncOf tenantId kind resourceId
  let added ← ((call (.addSync sync)).bind fun _ => done true).catching
    (fun error => if error = QualityError.conflict then done false else raised error)
  if added then call (.enqueue { tenantId, syncId := sync.syncId }) else done ()

variable (score : QualityScore Value)

def ownerOf : String := (service.session score.tenantId score.sessionId).owner

def covers (rule : AlertRule Value) (version : String) (score : QualityScore Value) : Bool :=
  score.tenantId = rule.tenantId && score.agentName = rule.agentName &&
    service.ownerOf score = rule.createdBy && score.agentVersion = version &&
      score.name = rule.scoreName

def incidentId (rule : AlertRule Value) (version : String) : String :=
  service.python.stable "quality_incident" [rule.ruleId, version]

/-- The body of the loop of `_evaluate_alerts`. -/
def evaluateRule (rule : AlertRule Value) : QualityProgram Value Unit := do
  if rule.enabled && rule.scoreName = score.name then do
    let listed ← call (.listScores score.tenantId score.agentName rule score)
    let matching := listed.filter fun item =>
      service.ownerOf item = service.ownerOf score &&
        item.agentVersion = score.agentVersion && item.name = score.name
    if matching.length < rule.minimumSamples then done () else do
      let observed := service.python.observed matching
      let _ ← call (.listIncidents score.tenantId score.agentName)
      call (.upsertIncident
        { tenantId := score.tenantId, incidentId := service.incidentId rule score.agentVersion
          ruleId := rule.ruleId, agentName := score.agentName, agentVersion := score.agentVersion
          ownerUserId := service.ownerOf score
          state := if service.python.below observed rule.minimumValue then .open else .resolved
          observedValue := observed, sampleCount := matching.length })
  else done ()

def evaluateAlerts : QualityProgram Value Unit := do
  let rules ← call (.listRules score.tenantId score.agentName)
  each (rules.filter fun rule => rule.createdBy = service.ownerOf score)
    (service.evaluateRule score)

def storeScore (session : Session) (traceId name : String) (value : Value) (source : ScoreSource)
  (createdBy : String) : QualityProgram Value (QualityScore Value) := do
  let createdAt ← call .clock
  let score := service.scoreOf run session traceId name value source createdBy createdAt
  call (.addScore score)
  service.enqueue run.tenantId "score" score.scoreId
  service.evaluateAlerts score
  return score

def storeScores (run : Run) (session : Session) (traceId : String) :
    List (String × Value) → QualityProgram Value (List (QualityScore Value))
  | [] => done []
  | (name, value) :: rest => do
      let score ← service.storeScore run session traceId name value .rule "system"
      let scores ← storeScores run session traceId rest
      return score :: scores

def recordTerminalRun (session : Session) (traceId : String) :
  QualityProgram Value (List (QualityScore Value)) :=
  if ¬run.terminal ∨ traceId = "" then done [] else do
    let events ← call (.listAfter run.tenantId run.runId)
    let artifacts ← call (.listForRun run.tenantId run.runId)
    service.storeScores run session traceId (service.metrics run events artifacts)

end QualityService

inductive QualityRequest (Value : Type) where
  | record (run : Run) (traceId : String)
  | addRule (rule : AlertRule Value)

def QualityService.serve (service : QualityService Value) :
    QualityRequest Value → QualityProgram Value (List (QualityScore Value))
  | .record run traceId =>
    service.recordTerminalRun run (service.session run.tenantId run.sessionId) traceId
  | .addRule rule => (call (.addRule rule)).bind fun _ => done []

structure QualityStores (Value : Type) where
  scores : List (QualityScore Value) := []
  rules : Dict (String × String) (AlertRule Value) := Dict.empty
  incidents : Dict (String × String) (AlertIncident Value) := Dict.empty
  syncs : Dict (String × String) QualitySyncJob := Dict.empty
  queued : List QualityTask := []
  /-- The recordings that have begun; no program reads it. -/
  begun : List Nat := []
  /-- The evaluations that have listed scores and will write an incident; no program reads it. -/
  reading : List (Nat × AlertRule Value × String) := []

structure QualityInput (Value : Type) where
  failed : Bool := false
  now : Nat := 0
  events : List (RunEvent Value) := []
  artifacts : List Artifact := []

def QualityScore.key (score : QualityScore Value) : String × String :=
  (score.tenantId, score.scoreId)

def AlertRule.key (rule : AlertRule Value) : String × String := (rule.tenantId, rule.ruleId)

namespace QualityStores

variable (stores : QualityStores Value)

def getScore (key : String × String) : Option (QualityScore Value) :=
  stores.scores.find? fun score => score.key = key

variable (service : QualityService Value)

def covered (stores : QualityStores Value) (rule : AlertRule Value) (version : String) :
  List (QualityScore Value) :=
  stores.scores.filter (service.covers rule version)

def attempt (input : QualityInput Value) (stores : QualityStores Value) {α : Type}
  (reply : Except QualityError α × QualityStores Value) :
  Except QualityError α × QualityStores Value :=
  if input.failed then (.error .interrupted, stores) else reply

variable [DecidableEq Value]

def addScore (score : QualityScore Value) : Except QualityError Unit × QualityStores Value :=
  match stores.getScore score.key with
  | none => (.ok (), { stores with scores := stores.scores ++ [score] })
  | some existing => if existing ≠ score then (.error .conflict, stores) else (.ok (), stores)

def addSync (job : QualitySyncJob) : Except QualityError Unit × QualityStores Value :=
  match stores.syncs.get? (job.tenantId, job.syncId) with
  | some _ => (.error .conflict, stores)
  | none => (.ok (), { stores with syncs := stores.syncs.set (job.tenantId, job.syncId) job })

def addRule (rule : AlertRule Value) : Except QualityError Unit × QualityStores Value :=
  match stores.rules.get? rule.key with
  | some _ => (.error .conflict, stores)
  | none => (.ok (), { stores with rules := stores.rules.set rule.key rule })

def respond (actor : Nat) (input : QualityInput Value) (stores : QualityStores Value) :
    (op : QualityOp Value) → Except QualityError op.Answer × QualityStores Value
  | .listAfter _ _ =>
    attempt input { stores with begun := actor :: stores.begun }
      (.ok input.events, { stores with begun := actor :: stores.begun })
  | .listForRun _ _ => attempt input stores (.ok input.artifacts, stores)
  | .clock => (.ok input.now, stores)
  | .addScore score => attempt input stores (stores.addScore score)
  | .addSync job => attempt input stores (stores.addSync job)
  | .enqueue task => attempt input stores (.ok (), { stores with queued := task :: stores.queued })
  | .listRules tenantId agentName =>
    attempt input stores (.ok (stores.rules.values.filter fun rule =>
      rule.tenantId = tenantId && rule.agentName = agentName), stores)
  | .listScores tenantId agentName rule score =>
    attempt input stores
      (.ok (stores.scores.filter fun item =>
          item.tenantId = tenantId && item.agentName = agentName),
        if (stores.covered service rule score.agentVersion).length < rule.minimumSamples then
          stores
        else { stores with reading := (actor, rule, score.agentVersion) :: stores.reading })
  | .listIncidents tenantId agentName =>
    attempt input stores (.ok (stores.incidents.values.filter fun incident =>
      incident.tenantId = tenantId && incident.agentName = agentName), stores)
  | .upsertIncident incident =>
    attempt input stores (.ok (),
      { stores with
        incidents := stores.incidents.set (incident.tenantId, incident.incidentId) incident
        reading := stores.reading.filter fun entry => entry.1 ≠ actor })
  | .addRule rule => attempt input stores (stores.addRule rule)

def component : Component (QualityOp Value) QualityOp.Answer QualityError Nat (QualityStores Value)
  (QualityInput Value) where
  respond := respond service

end QualityStores

def start (service : QualityService Value) (requests : Nat → QualityRequest Value) :
  Pool (QualityOp Value) QualityOp.Answer QualityError Nat (QualityStores Value)
    (List (QualityScore Value)) where
  state := {}
  thread actor := service.serve (requests actor)

end AgentHarness.Quality
