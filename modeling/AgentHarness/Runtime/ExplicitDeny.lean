import AgentHarness.Runtime.ToolGate

/-!
When a winning DENY rule is the gate's last word.
-/

namespace AgentHarness.Runtime

open Collections Interaction Program Policy Quota List PolicyDecision GateOp

namespace SdkToolGate

/-- The answers a call meets when it reads these files, this trust and these
capabilities; all other calls are answered in any way, exceptions included. -/
def answering (files : FileSystem) (trust : ContextTrust) (capabilities : RunFileCapabilities) :
  Contract GateOp GateOp.Answer GateError Unit where
  allowed _ _ := True
  learns _ op answer _ :=
    match op, answer with
    | .fileSystem, answer => answer = .ok files
    | .capabilities, answer => answer = .ok capabilities
    | .contextTrust, answer => answer = .ok trust
    | _, _ => True

def Denies (files : FileSystem) (trust : ContextTrust) (capabilities : RunFileCapabilities)
  (program : GateProgram HookOutput) : Prop :=
  program.wp (answering files trust capabilities) (fun _ output => output.decision = .deny)
    (fun _ _ => True) ()

def updatedArguments (context : RuntimeContext) (input : PreToolUseHookInput)
  (files : FileSystem) : Option ToolArguments :=
  if canonicalToolName input.toolName = "Read" then
    readArguments context files input.toolInput
  else none

def judged (context : RuntimeContext) (input : PreToolUseHookInput) (files : FileSystem) :
  ToolArguments :=
  (updatedArguments context input files).getD input.toolInput

def writeTarget (context : RuntimeContext) (input : PreToolUseHookInput) (files : FileSystem) :
  Option PurePath :=
  if isWrite (canonicalToolName input.toolName) then
    context.workspace.target files (judged context input files)
  else none

def refusedFirst (gate : SdkToolGate) (context : RuntimeContext) (input : PreToolUseHookInput)
  (files : FileSystem) : Bool :=
  gate.undeclaredAlias (canonicalToolName input.toolName) (judged context input files) ||
    (isWrite (canonicalToolName input.toolName) && (writeTarget context input files).isNone)

def overridden (gate : SdkToolGate) (context : RuntimeContext) (input : PreToolUseHookInput)
  (files : FileSystem) (capabilities : RunFileCapabilities) (ruleName : String) : Bool :=
  let declared := gate.declaredTrust.entries.map Prod.fst
  (writeTarget context input files).any capabilities.isGenerated || (ruleName = "implicit-deny" &&
      publishedMcp declared input.toolName (canonicalToolName input.toolName)) ||
    declaredPythonTool context declared input.toolName

variable {gate : SdkToolGate} {context : RuntimeContext} {input : PreToolUseHookInput}
  {files : FileSystem} {trust : ContextTrust} {capabilities : RunFileCapabilities}

theorem effectiveResult_of_deny (gate : SdkToolGate) (context : RuntimeContext)
  (input : PreToolUseHookInput) (files : FileSystem) (capabilities : RunFileCapabilities)
  (arguments : ToolArguments) (evaluated : PolicyResult)
  (denies : evaluated.decision = .deny) :
  (gate.effectiveResult context input.toolName arguments (writeTarget context input files)
    capabilities evaluated).decision =
      if gate.overridden context input files capabilities evaluated.ruleName then .allow
      else .deny := by
  unfold effectiveResult overridden
  by_cases generated : (writeTarget context input files).any capabilities.isGenerated = true
  · simp [generated, runGeneratedFile]
  -- a denial is no question, so the Bash classifier is not consulted
  have notAsked : evaluated.decision ≠ .ask := by
    rw [denies]
    exact noConfusion
  by_cases published : evaluated.ruleName = "implicit-deny" ∧
    publishedMcp (gate.declaredTrust.entries.map Prod.fst) input.toolName
      (canonicalToolName input.toolName) = true
  · simp [generated, denies, published, publishedMcpTool]
  by_cases python : declaredPythonTool context (gate.declaredTrust.entries.map Prod.fst)
    input.toolName = true
  · simp [generated, denies, published, python, declaredSandboxPythonTool]
  have unpublished : (evaluated.ruleName = "implicit-deny" &&
    publishedMcp (gate.declaredTrust.entries.map Prod.fst) input.toolName
      (canonicalToolName input.toolName)) = false := by
    simpa using published
  simp [generated, denies, published, python, unpublished]

section

variable {α : Type}

theorem asks_wp (op : GateOp) (read : op.Answer → α) {post : Unit → α → Prop} :
  (perform op read).wp (answering files trust capabilities) post (fun _ _ => True) () ↔
    ∀ value, (answering files trust capabilities).learns () op (.ok value) () →
    post () (read value) := by
  rw [wp_perform]
  constructor
  · exact fun holds value learned => holds.2.1 value () learned
  exact fun holds => ⟨trivial, fun value _ learned => holds value learned, fun _ _ _ => trivial⟩

variable {post : Unit → Unit → Prop}

theorem append_wp (event : GateEvent) :
  (append event).wp (answering files trust capabilities) post (fun _ _ => True) () ↔ post () () :=
  (asks_wp (.appendEvent event) _).trans ⟨fun all => all () trivial, fun holds _ _ => holds⟩

theorem observe_wp (target : Option (PurePath × Bool)) :
  (each target.toList fun observed => tell (.observe observed.1 observed.2)).wp
    (answering files trust capabilities) post (fun _ _ => True) () ↔ post () () := by
  cases target with
  | none => exact Iff.rfl
  | some observed =>
    rw [Option.toList_some, each, wp_bind]
    exact (asks_wp (.observe observed.1 observed.2) _).trans
      ⟨fun all => all () trivial, fun holds _ _ => holds⟩

theorem noteWrite_wp {toolCallId : String} (target : Option PurePath) :
  (each target.toList fun target => tell (.noteAuthorizedWrite toolCallId target)).wp
    (answering files trust capabilities) post (fun _ _ => True) () ↔ post () () := by
  cases target with
  | none => exact Iff.rfl
  | some target =>
    rw [Option.toList_some, each, wp_bind]
    exact (asks_wp (.noteAuthorizedWrite toolCallId target) _).trans
      ⟨fun all => all () trivial, fun holds _ _ => holds⟩

theorem readFileSystem_wp (read : FileSystem → α) {post : Unit → α → Prop} :
  (readFileSystem.bind fun found => done (read found)).wp
    (answering files trust capabilities) post (fun _ _ => True) () ↔
    post () (read files) := by
  rw [wp_bind]
  refine (asks_wp .fileSystem _).trans ⟨fun all => all files rfl, ?_⟩
  rintro holds value learned
  cases learned
  exact holds

theorem judgedArguments_wp {post : Unit → Option ToolArguments → Prop} :
  (judgedArguments context (canonicalToolName input.toolName) input.toolInput).wp
    (answering files trust capabilities) post (fun _ _ => True) () ↔
    post () (updatedArguments context input files) := by
  unfold judgedArguments updatedArguments
  split
  · exact readFileSystem_wp fun found => readArguments context found input.toolInput
  exact Iff.rfl

theorem observedTarget_wp {post : Unit → Option (PurePath × Bool) → Prop} :
  (observedTarget context (canonicalToolName input.toolName)
    (judged context input files)).wp (answering files trust capabilities) post
    (fun _ _ => True) () ↔
    post () ((writeTarget context input files).map
    fun target => (target, files.fileExists target)) := by
  unfold observedTarget writeTarget
  split
  · exact readFileSystem_wp (fun found =>
      (context.workspace.target found (judged context input files)).map
        fun target => (target, found.fileExists target))
  exact Iff.rfl

theorem readCapabilities_wp {post : Unit → RunFileCapabilities → Prop} :
  readCapabilities.wp (answering files trust capabilities) post (fun _ _ => True) () ↔
    post () capabilities := by
  refine (asks_wp .capabilities _).trans ⟨fun all => all capabilities rfl, ?_⟩
  rintro holds value learned
  cases learned
  exact holds

theorem readContextTrust_wp {post : Unit → ContextTrust → Prop} :
  readContextTrust.wp (answering files trust capabilities) post (fun _ _ => True) () ↔
    post () trust := by
  refine (asks_wp .contextTrust _).trans ⟨fun all => all trust rfl, ?_⟩
  rintro holds value learned
  cases learned
  exact holds

end

theorem denied_denies (toolCallId reason : String) :
  Denies files trust capabilities (denied toolCallId reason) := by
  simp [Denies, denied, wp_bind, append_wp, pure_eq, wp_done]

theorem charge_may_pass {rawToolName toolName toolCallId : String}
  {post : Unit → Option QuotaResource → Prop}
  (holds : (gate.charge context rawToolName toolName toolCallId).wp
    (answering files trust capabilities) post (fun _ _ => True) ()) :
  post () none := by
  unfold charge at holds
  split at holds
  · rw [wp_catching, wp_bind] at holds
    unfold chargeCall at holds
    split at holds
    · exact holds.2 (.ok ()) () trivial
    split at holds
    · exact holds.2 (.ok ()) () trivial
    exact holds
  exact holds

variable {result : PolicyResult}

theorem finish_not_denies (allows : result.decision = .allow)
  (rawToolName toolCallId : String) (target : Option PurePath) (updated : Option ToolArguments) :
  ¬ Denies files trust capabilities
    (gate.finish context rawToolName toolCallId target updated result) := by
  intro denies
  have notAsked : result.decision ≠ .ask := by
    rw [allows]
    exact noConfusion
  simp only [Denies, finish, notAsked, ↓reduceIte, bind_eq, done_bind, Bool.true_eq_false,
    pure_eq] at denies
  have settled : ∀ settle : Option QuotaResource → GateProgram HookOutput,
    settle none = (append (.toolAllowed toolCallId)).bind (fun _ =>
      done { decision := .allow, reason := result.reason, updatedInput := updated }) →
    ¬ ((gate.charge context rawToolName (canonicalToolName rawToolName) toolCallId).bind
      settle).wp (answering files trust capabilities)
        (fun _ output => output.decision = .deny) (fun _ _ => True) () := by
    intro settle allowed charged
    rw [wp_bind] at charged
    have passed := charge_may_pass charged
    simp only [allowed, wp_bind, append_wp, wp_done] at passed
    cases passed
  split at denies
  · rw [wp_bind, noteWrite_wp] at denies
    exact settled _ rfl denies
  exact settled _ rfl denies

theorem authorize_denies_iff {policyId : String} {policy : PolicyEngine}
  (acts : gate.effectiveResult context input.toolName (judged context input files)
    (writeTarget context input files) capabilities
    (policy.evaluate (callContext context (canonicalToolName input.toolName)
    (judged context input files) trust)) = result) :
  Denies files trust capabilities (gate.authorize context input policyId policy trust) ↔
    gate.refusedFirst context input files = true ∨ result.decision = .deny ∨
    Denies files trust capabilities (gate.finish context input.toolName input.toolUseId
    (writeTarget context input files) (updatedArguments context input files) result) := by
  subst result
  unfold Denies authorize refusedFirst
  simp only [wp_do, judgedArguments_wp, append_wp]
  change Program.wp _ (if gate.undeclaredAlias _ (judged context input files) = true then _
    else _) _ _ _ ↔ _
  by_cases undeclared : gate.undeclaredAlias (canonicalToolName input.toolName)
    (judged context input files) = true
  · rw [if_pos undeclared]
    exact iff_of_true (denied_denies _ _) (.inl (by rw [undeclared]; rfl))
  rw [if_neg undeclared, wp_do]
  change (observedTarget context _ (judged context input files)).wp _ _ _ _ ↔ _
  rw [observedTarget_wp, Option.isNone_map]
  by_cases outside : (isWrite (canonicalToolName input.toolName) &&
    (writeTarget context input files).isNone) = true
  · rw [if_pos outside]
    exact iff_of_true (denied_denies _ _) (.inl (by rw [outside, Bool.or_true]))
  have sameTarget : ((writeTarget context input files).map
    fun target => (target, files.fileExists target)).map Prod.fst =
      writeTarget context input files := by
    rw [Option.map_map]
    exact Option.map_id'
  rw [if_neg outside, wp_do, observe_wp, wp_do, readCapabilities_wp, sameTarget]
  change Program.wp _ (if (gate.effectiveResult context input.toolName
    (judged context input files) (writeTarget context input files) capabilities
    (policy.evaluate (callContext context (canonicalToolName input.toolName)
      (judged context input files) trust))).decision = .deny then _ else _) _ _ _ ↔ _
  by_cases refused : (gate.effectiveResult context input.toolName
    (judged context input files) (writeTarget context input files) capabilities
    (policy.evaluate (callContext context (canonicalToolName input.toolName)
      (judged context input files) trust))).decision = .deny
  · rw [if_pos refused]
    exact iff_of_true (denied_denies _ _) (.inr (.inl refused))
  rw [if_neg refused]
  simp only [undeclared, outside, Bool.or_false, Bool.false_eq_true, refused, false_or]
  exact Iff.rfl

theorem preToolUse_denies_iff : Denies files trust capabilities (gate.preToolUse context input) ↔
  Denies files trust capabilities (gate.authorize context input
  (gate.selectPolicy input).1 (gate.selectPolicy input).2 trust) := by
  have settled : ∀ later output, (if output.decision = PermissionDecision.deny then
        (tell (.dropPendingTrust input.toolUseId)).bind fun _ => done output
      else done output : GateProgram HookOutput).wp (answering files trust capabilities)
        (fun _ output => output.decision = .deny) (fun _ _ => True) later ↔
      output.decision = .deny := by
    intro later output
    split
    · rename_i refused
      rw [wp_bind]
      exact (asks_wp (.dropPendingTrust input.toolUseId) _).trans
        ⟨fun _ => refused, fun holds _ _ => holds⟩
    exact Iff.rfl
  have answers : Denies files trust capabilities (readContextTrust.bind
    (fun contextTrust => (gate.authorize context input (gate.selectPolicy input).1
      (gate.selectPolicy input).2 contextTrust).bind (fun output =>
      if output.decision = .deny then
        (tell (.dropPendingTrust input.toolUseId)).bind fun _ => done output
      else done output))) ↔
    Denies files trust capabilities (gate.authorize context input
      (gate.selectPolicy input).1 (gate.selectPolicy input).2 trust) := by
    unfold Denies
    rw [wp_bind, readContextTrust_wp, wp_bind]
    exact ⟨fun holds => wp_mono holds (fun later output => (settled later output).mp)
      fun _ _ _ => trivial,
      fun holds => wp_mono holds (fun later output => (settled later output).mpr)
        fun _ _ _ => trivial⟩
  unfold preToolUse
  dsimp only
  split
  · unfold Denies
    rw [wp_do]
    exact ((asks_wp (.notePendingTrust input.toolUseId (gate.resultTrust context input)) _).trans
      ⟨fun all => all () trivial, fun holds _ _ => holds⟩).trans answers
  exact answers

section

variable {rule : PolicyRule}

theorem upheld_denies (wins : (gate.selectPolicy input).2.Wins
    (callContext context (canonicalToolName input.toolName) (judged context input files) trust)
    rule)
  (denies : rule.decision = .deny)
  (upheld : gate.overridden context input files capabilities rule.name = false) :
  Denies files trust capabilities (gate.preToolUse context input) := by
  rw [preToolUse_denies_iff, authorize_denies_iff rfl, PolicyEngine.evaluate_of_wins wins]
  refine .inr (.inl ?_)
  rw [effectiveResult_of_deny gate context input files capabilities _ _ denies, upheld]
  rfl

theorem overridden_not_denies (wins : (gate.selectPolicy input).2.Wins
    (callContext context (canonicalToolName input.toolName) (judged context input files) trust)
    rule)
  (denies : rule.decision = .deny)
  (admitted : gate.refusedFirst context input files = false)
  (overrides : gate.overridden context input files capabilities rule.name = true) :
  ¬ Denies files trust capabilities (gate.preToolUse context input) := by
  rw [preToolUse_denies_iff, authorize_denies_iff rfl, PolicyEngine.evaluate_of_wins wins]
  have allows := effectiveResult_of_deny gate context input files capabilities
    (judged context input files) ⟨rule.decision, rule.name, "matched policy rule " ++ rule.name⟩
    denies
  rw [if_pos overrides] at allows
  rintro (refused | denial | denial)
  · rw [admitted] at refused
    cases refused
  · rw [allows] at denial
    cases denial
  apply finish_not_denies allows
  assumption

end

/-- A winning DENY rule is the gate's answer exactly when no override applies to it, or
when the call is refused before the engine is asked. -/
theorem explicit_deny_denies_iff (gate : SdkToolGate) (context : RuntimeContext)
  (input : PreToolUseHookInput) (files : FileSystem) (trust : ContextTrust)
  (capabilities : RunFileCapabilities) (rule : PolicyRule)
  (wins : (gate.selectPolicy input).2.Wins
    (callContext context (canonicalToolName input.toolName) (judged context input files) trust)
    rule)
  (denies : rule.decision = .deny) :
  Denies files trust capabilities (gate.preToolUse context input) ↔
    gate.refusedFirst context input files = true ∨
    gate.overridden context input files capabilities rule.name = false := by
  constructor
  · intro denial
    by_contra neither
    obtain ⟨admitted, overrides⟩ := not_or.mp neither
    exact overridden_not_denies wins denies (Bool.not_eq_true _ ▸ admitted)
      (Bool.not_eq_false _ ▸ overrides) denial
  rintro (refused | upheld)
  · rw [preToolUse_denies_iff, authorize_denies_iff rfl]
    exact .inl refused
  exact upheld_denies wins denies upheld

def noPythonRule : PolicyRule where
  name := "no-bundle-python"
  decision := .deny
  tool := some "mcp__harness-python-*"
  priority := 100

def pythonGate : SdkToolGate where
  lowRiskBash := fun _ _ _ => false
  quotas := false
  policyId := "local-standard"
  policy := { rules := [noPythonRule] }
  declaredTrust := Dict.empty.set "mcp__harness-python-report__build" .safe

def pythonContext : RuntimeContext where
  tenantId := "tenant-a"
  runId := "run-1"
  agentName := "analyst"
  workspace := { root := PurePath.parse "/srv/run-1" }
  sandboxCommandExecutor := true

def pythonCall (toolName : String) : PreToolUseHookInput where
  toolName
  toolUseId := "call-1"
  toolInput := Dict.empty

def plainFiles : FileSystem where
  resolve := some
  isFile := fun _ => false
  fileExists := fun _ => false
  referenceRoots := []

theorem noPythonRule_wins (toolName : String)
  (matched : Text.fnmatch (canonicalToolName toolName) "mcp__harness-python-*" = true) :
  (pythonGate.selectPolicy (pythonCall toolName)).2.Wins
    (callContext pythonContext (canonicalToolName toolName)
    (judged pythonContext (pythonCall toolName) plainFiles) .safe) noPythonRule := by
  have applies : noPythonRule.matchesCall (callContext pythonContext
    (canonicalToolName toolName) (judged pythonContext (pythonCall toolName) plainFiles)
    .safe) = true := by
    simp [PolicyRule.matchesCall, noPythonRule, unsetOr, callContext, matched]
  refine ⟨mem_singleton_self _, applies, fun other listed _ => ?_⟩
  rw [mem_singleton.mp listed]

theorem explicit_deny_overridden :
  (pythonGate.selectPolicy (pythonCall "mcp__harness-python-report__build")).2.Wins
    (callContext pythonContext "mcp__harness-python-report__build"
    (judged pythonContext (pythonCall "mcp__harness-python-report__build") plainFiles)
    .safe) noPythonRule ∧
    noPythonRule.decision = .deny ∧
    ¬ Denies plainFiles .safe {}
    (pythonGate.preToolUse pythonContext (pythonCall "mcp__harness-python-report__build")) := by
  have wins := noPythonRule_wins "mcp__harness-python-report__build" (by decide)
  exact ⟨wins, rfl, overridden_not_denies wins rfl (by decide) (by decide)⟩

theorem explicit_deny_of_undeclared_tool : Denies plainFiles .safe {}
  (pythonGate.preToolUse pythonContext (pythonCall "mcp__harness-python-other__build")) ↔
  pythonGate.refusedFirst pythonContext
  (pythonCall "mcp__harness-python-other__build") plainFiles = true ∨
  pythonGate.overridden pythonContext (pythonCall "mcp__harness-python-other__build")
  plainFiles {} noPythonRule.name = false :=
  explicit_deny_denies_iff pythonGate pythonContext
    (pythonCall "mcp__harness-python-other__build") plainFiles .safe {} noPythonRule
    (noPythonRule_wins "mcp__harness-python-other__build" (by decide)) rfl

end SdkToolGate

end AgentHarness.Runtime
