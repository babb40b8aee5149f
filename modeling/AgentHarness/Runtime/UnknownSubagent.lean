import AgentHarness.Runtime.ExplicitDeny

/-!
When the gate denies a call of a subagent that the run does not declare.
-/

namespace AgentHarness.Runtime

open Collections Interaction Program Policy PolicyDecision

namespace SdkToolGate

def declaresSubagent (gate : SdkToolGate) (name : String) : Bool :=
  (gate.subagentPolicies.get? name).isSome

structure UnknownSubagent (gate : SdkToolGate) (input : PreToolUseHookInput) : Prop where
  named : input.agentType ≠ "" ∨ input.agentId ≠ ""
  undeclaredType : gate.declaresSubagent input.agentType = false
  undeclaredId : gate.declaresSubagent input.agentId = false

variable {gate : SdkToolGate} {context : RuntimeContext} {input : PreToolUseHookInput}
  {files : FileSystem} {trust : ContextTrust} {capabilities : RunFileCapabilities}
  {result : PolicyResult}

theorem asked_not_denies (asks : result.decision = .ask)
  (rawToolName toolCallId : String) (target : Option PurePath) (updated : Option ToolArguments) :
  ¬ Denies files trust capabilities
    (gate.finish context rawToolName toolCallId target updated result) := by
  intro denies
  have carried : Denies files trust capabilities
      (gate.finish context rawToolName toolCallId target updated
        { result with decision := .allow }) := by
    unfold Denies finish at denies ⊢
    simp only [asks, ↓reduceIte, approved, bind_eq, pure_eq, wp_bind, wp_catching,
      wp_done] at denies
    have granted := denies.2 (.ok "approval-1") () trivial
    have agreed := granted.2 (.ok ApprovalStatus.approved) () trivial
    simpa using agreed
  exact finish_not_denies rfl _ _ _ _ carried

variable {evaluated : PolicyResult}

theorem effectiveResult_not_deny (gate : SdkToolGate) (context : RuntimeContext)
  (rawToolName : String) (arguments : ToolArguments) (target : Option PurePath)
  (capabilities : RunFileCapabilities) (admits : evaluated.decision ≠ .deny) :
  (gate.effectiveResult context rawToolName arguments target capabilities evaluated).decision ≠
    .deny := by
  unfold effectiveResult
  dsimp only
  have first : (if target.any capabilities.isGenerated = true then runGeneratedFile
    else evaluated).decision ≠ .deny := by
    split
    · exact noConfusion
    exact admits
  generalize (if target.any capabilities.isGenerated = true then runGeneratedFile
    else evaluated) = judged at first ⊢
  have second : (if canonicalToolName rawToolName = "Bash" ∧ judged.decision = .ask ∧
    gate.lowRiskCommand context arguments capabilities = true then sandboxLowRiskBash
    else judged).decision ≠ .deny := by
    split
    · exact noConfusion
    exact first
  generalize (if canonicalToolName rawToolName = "Bash" ∧ judged.decision = .ask ∧
    gate.lowRiskCommand context arguments capabilities = true then sandboxLowRiskBash
    else judged) = classified at second ⊢
  simpa only [second, false_and, ↓reduceIte] using second

theorem admitted_not_denies (admits : result.decision ≠ .deny)
  (rawToolName toolCallId : String) (target : Option PurePath) (updated : Option ToolArguments) :
  ¬ Denies files trust capabilities
    (gate.finish context rawToolName toolCallId target updated result) := by
  rcases asked : result.decision with _ | _ | _
  · exact finish_not_denies asked _ _ _ _
  · exact absurd asked admits
  exact asked_not_denies asked _ _ _ _

theorem effectiveResult_deny_iff (evaluated : PolicyResult) (arguments : ToolArguments) :
  (gate.effectiveResult context input.toolName arguments (writeTarget context input files)
    capabilities evaluated).decision = .deny ↔
    evaluated.decision = .deny ∧
    gate.overridden context input files capabilities evaluated.ruleName = false := by
  by_cases denial : evaluated.decision = .deny
  · rw [effectiveResult_of_deny gate context input files capabilities arguments evaluated denial]
    cases overrides : gate.overridden context input files capabilities evaluated.ruleName with
    | true =>
      simp only [↓reduceIte, Bool.true_eq_false, and_false, iff_false]
      exact noConfusion
    | false => simp only [Bool.false_eq_true, ↓reduceIte, denial, and_self]
  have admitted := effectiveResult_not_deny gate context input.toolName arguments
    (writeTarget context input files) capabilities denial
  exact iff_of_false admitted fun upheld => denial upheld.1

theorem preToolUse_denies_exactly
  (evaluates : (gate.selectPolicy input).2.evaluate (callContext context
    (canonicalToolName input.toolName) (judged context input files) trust) = evaluated) :
  Denies files trust capabilities (gate.preToolUse context input) ↔
    gate.refusedFirst context input files = true ∨ evaluated.decision = .deny ∧
    gate.overridden context input files capabilities evaluated.ruleName = false := by
  rw [preToolUse_denies_iff, authorize_denies_iff rfl, evaluates]
  constructor
  · rintro (refused | denial | denies)
    · exact .inl refused
    · exact .inr ((effectiveResult_deny_iff evaluated _).mp denial)
    by_contra neither
    have admits := mt (effectiveResult_deny_iff evaluated (judged context input files)).mp
      (not_or.mp neither).2
    revert denies
    exact admitted_not_denies admits _ _ _ _
  rintro (refused | denial)
  · exact .inl refused
  exact .inr (.inl ((effectiveResult_deny_iff evaluated _).mpr denial))

theorem selectPolicy_of_unknown (unknown : gate.UnknownSubagent input) :
  (gate.selectPolicy input).2 =
    if gate.subagentPolicies.entries.isEmpty then gate.policy else { rules := [] } := by
  have named : ¬ (input.agentType = "" ∧ input.agentId = "") := by
    rintro ⟨noType, noId⟩
    rcases unknown.named with named | named
    · exact named noType
    exact named noId
  have noType : (gate.subagentPolicies.get? input.agentType).isSome = false :=
    unknown.undeclaredType
  have noId : (gate.subagentPolicies.get? input.agentId).isSome = false := unknown.undeclaredId
  unfold selectPolicy
  simp only [noType, noId, Bool.false_eq_true, ↓reduceIte, named, or_false]
  split <;> rfl

/-- An unknown subagent is denied exactly when its call is refused before any engine is
asked, or no override applies to it; where no subagent is declared at all, when the lead's
engine denies the call and no override applies to that. -/
theorem unknown_subagent_denies_iff (gate : SdkToolGate) (context : RuntimeContext)
  (input : PreToolUseHookInput) (files : FileSystem) (trust : ContextTrust)
  (capabilities : RunFileCapabilities) (unknown : gate.UnknownSubagent input) :
  Denies files trust capabilities (gate.preToolUse context input) ↔
    gate.refusedFirst context input files = true ∨ if gate.subagentPolicies.entries.isEmpty then
        let evaluated := gate.policy.evaluate
          (callContext context (canonicalToolName input.toolName) (judged context input files)
            trust)
        evaluated.decision = .deny ∧
          gate.overridden context input files capabilities evaluated.ruleName = false
      else gate.overridden context input files capabilities "implicit-deny" = false := by
  have selected := selectPolicy_of_unknown unknown
  rw [preToolUse_denies_exactly rfl, selected]
  refine or_congr_right ?_
  by_cases undeclared : gate.subagentPolicies.entries.isEmpty = true
  · rw [if_pos undeclared, if_pos undeclared]
  rw [if_neg undeclared, if_neg undeclared]
  exact ⟨fun upheld => upheld.2, fun upheld => ⟨rfl, upheld⟩⟩

def searchGate : SdkToolGate where
  lowRiskBash := fun _ _ _ => false
  quotas := false
  policyId := "local-standard"
  policy := { rules := [] }
  subagentPolicies := Dict.empty.set "helper-agent" ("local-standard", { rules := [] })
  declaredTrust := Dict.empty.set "mcp__search__query" .untrusted

def strangerCall (toolName : String) : PreToolUseHookInput where
  toolName
  toolUseId := "call-1"
  toolInput := Dict.empty
  agentType := "unregistered-agent"

theorem strangerCall_unknown (toolName : String) :
  searchGate.UnknownSubagent (strangerCall toolName) where
  named := .inl (show "unregistered-agent" ≠ "" by decide)
  undeclaredType := show searchGate.declaresSubagent "unregistered-agent" = false by decide
  undeclaredId := show searchGate.declaresSubagent "" = false by decide

theorem unknown_subagent_allowed : searchGate.UnknownSubagent (strangerCall "mcp__search__query") ∧
  ¬ Denies plainFiles .safe {}
  (searchGate.preToolUse pythonContext (strangerCall "mcp__search__query")) := by
  have unknown := strangerCall_unknown "mcp__search__query"
  refine ⟨unknown, ?_⟩
  rw [preToolUse_denies_exactly rfl, selectPolicy_of_unknown unknown]
  rintro (refused | upheld)
  · revert refused
    decide
  have permitted : searchGate.overridden pythonContext (strangerCall "mcp__search__query")
    plainFiles {} "implicit-deny" = true := by decide
  exact absurd (permitted.symm.trans upheld.2) Bool.noConfusion

theorem unknown_subagent_of_bash :
  Denies plainFiles .safe {} (searchGate.preToolUse pythonContext (strangerCall "Bash")) ↔
    searchGate.refusedFirst pythonContext (strangerCall "Bash") plainFiles = true ∨
      if searchGate.subagentPolicies.entries.isEmpty then
        let evaluated := searchGate.policy.evaluate
          (callContext pythonContext (canonicalToolName (strangerCall "Bash").toolName)
            (judged pythonContext (strangerCall "Bash") plainFiles) .safe)
        evaluated.decision = .deny ∧
          searchGate.overridden pythonContext (strangerCall "Bash") plainFiles {}
            evaluated.ruleName = false
      else searchGate.overridden pythonContext (strangerCall "Bash") plainFiles {}
        "implicit-deny" = false :=
  unknown_subagent_denies_iff searchGate pythonContext (strangerCall "Bash") plainFiles .safe {}
    (strangerCall_unknown "Bash")

end SdkToolGate

end AgentHarness.Runtime
