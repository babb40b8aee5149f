import AgentHarness.Collections.Dict
import AgentHarness.Text.Fnmatch
import Mathlib.Data.List.MinMax
import Mathlib.Data.Prod.Lex
import Mathlib.Data.String.Basic

/-!
Deterministic matching and precedence for policy rules.
-/

namespace AgentHarness.Policy

open Collections List

inductive PolicyDecision where
  | allow
  | deny
  | ask
  deriving DecidableEq

inductive ContextTrust where
  | safe
  | sensitive
  | untrusted
  deriving DecidableEq

inductive SandboxIsolation where
  | workspace
  | container
  deriving DecidableEq

/-- A value of a tool's JSON arguments: a text, a list whose items are texts or
not, or anything else; `rendered` is its `str(…)`. -/
inductive ArgumentValue where
  | text (value : String)
  | list (items : List (Option String)) (rendered : String)
  | other (rendered : String)
  deriving DecidableEq

def ArgumentValue.rendered : ArgumentValue → String
  | .text value => value
  | .list _ rendered | .other rendered => rendered

abbrev ToolArguments := Dict String ArgumentValue

structure PolicyContext where
  (tenantId agentName toolName : String)
  arguments : ToolArguments := Dict.empty
  sandboxIsolation : SandboxIsolation := .workspace
  contextTrust : ContextTrust := .safe

structure PolicyRule where
  name : String
  decision : PolicyDecision
  tenantId : Option String := none
  agentName : Option String := none
  tool : Option String := none
  pathGlob : Option String := none
  commandContains : Option String := none
  sandboxIsolation : Option SandboxIsolation := none
  contextTrust : Option ContextTrust := none
  priority : Int := 0
  deriving DecidableEq

structure PolicyResult where
  decision : PolicyDecision
  (ruleName reason : String)

def decisionPrecedence : PolicyDecision → Nat
  | .allow => 0
  | .ask => 1
  | .deny => 2

theorem decisionPrecedence_injective : Function.Injective decisionPrecedence := by
  intro first second same
  cases first <;> cases second <;> first | rfl | cases same

/-- `_path`: the file path of a call, or its path, or nothing. -/
def pathOf (context : PolicyContext) : String :=
  match context.arguments.get? "file_path" with
  | some value => value.rendered
  | none =>
    match context.arguments.get? "path" with
    | some value => value.rendered
    | none => ""

def commandOf (context : PolicyContext) : String :=
  match context.arguments.get? "command" with
  | some value => value.rendered
  | none => ""

/-- `needle in text`. -/
def contains (text needle : String) : Bool :=
  (Text.suffixes text.toList).any fun rest => needle.toList.isPrefixOf rest

def RuleRank : Type := Int ×ₗ Nat ×ₗ Nat ×ₗ String

instance : LinearOrder RuleRank :=
  @Prod.Lex.instLinearOrder Int (Nat ×ₗ Nat ×ₗ String) Int.instLinearOrder
    (@Prod.Lex.instLinearOrder Nat (Nat ×ₗ String) Nat.instLinearOrder
      (@Prod.Lex.instLinearOrder Nat String Nat.instLinearOrder String.instLinearOrder))

def ruleRank (priority : Int) (specificity strictness : Nat) (name : String) : RuleRank :=
  toLex (priority, toLex (specificity, toLex (strictness, name)))

theorem ruleRank_injective {priority priority' : Int}
  {specificity specificity' strictness strictness' : Nat} {name name' : String}
  (same : ruleRank priority specificity strictness name =
    ruleRank priority' specificity' strictness' name') :
  strictness = strictness' ∧ name = name' := by
  have inner := congrArg
    (fun key : Int ×ₗ Nat ×ₗ Nat ×ₗ String => ofLex (ofLex (ofLex key).2).2) same
  exact ⟨congrArg Prod.fst inner, congrArg Prod.snd inner⟩

def unsetOr {α : Type} (field : Option α) (holds : α → Bool) : Bool :=
  match field with
  | none => true
  | some value => holds value

namespace PolicyRule

/-- `_matches`. -/
def matchesCall (rule : PolicyRule) (context : PolicyContext) : Bool :=
  unsetOr rule.tenantId (· = context.tenantId) &&
  unsetOr rule.agentName (· = context.agentName) &&
  unsetOr rule.tool (Text.fnmatch context.toolName) &&
  unsetOr rule.sandboxIsolation (· = context.sandboxIsolation) &&
  unsetOr rule.contextTrust (· = context.contextTrust) &&
  unsetOr rule.pathGlob (Text.fnmatch (pathOf context)) &&
  unsetOr rule.commandContains (contains (commandOf context))

/-- `_specificity`: the number of fields that are set. -/
def specificity (rule : PolicyRule) : Nat :=
  rule.tenantId.isSome.toNat + rule.agentName.isSome.toNat + rule.tool.isSome.toNat +
    rule.pathGlob.isSome.toNat + rule.commandContains.isSome.toNat +
    rule.sandboxIsolation.isSome.toNat + rule.contextTrust.isSome.toNat

def rank (rule : PolicyRule) : RuleRank :=
  ruleRank rule.priority rule.specificity (decisionPrecedence rule.decision) rule.name

theorem eq_of_rank_eq {first second : PolicyRule} (same : first.rank = second.rank) :
  first.decision = second.decision ∧ first.name = second.name := by
  obtain ⟨strictness, name⟩ := ruleRank_injective same
  exact ⟨decisionPrecedence_injective strictness, name⟩

end PolicyRule

structure PolicyEngine where
  rules : List PolicyRule

namespace PolicyEngine

def candidates (engine : PolicyEngine) (context : PolicyContext) : List PolicyRule :=
  engine.rules.filter fun rule => rule.matchesCall context

def evaluate (engine : PolicyEngine) (context : PolicyContext) : PolicyResult :=
  match (engine.candidates context).argmax PolicyRule.rank with
  | none => { decision := .deny, ruleName := "implicit-deny", reason := "no policy rule matched" }
  | some selected =>
    { decision := selected.decision, ruleName := selected.name
      reason := "matched policy rule " ++ selected.name }

structure Wins (engine : PolicyEngine) (context : PolicyContext) (rule : PolicyRule) : Prop where
  listed : rule ∈ engine.rules
  applies : rule.matchesCall context = true
  highest : ∀ other ∈ engine.rules, other.matchesCall context = true → other.rank ≤ rule.rank

variable {engine : PolicyEngine} {context : PolicyContext}

theorem evaluate_of_wins {rule : PolicyRule} (wins : engine.Wins context rule) :
  engine.evaluate context =
    { decision := rule.decision, ruleName := rule.name
      reason := "matched policy rule " ++ rule.name } := by
  have member : rule ∈ engine.candidates context := mem_filter.mpr ⟨wins.listed, wins.applies⟩
  unfold evaluate
  cases selectedAt : (engine.candidates context).argmax PolicyRule.rank with
  | none =>
    rw [argmax_eq_none.mp selectedAt] at member
    cases member
  | some selected =>
    obtain ⟨present, highest, _⟩ := argmax_eq_some_iff.mp selectedAt
    obtain ⟨listed, applies⟩ := mem_filter.mp present
    have same := le_antisymm (wins.highest selected listed applies) (highest rule member)
    obtain ⟨decision, name⟩ := PolicyRule.eq_of_rank_eq same
    simp [decision, name]

end PolicyEngine

def knowledgeSearchReadRules : List PolicyRule :=
  ["novel-search", "knowledge-search"].flatMap (fun serverName =>
    ["sag_search", "sag_explain_search", "sag_get_event", "sag_get_document",
      "sag_list_chunks"].map (fun toolName =>
      { name := serverName ++ "-" ++ toolName
        tool := some ("mcp__" ++ serverName ++ "__" ++ toolName), decision := .allow }))

def proposeMemoryTool : String := "mcp__harness-memory__propose_memory"

def untrustedMemoryDeny : PolicyRule where
  name := "untrusted-memory-deny"
  tool := some proposeMemoryTool
  contextTrust := some .untrusted
  decision := .deny
  priority := 100

def sensitiveMemoryReview : PolicyRule where
  name := "sensitive-memory-review"
  tool := some proposeMemoryTool
  contextTrust := some .sensitive
  decision := .ask
  priority := 100

def defaultPolicyRules : List PolicyRule :=
  [{ name := "tool-directory-search", tool := some "ToolSearch", decision := .allow },
    { name := "mcp-directory-search", tool := some "MCPSearch", decision := .allow },
    { name := "read", tool := some "Read", decision := .allow },
    { name := "glob", tool := some "Glob", decision := .allow },
    { name := "grep", tool := some "Grep", decision := .allow },
    { name := "delegate", tool := some "Task", decision := .allow },
    { name := "delegate-agent", tool := some "Agent", decision := .allow },
    untrustedMemoryDeny,
    sensitiveMemoryReview,
    { name := "harness-memory-update", tool := some proposeMemoryTool, decision := .allow },
    { name := "harness-artifact-publish", tool := some "mcp__harness-artifacts__publish_artifact",
      decision := .allow },
    { name := "tavily-search", tool := some "mcp__tavily__tavily_search", decision := .allow },
    { name := "tavily-extract", tool := some "mcp__tavily__tavily_extract",
      decision := .allow }] ++
  knowledgeSearchReadRules ++
  [{ name := "workspace-write", tool := some "Write", decision := .allow },
    { name := "workspace-edit", tool := some "Edit", decision := .allow },
    { name := "destructive-rm", tool := some "Bash", commandContains := some "rm ",
      sandboxIsolation := some .workspace, decision := .deny },
    { name := "bash-review", tool := some "Bash", decision := .ask }]

theorem untrustedMemoryDeny_wins {context : PolicyContext}
  (proposes : context.toolName = proposeMemoryTool) (untrusted : context.contextTrust = .untrusted) :
  PolicyEngine.Wins { rules := defaultPolicyRules } context untrustedMemoryDeny := by
  have matched : Text.fnmatch proposeMemoryTool proposeMemoryTool = true := by decide
  refine ⟨by decide, ?_, ?_⟩
  · simp [PolicyRule.matchesCall, untrustedMemoryDeny, unsetOr, proposes, untrusted, matched]
  intro other listed applies
  have ranked : ∀ rule ∈ defaultPolicyRules, rule = untrustedMemoryDeny ∨
    rule.contextTrust = some .sensitive ∨ rule.priority < 100 := by decide
  rcases ranked other listed with same | sensitive | lower
  · exact le_of_eq (congrArg PolicyRule.rank same)
  · simp only [PolicyRule.matchesCall, sensitive, unsetOr, untrusted] at applies
    simp at applies
  refine le_of_lt (Prod.Lex.toLex_lt_toLex.mpr (.inl ?_))
  exact lower

def trustPrecedence : ContextTrust → Nat
  | .safe => 0
  | .sensitive => 1
  | .untrusted => 2

def stricterTrust (left right : ContextTrust) : ContextTrust :=
  if trustPrecedence left ≥ trustPrecedence right then left else right

structure ToolResultPolicyRule where
  name : String
  trust : ContextTrust
  tool : String := "*"
  agentName : Option String := none
  priority : Int := 0

structure ToolResultPolicyResult where
  trust : ContextTrust
  (ruleName reason : String)

def ToolResultPolicyRule.rank (rule : ToolResultPolicyRule) : RuleRank :=
  ruleRank rule.priority (rule.agentName.isSome.toNat + (rule.tool ≠ "*" : Bool).toNat)
    (trustPrecedence rule.trust) rule.name

structure ResultPolicyEngine where
  rules : List ToolResultPolicyRule

def ResultPolicyEngine.evaluate (engine : ResultPolicyEngine) (toolName agentName : String) :
  ToolResultPolicyResult :=
  let candidates := engine.rules.filter (fun rule =>
    Text.fnmatch toolName rule.tool && unsetOr rule.agentName (· = agentName))
  match candidates.argmax ToolResultPolicyRule.rank with
  | none =>
    { trust := .safe, ruleName := "implicit-safe", reason := "no tool-result policy rule matched" }
  | some selected =>
    { trust := selected.trust, ruleName := selected.name
      reason := "matched tool-result policy rule " ++ selected.name }

end AgentHarness.Policy
