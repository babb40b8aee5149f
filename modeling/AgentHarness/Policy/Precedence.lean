import AgentHarness.Policy.Rules

/-!
The outcome of a policy does not depend on how its rules are listed, and among the
matching rules of the highest priority and specificity the strictest one decides.
-/

namespace AgentHarness.Policy

open List Option

/-- A rule of a list that no rule of it precedes: none has a higher priority, none of
the same priority is more specific, none of these is stricter. -/
structure Strictest {α : Type} (priority : α → Int) (specificity strictness : α → Nat)
    (listed : List α) (chosen : α) : Prop where
  member : chosen ∈ listed
  highest : ∀ other ∈ listed, priority other ≤ priority chosen
  closest : ∀ other ∈ listed, priority other = priority chosen →
    specificity other ≤ specificity chosen
  strictest : ∀ other ∈ listed, priority other = priority chosen →
    specificity other = specificity chosen → strictness other ≤ strictness chosen

section

variable {α : Type} {priority : α → Int} {specificity strictness : α → Nat} {name : α → String}

theorem rank_le {first second : α}
  (below : ruleRank (priority first) (specificity first) (strictness first) (name first) ≤
    ruleRank (priority second) (specificity second) (strictness second) (name second)) :
  priority first ≤ priority second ∧
    (priority first = priority second → specificity first ≤ specificity second ∧
    (specificity first = specificity second → strictness first ≤ strictness second)) := by
  rcases Prod.Lex.toLex_le_toLex.mp below with lower | ⟨samePriority, below⟩
  · exact ⟨le_of_lt lower, fun same => absurd same (ne_of_lt lower)⟩
  refine ⟨le_of_eq samePriority, fun _ => ?_⟩
  rcases Prod.Lex.toLex_le_toLex.mp below with lower | ⟨sameSpecificity, below⟩
  · exact ⟨le_of_lt lower, fun same => absurd same (ne_of_lt lower)⟩
  refine ⟨le_of_eq sameSpecificity, fun _ => ?_⟩
  rcases Prod.Lex.toLex_le_toLex.mp below with lower | ⟨sameStrictness, _⟩
  · exact le_of_lt lower
  exact le_of_eq sameStrictness

theorem strictest_of_argmax {listed : List α} {chosen : α}
  (selected : chosen ∈ listed.argmax (fun rule =>
    ruleRank (priority rule) (specificity rule) (strictness rule) (name rule))) :
  Strictest priority specificity strictness listed chosen := by
  have below := fun other member => rank_le (le_of_mem_argmax (a := other) member selected)
  exact
    { member := argmax_mem selected, highest := fun other member => (below other member).1
      closest := fun other member same => ((below other member).2 same).1
      strictest := fun other member same specific =>
        ((below other member).2 same).2 specific }

theorem argmax_map_perm {κ : Type} [LinearOrder κ] (key : α → κ) {listed listed' : List α}
  (reordered : listed.Perm listed') :
  (listed.argmax key).map key = (listed'.argmax key).map key := by
  cases selectedAt : listed.argmax key with
  | none =>
    rw [argmax_eq_none.mp selectedAt] at reordered
    rw [reordered.nil_eq.symm]
    rfl
  | some selected =>
    cases selectedAt' : listed'.argmax key with
    | none =>
      rw [argmax_eq_none.mp selectedAt'] at reordered
      rw [reordered.eq_nil] at selectedAt
      cases selectedAt
    | some selected' =>
      have member := reordered.mem_iff.mp (argmax_mem selectedAt)
      have member' := reordered.mem_iff.mpr (argmax_mem selectedAt')
      exact congrArg some (le_antisymm (le_of_mem_argmax member selectedAt')
        (le_of_mem_argmax member' selectedAt))

end

namespace PolicyEngine

variable {context : PolicyContext} {rule : PolicyRule} {engine part : PolicyEngine}

theorem wins_or_none (engine : PolicyEngine) (context : PolicyContext) :
  (∃ rule, engine.Wins context rule) ∨ engine.candidates context = [] := by
  cases selectedAt : (engine.candidates context).argmax PolicyRule.rank with
  | none => exact .inr (argmax_eq_none.mp selectedAt)
  | some selected =>
    obtain ⟨listed, applies⟩ := mem_filter.mp (argmax_mem selectedAt)
    exact .inl ⟨selected, listed, applies, fun other member matched =>
      le_of_mem_argmax (mem_filter.mpr ⟨member, matched⟩) selectedAt⟩

theorem evaluate_part (wins : engine.Wins context rule) (within : part.rules ⊆ engine.rules)
  (listed : rule ∈ part.rules) : engine.evaluate context = part.evaluate context := by
  have own : part.Wins context rule :=
    ⟨listed, wins.applies, fun other member => wins.highest other (within member)⟩
  rw [evaluate_of_wins wins, evaluate_of_wins own]

theorem evaluate_perm {rules rules' : List PolicyRule} (context : PolicyContext)
  (reordered : rules.Perm rules') :
  PolicyEngine.evaluate { rules } context =
    PolicyEngine.evaluate { rules := rules' } context := by
  rcases wins_or_none { rules } context with ⟨rule, wins⟩ | nothing
  · exact evaluate_part wins reordered.symm.subset (reordered.subset wins.listed)
  have silent : candidates { rules := rules' } context = [] := by
    have same := reordered.filter fun rule => rule.matchesCall context
    unfold candidates at nothing ⊢
    rw [nothing] at same
    exact same.nil_eq.symm
  unfold evaluate
  rw [nothing, silent]

theorem evaluate_strictest (engine : PolicyEngine) (context : PolicyContext) :
  (engine.candidates context = [] ∧ (engine.evaluate context).decision = .deny) ∨
    ∃ chosen, Strictest PolicyRule.priority PolicyRule.specificity
    (fun rule => decisionPrecedence rule.decision) (engine.candidates context) chosen ∧
    (engine.evaluate context).decision = chosen.decision := by
  unfold evaluate
  cases selectedAt : (engine.candidates context).argmax PolicyRule.rank with
  | none => exact .inl ⟨argmax_eq_none.mp selectedAt, rfl⟩
  | some selected => exact .inr ⟨selected, strictest_of_argmax selectedAt, rfl⟩

/-- What two lists of rules decide together one of them decides alone, whatever their priorities;
so rules that deny never free a call that is denied. -/
theorem evaluate_composed (rules more : List PolicyRule) (context : PolicyContext) :
  let whole := evaluate { rules := rules ++ more } context
  (whole = evaluate { rules } context ∨ whole = evaluate { rules := more } context) ∧
    ((∀ rule ∈ more, rule.decision = .deny) → (evaluate { rules } context).decision = .deny →
      whole.decision = .deny) := by
  intro whole
  have one : whole = evaluate { rules } context ∨ whole = evaluate { rules := more } context := by
    rcases wins_or_none { rules := rules ++ more } context with ⟨rule, wins⟩ | nothing
    · rcases mem_append.mp wins.listed with listed | listed
      · exact .inl (evaluate_part wins (subset_append_left _ _) listed)
      exact .inr (evaluate_part wins (subset_append_right _ _) listed)
    have silent : candidates { rules } context = [] := by
      unfold candidates at nothing ⊢
      rw [filter_append] at nothing
      exact (append_eq_nil_iff.mp nothing).1
    refine .inl ?_
    change evaluate { rules := rules ++ more } context = _
    unfold evaluate
    rw [nothing, silent]
  refine ⟨one, fun denies denied => ?_⟩
  rcases one with same | same
  · rw [same, denied]
  rw [same]
  rcases wins_or_none { rules := more } context with ⟨rule, wins⟩ | nothing
  · rw [evaluate_of_wins wins]
    exact denies rule wins.listed
  unfold evaluate
  rw [nothing]
  rfl

end PolicyEngine

namespace ToolResultPolicyRule

def matchesResult (toolName agentName : String) (rule : ToolResultPolicyRule) : Bool :=
  Text.fnmatch toolName rule.tool && unsetOr rule.agentName (· = agentName)

def specificity (rule : ToolResultPolicyRule) : Nat :=
  rule.agentName.isSome.toNat + (rule.tool ≠ "*" : Bool).toNat

theorem eq_of_rank_eq {first second : ToolResultPolicyRule} (same : first.rank = second.rank) :
  first.trust = second.trust ∧ first.name = second.name := by
  obtain ⟨strictness, named⟩ := ruleRank_injective same
  refine ⟨?_, named⟩
  cases firstTrust : first.trust <;> cases secondTrust : second.trust <;>
    rw [firstTrust, secondTrust] at strictness <;> first | rfl | cases strictness

end ToolResultPolicyRule

namespace ResultPolicyEngine

theorem evaluate_eq (engine : ResultPolicyEngine) (toolName agentName : String) :
    engine.evaluate toolName agentName =
      match (engine.rules.filter (ToolResultPolicyRule.matchesResult toolName agentName)).argmax
          ToolResultPolicyRule.rank with
      | none =>
        { trust := .safe, ruleName := "implicit-safe"
          reason := "no tool-result policy rule matched" }
      | some selected =>
        { trust := selected.trust, ruleName := selected.name
          reason := "matched tool-result policy rule " ++ selected.name } :=
  rfl

theorem evaluate_perm {rules rules' : List ToolResultPolicyRule} (toolName agentName : String)
  (reordered : rules.Perm rules') :
  evaluate { rules } toolName agentName =
    evaluate { rules := rules' } toolName agentName := by
  have same := argmax_map_perm ToolResultPolicyRule.rank
    (reordered.filter (ToolResultPolicyRule.matchesResult toolName agentName))
  rw [evaluate_eq, evaluate_eq]
  revert same
  cases (rules.filter (ToolResultPolicyRule.matchesResult toolName agentName)).argmax
    ToolResultPolicyRule.rank with
  | none =>
    cases (rules'.filter (ToolResultPolicyRule.matchesResult toolName agentName)).argmax
      ToolResultPolicyRule.rank with
    | none => exact fun _ => rfl
    | some _ => exact fun same => nomatch same
  | some selected =>
    cases (rules'.filter (ToolResultPolicyRule.matchesResult toolName agentName)).argmax
      ToolResultPolicyRule.rank with
    | none => exact fun same => nomatch same
    | some selected' =>
      intro same
      obtain ⟨trust, named⟩ := ToolResultPolicyRule.eq_of_rank_eq (some.inj same)
      simp [trust, named]

theorem evaluate_strictest (engine : ResultPolicyEngine) (toolName agentName : String) :
  (engine.rules.filter (ToolResultPolicyRule.matchesResult toolName agentName) = [] ∧
    (engine.evaluate toolName agentName).trust = .safe) ∨
    ∃ chosen, Strictest ToolResultPolicyRule.priority ToolResultPolicyRule.specificity
    (fun rule => trustPrecedence rule.trust)
    (engine.rules.filter (ToolResultPolicyRule.matchesResult toolName agentName)) chosen ∧
    (engine.evaluate toolName agentName).trust = chosen.trust := by
  rw [evaluate_eq]
  cases selectedAt : (engine.rules.filter
    (ToolResultPolicyRule.matchesResult toolName agentName)).argmax
    ToolResultPolicyRule.rank with
  | none => exact .inl ⟨argmax_eq_none.mp selectedAt, rfl⟩
  | some selected => exact .inr ⟨selected, strictest_of_argmax selectedAt, rfl⟩

end ResultPolicyEngine

theorem engines_order_free (rules rules' : List PolicyRule)
  (resultRules resultRules' : List ToolResultPolicyRule) (context : PolicyContext)
  (toolName agentName : String) (reordered : rules.Perm rules')
  (resultsReordered : resultRules.Perm resultRules') :
  let engine : PolicyEngine := { rules := rules }
  let results : ResultPolicyEngine := { rules := resultRules }
  engine.evaluate context = PolicyEngine.evaluate { rules := rules' } context ∧
    results.evaluate toolName agentName =
      ResultPolicyEngine.evaluate { rules := resultRules' } toolName agentName ∧
    ((engine.candidates context = [] ∧ (engine.evaluate context).decision = .deny) ∨
      ∃ chosen, Strictest PolicyRule.priority PolicyRule.specificity
          (fun rule => decisionPrecedence rule.decision) (engine.candidates context) chosen ∧
        (engine.evaluate context).decision = chosen.decision) ∧
    ((resultRules.filter (ToolResultPolicyRule.matchesResult toolName agentName) = [] ∧
        (results.evaluate toolName agentName).trust = .safe) ∨
      ∃ chosen, Strictest ToolResultPolicyRule.priority ToolResultPolicyRule.specificity
          (fun rule => trustPrecedence rule.trust)
          (resultRules.filter (ToolResultPolicyRule.matchesResult toolName agentName)) chosen ∧
        (results.evaluate toolName agentName).trust = chosen.trust) :=
  ⟨PolicyEngine.evaluate_perm context reordered,
    ResultPolicyEngine.evaluate_perm toolName agentName resultsReordered,
    PolicyEngine.evaluate_strictest _ context,
    ResultPolicyEngine.evaluate_strictest _ toolName agentName⟩

def bashRule (decision : PolicyDecision) : PolicyRule where
  name := "bash"
  decision
  tool := some "Bash"

def bashResultRule (trust : ContextTrust) : ToolResultPolicyRule where
  name := "bash"
  trust
  tool := "Bash"

def bashCall : PolicyContext where
  tenantId := "tenant"
  agentName := "agent"
  toolName := "Bash"

theorem engines_order_free_bash :
  PolicyEngine.evaluate { rules := [bashRule .allow, bashRule .deny] } bashCall =
    PolicyEngine.evaluate { rules := [bashRule .deny, bashRule .allow] } bashCall ∧
    ResultPolicyEngine.evaluate { rules := [bashResultRule .safe, bashResultRule .untrusted] }
    "Bash" "agent" =
    ResultPolicyEngine.evaluate { rules := [bashResultRule .untrusted, bashResultRule .safe] }
    "Bash" "agent" :=
  have settled := engines_order_free [bashRule .allow, bashRule .deny]
    [bashRule .deny, bashRule .allow] [bashResultRule .safe, bashResultRule .untrusted]
    [bashResultRule .untrusted, bashResultRule .safe] bashCall "Bash" "agent"
    (List.Perm.swap _ _ _) (List.Perm.swap _ _ _)
  ⟨settled.1, settled.2.1⟩

end AgentHarness.Policy
