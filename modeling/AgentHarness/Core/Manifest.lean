import AgentHarness.Text.Json

/-!
The Agent Manifest after `model_validate`, and its canonical text.
-/

namespace AgentHarness.Core

open Option

open Text (Json NumberToken)

/-- `^[a-z][a-z0-9-]*$`. -/
def isKebab (text : String) : Bool :=
  match text.toList with
  | [] => false
  | head :: tail =>
    ('a' ≤ head && head ≤ 'z') &&
      tail.all fun char => ('a' ≤ char && char ≤ 'z') || char.isDigit || char == '-'

/-- A `dict[str, str]` in the order of its keys. -/
structure Labels where
  entries : List (String × String)
  sorted : (entries.map Prod.fst).Pairwise (· < ·)

theorem Labels.sorted_nil : (([] : List (String × String)).map Prod.fst).Pairwise (· < ·) :=
  List.Pairwise.nil

structure AgentMetadata where
  (name version : String)
  labels : Labels := ⟨[], Labels.sorted_nil⟩

structure ModelSpec where
  (route model : String)
  fallbackRoute : Option String := none
  fallbackModel : Option String := none
  requiredCapabilities : List String := []

structure PromptSpec where
  system : String

/-- `exactly_one_tool_source`: a tool declares one of three sources. -/
inductive ToolSpec
  | builtin (name : String)
  | python (entry : String)
  | mcp (reference : String)

inductive ToolExposureMode
  | eager
  | onDemand
  deriving DecidableEq

structure SubagentSpec where
  ref : String
  runtimeAlias : Option String := none
  description : Option String := none
  background : Bool := false

structure HookSpec where
  pythonEntry : String

structure PermissionSpec where
  policy : String

/-- The only mode there is, `isolated`, is not kept. -/
structure WorkspaceSpec where
  restoreSession : Bool := true
  archiveOnComplete : Bool := true

/-- A budget is a float, given by the shortest decimal that reads back as it. -/
structure LimitSpec where
  maxTurns : Option Nat := none
  timeoutSeconds : Option Nat := none
  maxBudgetUsd : Option NumberToken := none
  maxModelTokens : Option Nat := none
  maxSubagents : Nat := 8
  maxSubagentTasks : Nat := 16
  maxConcurrentSubagents : Nat := 4
  maxSubagentUsageUnits : Option Nat := none

structure AgentSpec where
  model : ModelSpec
  prompt : PromptSpec
  skills : List String := []
  tools : List ToolSpec := []
  toolExposureMode : ToolExposureMode := .eager
  knowledgeReferences : List String := []
  subagents : List SubagentSpec := []
  hooks : List HookSpec := []
  permissions : PermissionSpec
  workspace : WorkspaceSpec := {}
  limits : LimitSpec := {}

structure AgentManifest where
  metadata : AgentMetadata
  spec : AgentSpec

namespace ToolSpec

def builtin? : ToolSpec → Option String
  | .builtin name => some name
  | _ => none

def pythonEntry? : ToolSpec → Option String
  | .python entry => some entry
  | _ => none

def mcp? : ToolSpec → Option String
  | .mcp reference => some reference
  | _ => none

end ToolSpec

variable (subagent : SubagentSpec)

/-- `alias`, else what stands before the last `@` of the reference. -/
def SubagentSpec.runtimeName : String :=
  match subagent.runtimeAlias with
  | some name => name
  | none =>
    match subagent.ref.toList.reverse.dropWhile (· != '@') with
    | [] => subagent.ref
    | _ :: reversedName => String.ofList reversedName.reverse

def SubagentSpec.accepted : Bool :=
  subagent.ref != "" && subagent.runtimeAlias.all isKebab &&
    subagent.description.all fun text => 1 ≤ text.length && text.length ≤ 500

def LimitSpec.accepted (limits : LimitSpec) : Bool :=
  limits.maxTurns.all (1 ≤ ·) && limits.timeoutSeconds.all (1 ≤ ·) &&
    limits.maxModelTokens.all (1 ≤ ·) &&
    (1 ≤ limits.maxSubagents && limits.maxSubagents ≤ 32) &&
    (1 ≤ limits.maxSubagentTasks && limits.maxSubagentTasks ≤ 128) &&
    (1 ≤ limits.maxConcurrentSubagents && limits.maxConcurrentSubagents ≤ 16) &&
    limits.maxSubagentUsageUnits.all (0 < ·)

def AgentSpec.accepted (spec : AgentSpec) : Bool :=
  spec.model.route != "" && spec.model.model != "" && spec.prompt.system != "" &&
    spec.hooks.all (fun hook => hook.pythonEntry != "") && spec.permissions.policy != "" &&
    spec.subagents.all SubagentSpec.accepted && spec.limits.accepted &&
    decide (spec.subagents.map SubagentSpec.runtimeName).Nodup &&
    decide (spec.subagents.length ≤ spec.limits.maxSubagents) &&
    decide spec.knowledgeReferences.Nodup && spec.knowledgeReferences.all isKebab

/-- The checks of `AgentManifest.model_validate` that a value of the type does not carry itself. -/
def AgentManifest.accepted (manifest : AgentManifest) : Bool :=
  isKebab manifest.metadata.name && manifest.metadata.version != "" && manifest.spec.accepted

def dumpOptional {Value : Type} (dump : Value → Json) : Option Value → Json
  | none => .null
  | some value => dump value

def dumpNat (number : Nat) : Json := .number (.ofNat number)

def dumpStrings (texts : List String) : Json := .array (texts.map .string)

def Labels.dump (labels : Labels) : Json :=
  .object (labels.entries.map fun entry => (entry.1, .string entry.2))

def AgentMetadata.dump (metadata : AgentMetadata) : Json :=
  .object [("labels", metadata.labels.dump), ("name", .string metadata.name),
    ("version", .string metadata.version)]

def ModelSpec.dump (model : ModelSpec) : Json :=
  .object [("fallbackModel", dumpOptional .string model.fallbackModel),
    ("fallbackRoute", dumpOptional .string model.fallbackRoute), ("model", .string model.model),
    ("requiredCapabilities", dumpStrings model.requiredCapabilities),
    ("route", .string model.route)]

def ToolSpec.dump (tool : ToolSpec) : Json :=
  .object [("builtin", dumpOptional .string tool.builtin?),
    ("mcp", dumpOptional .string tool.mcp?), ("python", dumpOptional .string tool.pythonEntry?)]

def ToolExposureMode.value : ToolExposureMode → String
  | .eager => "eager"
  | .onDemand => "on_demand"

def SubagentSpec.dump : Json :=
  .object [("alias", dumpOptional .string subagent.runtimeAlias),
    ("background", .bool subagent.background),
    ("description", dumpOptional .string subagent.description), ("ref", .string subagent.ref)]

def HookSpec.dump (hook : HookSpec) : Json := .object [("python", .string hook.pythonEntry)]

def WorkspaceSpec.dump (workspace : WorkspaceSpec) : Json :=
  .object [("archiveOnComplete", .bool workspace.archiveOnComplete),
    ("mode", .string "isolated"), ("restoreSession", .bool workspace.restoreSession)]

def LimitSpec.dump (limits : LimitSpec) : Json :=
  .object [("maxBudgetUsd", dumpOptional .number limits.maxBudgetUsd),
    ("maxConcurrentSubagents", dumpNat limits.maxConcurrentSubagents),
    ("maxModelTokens", dumpOptional dumpNat limits.maxModelTokens),
    ("maxSubagentDepth", dumpNat 1),
    ("maxSubagentTasks", dumpNat limits.maxSubagentTasks),
    ("maxSubagentUsageUnits", dumpOptional dumpNat limits.maxSubagentUsageUnits),
    ("maxSubagents", dumpNat limits.maxSubagents),
    ("maxTurns", dumpOptional dumpNat limits.maxTurns),
    ("timeoutSeconds", dumpOptional dumpNat limits.timeoutSeconds)]

def AgentSpec.dump (spec : AgentSpec) : Json :=
  .object [("hooks", .array (spec.hooks.map HookSpec.dump)),
    ("knowledgeReferences", dumpStrings spec.knowledgeReferences),
    ("limits", spec.limits.dump), ("model", spec.model.dump),
    ("permissions", .object [("policy", .string spec.permissions.policy)]),
    ("prompt", .object [("system", .string spec.prompt.system)]),
    ("runtime", .string "claude-agent-sdk"), ("skills", dumpStrings spec.skills),
    ("subagents", .array (spec.subagents.map SubagentSpec.dump)),
    ("toolExposureMode", .string spec.toolExposureMode.value),
    ("tools", .array (spec.tools.map ToolSpec.dump)), ("workspace", spec.workspace.dump)]

/-- `model_dump(mode="json", by_alias=True)` with its keys sorted. -/
def AgentManifest.members (manifest : AgentManifest) : List (String × Json) :=
  [("apiVersion", .string "harness/v1alpha1"), ("kind", .string "Agent"),
    ("metadata", manifest.metadata.dump), ("spec", manifest.spec.dump)]

def AgentManifest.canonical (manifest : AgentManifest) : String :=
  (Json.object manifest.members).dumps

variable {Value : Type}

theorem dumpOptional_inj {dump : Value → Json}
  (injective : ∀ {value other}, dump value = dump other → value = other)
  (present : ∀ value, dump value ≠ .null) {value other : Option Value}
  (same : dumpOptional dump value = dumpOptional dump other) : value = other := by
  cases value with
  | none =>
    cases other with
    | none => rfl
    | some other => exact absurd same.symm (present other)
  | some value =>
    cases other with
    | none => exact absurd same (present value)
    | some other => exact congrArg some (injective same)

theorem dumpText_inj {text other : Option String}
  (same : dumpOptional .string text = dumpOptional .string other) : text = other :=
  dumpOptional_inj Json.string.inj (fun _ => nofun) same

theorem dumpNat_inj {number other : Nat} (same : dumpNat number = dumpNat other) : number = other :=
  NumberToken.ofNat_inj (Json.number.inj same)

theorem dumpNumber_inj {number other : Option Nat}
  (same : dumpOptional dumpNat number = dumpOptional dumpNat other) : number = other :=
  dumpOptional_inj dumpNat_inj (fun _ => nofun) same

theorem dumpArray_inj {dump : Value → Json}
  (injective : ∀ {value other}, dump value = dump other → value = other)
  {values others : List Value}
  (same : Json.array (values.map dump) = Json.array (others.map dump)) : values = others :=
  List.map_injective_iff.mpr (fun _ _ => injective) (Json.array.inj same)

theorem dumpStrings_inj {texts others : List String}
  (same : dumpStrings texts = dumpStrings others) : texts = others :=
  dumpArray_inj Json.string.inj same

theorem Labels.dump_inj {labels other : Labels} (same : labels.dump = other.dump) :
  labels = other := by
  have entries : labels.entries = other.entries := by
    apply List.map_injective_iff.mpr _ (Json.object.inj same)
    rintro ⟨key, value⟩ ⟨key', value'⟩ equal
    simpa only [Prod.mk.injEq, Json.string.injEq] using equal
  cases labels
  cases other
  cases entries
  rfl

theorem AgentMetadata.dump_inj {metadata other : AgentMetadata}
  (same : metadata.dump = other.dump) : metadata = other := by
  cases metadata
  cases other
  simp only [dump, Json.object.injEq, List.cons.injEq, Prod.mk.injEq, Json.string.injEq, true_and,
    and_true] at same
  obtain ⟨labels, name, version⟩ := same
  rw [Labels.dump_inj labels, name, version]

theorem ModelSpec.dump_inj {model other : ModelSpec} (same : model.dump = other.dump) :
  model = other := by
  cases model
  cases other
  simp only [dump, Json.object.injEq, List.cons.injEq, Prod.mk.injEq, Json.string.injEq, true_and,
    and_true] at same
  obtain ⟨fallbackModel, fallbackRoute, model, capabilities, route⟩ := same
  rw [dumpText_inj fallbackModel, dumpText_inj fallbackRoute, model, dumpStrings_inj capabilities,
    route]

theorem ToolSpec.dump_inj {tool other : ToolSpec} (same : tool.dump = other.dump) :
  tool = other := by
  simp only [dump, Json.object.injEq, List.cons.injEq, Prod.mk.injEq, true_and, and_true] at same
  obtain ⟨builtin, mcp, python⟩ := same
  have builtins := dumpText_inj builtin
  have mcps := dumpText_inj mcp
  have pythons := dumpText_inj python
  cases tool with
  | builtin name =>
    cases other with
    | builtin other => rw [some.inj builtins]
    | _ => cases builtins
  | python entry =>
    cases other with
    | python other => rw [some.inj pythons]
    | _ => cases pythons
  | mcp reference =>
    cases other with
    | mcp other => rw [some.inj mcps]
    | _ => cases mcps

theorem ToolExposureMode.value_inj {mode other : ToolExposureMode}
  (same : mode.value = other.value) : mode = other := by
  revert same
  cases mode <;> cases other <;> decide

theorem SubagentSpec.dump_inj {subagent other : SubagentSpec}
  (same : subagent.dump = other.dump) : subagent = other := by
  cases subagent
  cases other
  simp only [dump, Json.object.injEq, List.cons.injEq, Prod.mk.injEq, Json.string.injEq,
    Json.bool.injEq, true_and, and_true] at same
  obtain ⟨runtimeAlias, background, description, ref⟩ := same
  rw [dumpText_inj runtimeAlias, background, dumpText_inj description, ref]

theorem HookSpec.dump_inj {hook other : HookSpec} (same : hook.dump = other.dump) :
  hook = other := by
  cases hook
  cases other
  simpa only [dump, Json.object.injEq, List.cons.injEq, Prod.mk.injEq, Json.string.injEq, true_and,
    and_true, HookSpec.mk.injEq] using same

theorem WorkspaceSpec.dump_inj {workspace other : WorkspaceSpec}
  (same : workspace.dump = other.dump) : workspace = other := by
  cases workspace
  cases other
  simp only [dump, Json.object.injEq, List.cons.injEq, Prod.mk.injEq, Json.bool.injEq, true_and,
    and_true] at same
  obtain ⟨archive, restore⟩ := same
  rw [archive, restore]

theorem LimitSpec.dump_inj {limits other : LimitSpec} (same : limits.dump = other.dump) :
  limits = other := by
  cases limits
  cases other
  simp only [dump, Json.object.injEq, List.cons.injEq, Prod.mk.injEq, true_and, and_true] at same
  obtain ⟨budget, concurrent, tokens, tasks, units, subagents, turns, timeout⟩ := same
  rw [dumpOptional_inj Json.number.inj (fun _ => nofun) budget, dumpNat_inj concurrent,
    dumpNumber_inj tokens, dumpNat_inj tasks, dumpNumber_inj units, dumpNat_inj subagents,
    dumpNumber_inj turns, dumpNumber_inj timeout]

theorem AgentSpec.dump_inj {spec other : AgentSpec} (same : spec.dump = other.dump) :
  spec = other := by
  obtain ⟨model, ⟨prompt⟩, skills, tools, mode, knowledge, subagents, hooks, ⟨policy⟩, workspace,
    limits⟩ := spec
  obtain ⟨model', ⟨prompt'⟩, skills', tools', mode', knowledge', subagents', hooks', ⟨policy'⟩,
    workspace', limits'⟩ := other
  simp only [dump, Json.object.injEq, List.cons.injEq, Prod.mk.injEq, Json.string.injEq, true_and,
    and_true] at same
  obtain ⟨hooksEq, knowledgeEq, limitsEq, modelEq, policyEq, promptEq, skillsEq, subagentsEq,
    modeEq, toolsEq, workspaceEq⟩ := same
  rw [dumpArray_inj HookSpec.dump_inj hooksEq, dumpStrings_inj knowledgeEq,
    LimitSpec.dump_inj limitsEq, ModelSpec.dump_inj modelEq, policyEq, promptEq,
    dumpStrings_inj skillsEq, dumpArray_inj SubagentSpec.dump_inj subagentsEq,
    ToolExposureMode.value_inj modeEq, dumpArray_inj ToolSpec.dump_inj toolsEq,
    WorkspaceSpec.dump_inj workspaceEq]

variable {manifest other : AgentManifest}

theorem AgentManifest.members_inj (same : manifest.members = other.members) : manifest = other := by
  cases manifest
  cases other
  simp only [members, List.cons.injEq, Prod.mk.injEq, true_and, and_true] at same
  rw [AgentMetadata.dump_inj same.1, AgentSpec.dump_inj same.2]

theorem AgentManifest.canonical_inj {rest rest' : List Char}
  (same : manifest.canonical.toList ++ rest = other.canonical.toList ++ rest') :
  manifest = other ∧ rest = rest' := by
  simp only [canonical, Json.dumps, String.toList_ofList] at same
  obtain ⟨members, rest_eq⟩ := Json.render_object_inj same
  exact ⟨members_inj members, rest_eq⟩

end AgentHarness.Core
