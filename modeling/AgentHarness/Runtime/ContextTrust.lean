import AgentHarness.Interaction.Pool
import AgentHarness.Runtime.ExplicitDeny

/-!
The trust in a run's context, over all the tool calls of the run.
-/

namespace AgentHarness.Runtime

open Collections Interaction Program Policy Quota Dict Function List Pool Option

structure CallOutcome where
  decision : Option PermissionDecision
  succeeded : Bool

namespace SdkToolGate

open GateOp

def traceToolSuccess (toolUseId : String) : GateProgram Unit := do
  match ← perform (.acceptResult toolUseId) (fun answer => answer) with
  | none => .done ()
  | some (previous, pending) =>
    append (.contextTrustChanged toolUseId pending.toolName previous pending.trust
      (if pending.policyRule = "tool-catalog" then none else some pending.policyRule))

variable (gate : SdkToolGate)

def releaseDelegation (context : RuntimeContext) (input : PreToolUseHookInput) : GateProgram Unit :=
  if gate.quotas ∧ isDelegation input.toolName then
    tell (.releaseQuota ("run:" ++ context.runId ++ ":subagent:" ++ input.toolUseId))
  else .done ()

def matchesWrite (toolName : String) : Bool :=
  toolName = "Write" || toolName = "mcp__" ++ serverName ++ "__write"

def swallowing (program : GateProgram Unit) : GateProgram Unit :=
  program.catching fun _ => .done ()

def postToolUse (context : RuntimeContext) (input : PreToolUseHookInput) : GateProgram Unit := do
  if matchesWrite input.toolName then
    tell (.noteSuccess input.toolUseId (canonicalToolName input.toolName))
  swallowing (gate.releaseDelegation context input)
  swallowing (traceToolSuccess input.toolUseId)

def postToolUseFailure (context : RuntimeContext) (input : PreToolUseHookInput) :
  GateProgram Unit := do
  if matchesWrite input.toolName then
    tell (.noteFailure input.toolUseId)
  swallowing (gate.releaseDelegation context input)
  tell (.dropPendingTrust input.toolUseId)

def executeTool (context : RuntimeContext) (input : PreToolUseHookInput)
  (decision : Option PermissionDecision) : GateProgram CallOutcome := do
  let succeeds ← perform .toolSucceeds fun answer => answer
  if succeeds then
    (gate.postToolUse context input).bind fun _ => .done { decision, succeeded := true }
  else
    (gate.postToolUseFailure context input).bind
      (fun _ => .done { decision, succeeded := false })

def toolCall (context : RuntimeContext) (input : PreToolUseHookInput) :
  GateProgram CallOutcome := do
  let decision ← ((gate.preToolUse context input).bind
    fun output => .done (some output.decision)).catching fun _ => .done none
  if decision = some .deny then return { decision, succeeded := false }
  else gate.executeTool context input decision

end SdkToolGate

structure GateState where
  trust : ContextTrust := .safe
  pendingTrust : Dict String PendingTrust := Dict.empty
  capabilities : RunFileCapabilities := {}

structure GateInput where
  files : FileSystem
  approvalId : String := ""
  approval : ApprovalStatus := .approved
  succeeds : Bool := true
  fails : Option GateError := none

namespace GateState

def accept (state : GateState) (toolUseId : String) :
  Option (ContextTrust × PendingTrust) × GateState :=
  let popped := { state with pendingTrust := state.pendingTrust.erase toolUseId }
  match state.pendingTrust.get? toolUseId with
  | none => (none, popped)
  | some pending =>
    if trustPrecedence state.trust < trustPrecedence pending.trust then
      (some (state.trust, pending), { popped with trust := pending.trust })
    else (none, popped)

variable (context : RuntimeContext)

def answer (input : GateInput) (state : GateState) :
    (op : GateOp) → Except GateError op.Answer × GateState
  | .fileSystem => (.ok input.files, state)
  | .capabilities => (.ok state.capabilities, state)
  | .contextTrust => (.ok state.trust, state)
  | .notePendingTrust toolUseId pending =>
    (.ok (), { state with pendingTrust := state.pendingTrust.set toolUseId pending })
  | .dropPendingTrust toolUseId =>
    (.ok (), { state with pendingTrust := state.pendingTrust.erase toolUseId })
  | .observe target found =>
    (.ok (), { state with capabilities := state.capabilities.observe target found })
  | .noteAuthorizedWrite toolUseId target =>
    (.ok (), { state with capabilities :=
      state.capabilities.noteAuthorizedWrite context.workspace toolUseId target })
  | .noteSuccess toolUseId toolName =>
    (.ok (), { state with capabilities := state.capabilities.noteSuccess toolUseId toolName })
  | .noteFailure toolUseId =>
    (.ok (), { state with capabilities := state.capabilities.noteFailure toolUseId })
  | .acceptResult toolUseId => (.ok (state.accept toolUseId).1, (state.accept toolUseId).2)
  | .toolSucceeds => (.ok input.succeeds, state)
  | .requestApproval _ => (.ok input.approvalId, state)
  | .waitForDecision _ => (.ok input.approval, state)
  | .appendEvent _ | .cancelPending _ _ | .consumeQuota _ _ | .reserveQuota _ _ _
  | .releaseQuota _ => (.ok (), state)

def leaves : GateOp → Bool
  | .appendEvent _ | .cancelPending _ _ | .consumeQuota _ _ | .reserveQuota _ _ _
  | .releaseQuota _ | .requestApproval _ | .waitForDecision _ => true
  | _ => false

def respond (_actor : Nat) (input : GateInput) (state : GateState) (op : GateOp) :
  Except GateError op.Answer × GateState :=
  match leaves op, input.fails with
  | true, some error => (.error error, state)
  | _, _ => state.answer context input op

def component : Component GateOp GateOp.Answer GateError Nat GateState GateInput where
  respond := respond context

end GateState

namespace SdkToolGate

def runPool (gate : SdkToolGate) (context : RuntimeContext) (calls : Nat → PreToolUseHookInput) :
  Pool GateOp GateOp.Answer GateError Nat GateState CallOutcome where
  state := {}
  thread call := gate.toolCall context (calls call)

inductive TrustKnown where
  | nothing
  | noted (pending : PendingTrust)
  | lowered (trust : ContextTrust)

def ownResult (toolUseId : String) : Contract GateOp GateOp.Answer GateError TrustKnown where
  allowed _ op :=
    match op with
    | .notePendingTrust other _ | .dropPendingTrust other | .acceptResult other => other = toolUseId
    | _ => True
  learns known op answer later :=
    match op, answer with
    | .notePendingTrust _ pending, .ok _ => later = .noted pending
    | .dropPendingTrust _, .ok _ => later = .nothing
    | .acceptResult _, .ok _ =>
      match known with
      | .noted pending => later = .lowered pending.trust
      | _ => later = .nothing
    | op, .error _ => GateState.leaves op = true ∧ later = known
    | _, .ok _ => later = known

def sparesTrust : GateOp → Bool
  | .notePendingTrust _ _ | .dropPendingTrust _ | .acceptResult _ => false
  | _ => true

def Names (context : RuntimeContext) (input : PreToolUseHookInput) (target : PurePath) : Prop :=
  ∃ files, context.workspace.target files input.toolInput = some target

def Preparatory (context : RuntimeContext) (input : PreToolUseHookInput) : GateOp → Prop
  | .notePendingTrust _ _ | .dropPendingTrust _ | .acceptResult _ | .toolSucceeds
  | .noteSuccess _ _ | .noteFailure _ => False
  | .noteAuthorizedWrite toolUseId target =>
    toolUseId = input.toolUseId ∧ canonicalToolName input.toolName = "Write" ∧
      Names context input target
  | _ => True

section

variable {Knowledge α β : Type} {contract : Contract GateOp GateOp.Answer GateError Knowledge}
  {post : α → Prop}

def Ignores (contract : Contract GateOp GateOp.Answer GateError Knowledge) (op : GateOp) : Prop :=
  ∀ known, contract.allowed known op ∧
    ∀ answer later, contract.learns known op answer later → later = known

def Calm (contract : Contract GateOp GateOp.Answer GateError Knowledge) (post : α → Prop)
  (program : GateProgram α) : Prop :=
  ∀ known, program.wp contract (fun later value => later = known ∧ post value)
    (fun later _ => later = known) known

theorem calm_done {value : α} (holds : post value) :
  Calm contract post (done value : GateProgram α) :=
  fun _ => ⟨rfl, holds⟩

theorem calm_raised (error : GateError) : Calm contract post (raised error : GateProgram α) :=
  fun _ => rfl

theorem calm_call {op : GateOp} (ignored : Ignores contract op) {read : op.Answer → α}
  (holds : ∀ answer, post (read answer)) : Calm contract post (perform op read) := by
  intro known
  rw [wp_perform]
  exact ⟨(ignored known).1, fun answer later learned => ⟨(ignored known).2 _ later learned,
    holds answer⟩, fun _ later learned => (ignored known).2 _ later learned⟩

theorem calm_bind {first : GateProgram α} {next : α → GateProgram β} {last : β → Prop}
  (head : Calm contract post first) (tail : ∀ value, post value → Calm contract last (next value)) :
  Calm contract last (first.bind next) := by
  intro known
  rw [wp_bind]
  refine wp_mono (head known) ?_ fun _ _ => id
  rintro later value ⟨rfl, holds⟩
  exact tail value holds later

theorem calm_catching {body : GateProgram α} {handler : GateError → GateProgram α}
  (tried : Calm contract post body) (handled : ∀ error, Calm contract post (handler error)) :
  Calm contract post (body.catching handler) := by
  intro known
  rw [wp_catching]
  refine wp_mono (tried known) (fun _ _ => id) ?_
  rintro later error rfl
  exact handled error later

theorem calm_each {items : List α} {action : α → GateProgram Unit}
  (round : ∀ item ∈ items, Calm contract (fun _ => True) (action item)) :
  Calm contract (fun _ => True) (each items action) := by
  induction items with
  | nil => exact calm_done trivial
  | cons item rest ih =>
    obtain ⟨first, others⟩ := forall_mem_cons.mp round
    exact calm_bind first fun _ _ => ih others

variable {gate : SdkToolGate} {context : RuntimeContext} {input : PreToolUseHookInput}
  (ignores : ∀ op, Preparatory context input op → Ignores contract op)

include ignores

theorem calm_ask {op : GateOp} (preparatory : Preparatory context input op)
  {read : op.Answer → α} : Calm contract (fun _ => True) (perform op read) :=
  calm_call (ignores op preparatory) fun _ => trivial

theorem calm_denied (toolCallId reason : String) :
  Calm contract (fun _ => True) (denied toolCallId reason) :=
  calm_bind (calm_ask ignores (by trivial)) fun _ _ => calm_done trivial

theorem calm_judgedArguments :
  Calm contract (fun updated => canonicalToolName input.toolName = "Write" → updated = none)
    (judgedArguments context (canonicalToolName input.toolName) input.toolInput) := by
  unfold judgedArguments
  split
  case isTrue reads =>
    refine calm_bind (calm_ask ignores (by trivial)) fun _ _ => calm_done fun writes => ?_
    exact absurd (reads.symm.trans writes) (by decide)
  · exact calm_done fun _ => rfl

theorem calm_observedTarget (toolName : String) (arguments : ToolArguments) :
  Calm contract (fun target => ∀ observed, target = some observed →
    ∃ files, context.workspace.target files arguments = some observed.1)
    (observedTarget context toolName arguments) := by
  unfold observedTarget
  split
  · refine calm_bind (calm_ask ignores (by trivial))
      (fun files _ => calm_done fun observed found => ⟨files, ?_⟩)
    obtain ⟨target, named, rfl⟩ := map_eq_some_iff.mp found
    exact named
  exact calm_done nofun

theorem calm_approved (toolCallId toolName : String) (result : PolicyResult) :
  Calm contract (fun _ => True) (approved toolCallId toolName result) := by
  refine calm_bind (calm_ask ignores (by trivial)) fun approvalId _ => ?_
  refine calm_bind (calm_catching (calm_ask ignores (by trivial))
    fun error => ?_) fun _ (_ : True) => calm_done trivial
  split
  · exact calm_bind (calm_ask ignores (by trivial))
      (fun _ (_ : True) => calm_raised error)
  exact calm_raised error

theorem calm_charge (rawToolName toolName toolCallId : String) :
  Calm contract (fun _ => True) (gate.charge context rawToolName toolName toolCallId) := by
  unfold charge
  split
  · refine calm_catching (calm_bind ?_ fun _ (_ : True) => calm_done trivial) (fun error => ?_)
    · unfold chargeCall
      split
      · exact calm_ask ignores (by trivial)
      split
      · exact calm_ask ignores (by trivial)
      exact calm_done trivial
    split
    · exact calm_done trivial
    exact calm_raised error
  exact calm_done trivial

theorem calm_finish {target : Option PurePath} (updated : Option ToolArguments)
  (result : PolicyResult) (named : canonicalToolName input.toolName = "Write" →
    ∀ written, target = some written → Names context input written) :
  Calm contract (fun _ => True)
    (gate.finish context input.toolName input.toolUseId target updated result) := by
  unfold finish
  simp only [bind_eq, pure_eq]
  have asked : ∀ {next : Bool → GateProgram HookOutput},
    (∀ granted, Calm contract (fun _ => True) (next granted)) → Calm contract (fun _ => True)
      (if result.decision = .ask then
        (approved input.toolUseId (canonicalToolName input.toolName) result).bind next
      else (done true).bind next) := by
    intro next rest
    split
    · exact calm_bind (calm_approved ignores _ _ _) fun granted _ => rest granted
    exact rest true
  have carryOut : ∀ {settle : Option QuotaResource → GateProgram HookOutput} {output},
    settle none = (GateOp.append (.toolAllowed input.toolUseId)).bind (fun _ => done output) →
    (∀ resource, settle (some resource) =
      denied input.toolUseId ("quota exceeded for " ++ resource.value)) →
    Calm contract (fun _ => True) ((gate.charge context input.toolName
      (canonicalToolName input.toolName) input.toolUseId).bind settle) := by
    intro settle output allowed exceeded
    refine calm_bind (calm_charge ignores _ _ _) fun refused _ => ?_
    cases refused with
    | none =>
      rw [allowed]
      exact calm_bind (calm_ask ignores (by trivial))
        (fun _ (_ : True) => calm_done trivial)
    | some resource =>
      rw [exceeded]
      exact calm_denied ignores _ _
  refine asked fun granted => ?_
  split
  · exact calm_done trivial
  split
  case isTrue writes =>
    refine calm_bind (calm_each fun written listed => ?_) fun _ _ => carryOut rfl fun _ => rfl
    have noted : Preparatory context input (.noteAuthorizedWrite input.toolUseId written) :=
      ⟨rfl, writes, named writes _ (mem_toList.mp listed)⟩
    exact calm_ask ignores noted
  · exact carryOut rfl fun _ => rfl

theorem calm_authorize (policyId : String) (policy : PolicyEngine) (trust : ContextTrust) :
  Calm contract (fun _ => True) (gate.authorize context input policyId policy trust) := by
  unfold authorize
  simp only [bind_eq]
  refine calm_bind (calm_judgedArguments ignores) fun updated unread => ?_
  refine calm_bind (calm_ask ignores (by trivial)) fun _ (_ : True) => ?_
  split
  · exact calm_denied ignores _ _
  refine calm_bind (calm_observedTarget ignores _ _) fun target found => ?_
  split
  · exact calm_denied ignores _ _
  refine calm_bind (calm_each fun _ _ => calm_ask ignores (by trivial)) fun _ _ => ?_
  refine calm_bind (calm_ask ignores (by trivial))
    (fun capabilities (_ : True) => ?_)
  split
  · exact calm_denied ignores _ _
  apply calm_finish ignores
  intro writes written same
  obtain ⟨observed, read, rfl⟩ := map_eq_some_iff.mp same
  rw [unread writes] at found
  exact found observed read

theorem calm_releaseDelegation :
  Calm contract (fun _ => True) (gate.releaseDelegation context input) := by
  unfold releaseDelegation
  split
  · exact calm_ask ignores (by trivial)
  exact calm_done trivial

end

section

variable {toolUseId : String} {α : Type}

def Neutral (toolUseId : String) (program : GateProgram α) : Prop :=
  ∀ known, program.wp (ownResult toolUseId) (fun later _ => later = known)
    (fun later _ => later = known) known

theorem neutral_call {op : GateOp} (spares : sparesTrust op = true) (read : op.Answer → α) :
  Neutral toolUseId (perform op read) := by
  intro known
  rw [wp_perform]
  cases op with
  | notePendingTrust | dropPendingTrust | acceptResult => cases spares
  | _ => exact ⟨trivial, fun _ _ => id, fun _ _ learned => learned.2⟩

variable {gate : SdkToolGate} {context : RuntimeContext} {input : PreToolUseHookInput}

theorem neutral_of_calm {program : GateProgram α}
  (calm : (∀ op, Preparatory context input op → Ignores (ownResult toolUseId) op) →
    Calm (ownResult toolUseId) (fun _ => True) program) : Neutral toolUseId program := by
  refine fun known => wp_mono (calm (fun op preparatory known => ?_) known)
    (fun _ _ same => same.1) fun _ _ => id
  cases op with
  | notePendingTrust | dropPendingTrust | acceptResult => cases preparatory
  | _ =>
    refine ⟨trivial, fun answer later learned => ?_⟩
    cases answer with
    | ok value => exact learned
    | error error => exact learned.2

theorem neutral_authorize (policyId : String) (policy : PolicyEngine) (trust : ContextTrust) :
  Neutral toolUseId (gate.authorize context input policyId policy trust) :=
  neutral_of_calm fun ignores => calm_authorize ignores policyId policy trust

theorem neutral_releaseDelegation :
  Neutral toolUseId (swallowing (gate.releaseDelegation context input)) :=
  neutral_of_calm fun ignores => calm_catching (calm_releaseDelegation ignores)
    (fun _ => calm_done trivial)

end

section

variable {gate : SdkToolGate} {context : RuntimeContext} {input : PreToolUseHookInput}

def expected (gate : SdkToolGate) (context : RuntimeContext) (input : PreToolUseHookInput) :
  TrustKnown :=
  if (gate.resultTrust context input).trust ≠ .safe then .noted (gate.resultTrust context input)
  else .nothing

def settledTrust (gate : SdkToolGate) (context : RuntimeContext)
  (input : PreToolUseHookInput) : TrustKnown :=
  if (gate.resultTrust context input).trust ≠ .safe then
    .lowered (gate.resultTrust context input).trust
  else .nothing

theorem preToolUse_noted : (gate.preToolUse context input).wp (ownResult input.toolUseId)
  (fun later output => output.decision ≠ .deny → later = gate.expected context input)
  (fun later _ => later = gate.expected context input) .nothing := by
  have judged : ∀ known, known = gate.expected context input →
    (GateOp.readContextTrust.bind (fun contextTrust =>
      (gate.authorize context input (gate.selectPolicy input).1 (gate.selectPolicy input).2
        contextTrust).bind (fun output =>
          if output.decision = .deny then
            (GateOp.tell (.dropPendingTrust input.toolUseId)).bind fun _ => done output
          else done output))).wp (ownResult input.toolUseId)
      (fun later output => output.decision ≠ .deny → later = gate.expected context input)
      (fun later _ => later = gate.expected context input) known := by
    rintro known same
    rw [wp_bind]
    refine wp_mono (neutral_call rfl _ known) ?_ fun _ _ kept => kept.trans same
    rintro later trust rfl
    rw [wp_bind]
    refine wp_mono (neutral_authorize _ _ trust later) ?_ fun _ _ kept => kept.trans same
    rintro now output rfl
    split
    · rename_i refused
      rw [wp_bind, wp_perform]
      exact ⟨rfl, fun _ _ _ admitted => absurd refused admitted,
        fun _ _ learned => absurd learned.1 Bool.noConfusion⟩
    exact fun _ => same
  unfold preToolUse
  dsimp only
  unfold expected at judged ⊢
  split
  · rename_i lowers
    rw [if_pos lowers] at judged
    simp only [bind_eq, pure_eq]
    rw [wp_bind, wp_perform]
    exact ⟨rfl, fun _ later learned => judged later learned,
      fun _ _ learned => absurd learned.1 Bool.noConfusion⟩
  rename_i safe
  rw [if_neg safe] at judged
  exact judged .nothing rfl

theorem traceToolSuccess_settles {known : TrustKnown} (same : known = gate.expected context input) :
  (swallowing (traceToolSuccess input.toolUseId)).wp (ownResult input.toolUseId)
    (fun later _ => later = gate.settledTrust context input) (fun _ _ => True) known := by
  have settles : ∀ later, (ownResult input.toolUseId).learns known
    (.acceptResult input.toolUseId) (.ok none) later → later = gate.settledTrust context input := by
    subst same
    intro later learned
    unfold expected at learned
    unfold settledTrust
    split at learned
    · rename_i lowers
      rw [if_pos lowers]
      exact learned
    rename_i safe
    rw [if_neg safe]
    exact learned
  rw [swallowing, wp_catching, traceToolSuccess, wp_do_perform]
  refine ⟨rfl, fun raised later learned => ?_, fun _ _ learned => absurd learned.1 Bool.noConfusion⟩
  have settled := settles later learned
  cases raised with
  | none => exact settled
  | some change =>
    rw [wp_perform]
    exact ⟨trivial, fun _ _ kept => kept.trans settled, fun _ _ kept => kept.2.trans settled⟩

theorem postToolUse_settles : (gate.postToolUse context input).wp (ownResult input.toolUseId)
    (fun later _ => later = gate.settledTrust context input) (fun _ _ => True)
    (gate.expected context input) := by
  have traced : ∀ known, known = gate.expected context input →
    ((swallowing (gate.releaseDelegation context input)).bind (fun _ =>
      swallowing (traceToolSuccess input.toolUseId))).wp (ownResult input.toolUseId)
      (fun later _ => later = gate.settledTrust context input) (fun _ _ => True) known := by
    rintro known rfl
    rw [wp_bind]
    refine wp_mono (neutral_releaseDelegation _) ?_ fun _ _ _ => trivial
    exact fun later _ kept => traceToolSuccess_settles kept
  unfold postToolUse
  split
  · rw [wp_do]
    refine wp_mono (neutral_call rfl _ _) ?_ fun _ _ _ => trivial
    exact fun later _ kept => traced later kept
  exact traced _ rfl

theorem postToolUseFailure_keeps (known : TrustKnown) :
  (gate.postToolUseFailure context input).wp (ownResult input.toolUseId)
    (fun _ _ => True) (fun _ _ => True) known := by
  have dropped : ∀ known, ((swallowing (gate.releaseDelegation context input)).bind (fun _ =>
      GateOp.tell (.dropPendingTrust input.toolUseId))).wp (ownResult input.toolUseId)
      (fun _ _ => True) (fun _ _ => True) known := by
    intro known
    rw [wp_bind]
    refine wp_mono (neutral_releaseDelegation known) ?_ fun _ _ _ => trivial
    intro later _ _
    rw [wp_perform]
    exact ⟨rfl, fun _ _ _ => trivial, fun _ _ _ => trivial⟩
  unfold postToolUseFailure
  split
  · rw [wp_do]
    refine wp_mono (neutral_call rfl _ known) ?_ fun _ _ _ => trivial
    exact fun later _ _ => dropped later
  exact dropped known

theorem toolCall_settles : (gate.toolCall context input).wp (ownResult input.toolUseId)
  (fun later outcome => outcome.succeeded = true → later = gate.settledTrust context input)
  (fun _ _ => True) .nothing := by
  have executed : ∀ known decision, known = gate.expected context input →
    (gate.executeTool context input decision).wp (ownResult input.toolUseId)
      (fun later outcome => outcome.succeeded = true → later = gate.settledTrust context input)
      (fun _ _ => True) known := by
    rintro known decision rfl
    rw [executeTool, wp_do]
    refine wp_mono (neutral_call rfl _ _) ?_ fun _ _ _ => trivial
    rintro later succeeds rfl
    split
    · rw [wp_bind]
      exact wp_mono postToolUse_settles (fun _ _ settled _ => settled) fun _ _ _ => trivial
    rw [wp_bind]
    exact wp_mono (postToolUseFailure_keeps _) nofun
      (fun _ _ _ => trivial)
  rw [toolCall, wp_do, wp_catching, wp_bind]
  refine wp_mono preToolUse_noted ?_ ?_
  · intro later output noted
    rw [wp_done]
    split
    · nofun
    rename_i admitted
    exact executed later _ (noted fun refused => admitted (congrArg some refused))
  intro later error noted
  exact executed later none noted

end

def TrustHeld (calls : Nat → PreToolUseHookInput) (state : GateState)
  (known : Nat → TrustKnown) : Prop :=
  ∀ call, match known call with
    | .nothing => True
    | .noted pending => state.pendingTrust.get? (calls call).toolUseId = some pending
    | .lowered trust => trustPrecedence trust ≤ trustPrecedence state.trust

section

variable {gate : SdkToolGate} {context : RuntimeContext} {calls : Nat → PreToolUseHookInput}

theorem accept_trust (state : GateState) (toolUseId : String) :
  trustPrecedence state.trust ≤ trustPrecedence (state.accept toolUseId).2.trust := by
  unfold GateState.accept
  split
  · exact Nat.le_refl _
  split
  · rename_i lowers
    exact Nat.le_of_lt lowers
  exact Nat.le_refl _

theorem accept_lowers {state : GateState} {toolUseId : String} {pending : PendingTrust}
  (noted : state.pendingTrust.get? toolUseId = some pending) :
  trustPrecedence pending.trust ≤ trustPrecedence (state.accept toolUseId).2.trust := by
  simp only [GateState.accept, noted]
  split
  · exact Nat.le_refl _
  rename_i keeps
  exact Nat.le_of_not_lt keeps

theorem accept_pending (state : GateState) {toolUseId other : String}
  (distinct : other ≠ toolUseId) :
  (state.accept toolUseId).2.pendingTrust.get? other = state.pendingTrust.get? other := by
  have erased : (state.pendingTrust.erase toolUseId).get? other =
    state.pendingTrust.get? other := by
    rw [get?_erase, if_neg distinct]
  unfold GateState.accept
  split
  · exact erased
  split
  · exact erased
  exact erased

theorem respond_trust (actor : Nat) (input : GateInput) (state : GateState) (op : GateOp) :
  trustPrecedence state.trust ≤
    trustPrecedence (GateState.respond context actor input state op).2.trust := by
  unfold GateState.respond
  split
  · exact Nat.le_refl _
  cases op with
  | acceptResult toolUseId => exact accept_trust state toolUseId
  | _ => exact Nat.le_refl _

theorem held_neutral (context : RuntimeContext) {state : GateState} {known : Nat → TrustKnown}
  (held : TrustHeld calls state known) {op : GateOp} (spares : sparesTrust op = true)
  (actor : Nat) (input : GateInput) :
  ∃ later, (ownResult (calls actor).toolUseId).learns (known actor) op
    (GateState.respond context actor input state op).1 later ∧
    TrustHeld calls (GateState.respond context actor input state op).2
    (update known actor later) := by
  refine ⟨known actor, ?_, ?_⟩
  · unfold GateState.respond
    split
    · rename_i outside _
      cases op with
      | notePendingTrust | dropPendingTrust | acceptResult => cases spares
      | _ => exact ⟨outside, rfl⟩
    cases op with
    | notePendingTrust | dropPendingTrust | acceptResult => cases spares
    | _ => exact rfl
  rw [update_eq_self]
  unfold GateState.respond
  split
  · exact held
  cases op with
  | notePendingTrust | dropPendingTrust | acceptResult => cases spares
  | _ => exact held

theorem adheres (distinct : Function.Injective fun call => (calls call).toolUseId) :
  Pool.Adheres (GateState.component context) (fun call => ownResult (calls call).toolUseId)
    (TrustHeld calls) (fun _ _ _ _ => True) := by
  intro state known actor op input held _ allowed
  have others : ∀ call, call ≠ actor → (calls call).toolUseId ≠ (calls actor).toolUseId :=
    fun call other same => other (distinct same)
  cases op with
  | notePendingTrust toolUseId pending =>
    cases allowed
    refine ⟨.noted pending, rfl, fun call => ?_⟩
    by_cases same : call = actor
    · subst call
      rw [update_self]
      exact get?_set_self _ _ _
    rw [update_of_ne same]
    have before := held call
    split
    · trivial
    · rename_i noted
      rw [noted] at before
      exact (get?_set_other _ _ (others call same)).trans before
    rename_i lowered
    rw [lowered] at before
    exact before
  | dropPendingTrust toolUseId =>
    cases allowed
    refine ⟨.nothing, rfl, fun call => ?_⟩
    by_cases same : call = actor
    · subst call
      rw [update_self]
      trivial
    rw [update_of_ne same]
    have before := held call
    split
    · trivial
    · rename_i noted
      rw [noted] at before
      refine (get?_erase _ _ _).trans ?_
      rw [if_neg (others call same)]
      exact before
    rename_i lowered
    rw [lowered] at before
    exact before
  | acceptResult toolUseId =>
    cases allowed
    refine ⟨match known actor with
      | .noted pending => .lowered pending.trust
      | _ => .nothing, ?_, fun call => ?_⟩
    · cases known actor with
      | noted pending | nothing | lowered trust => exact rfl
    by_cases same : call = actor
    · subst call
      rw [update_self]
      have before := held actor
      cases noted : known actor with
      | noted pending =>
        rw [noted] at before
        exact accept_lowers before
      | nothing | lowered trust => trivial
    rw [update_of_ne same]
    have before := held call
    split
    · trivial
    · rename_i noted
      rw [noted] at before
      exact (accept_pending state (others call same)).trans before
    rename_i lowered
    rw [lowered] at before
    exact Nat.le_trans before (accept_trust state _)
  | _ => exact held_neutral context held rfl actor input

theorem trust_never_rises (gate : SdkToolGate) (context : RuntimeContext)
  (calls : Nat → PreToolUseHookInput) (schedule : List (Nat × GateInput)) :
  ((gate.runPool context calls).visited (GateState.component context) schedule).IsChain
    (fun earlier later => trustPrecedence earlier.trust ≤ trustPrecedence later.trust) := by
  refine visited_chain_of_respond
    (fun state => Nat.le_refl (trustPrecedence state.trust)) ?_ _ schedule
  exact fun state actor op input => respond_trust actor input state op

theorem untrusted_of_precedence {trust : ContextTrust}
  (lowered : trustPrecedence .untrusted ≤ trustPrecedence trust) : trust = .untrusted := by
  cases trust with
  | safe | sensitive => exact absurd lowered (by decide)
  | untrusted => rfl

theorem untrusted_after_success (distinct : Function.Injective fun call => (calls call).toolUseId)
  (schedule : List (Nat × GateInput)) {call : Nat} {outcome : CallOutcome}
  (returned : ((gate.runPool context calls).run (GateState.component context) schedule).thread
    call = .done outcome)
  (succeeded : outcome.succeeded = true)
  (untrusted : (gate.resultTrust context (calls call)).trust = .untrusted) :
  ((gate.runPool context calls).run (GateState.component context) schedule).state.trust =
    .untrusted := by
  have ready : (gate.runPool context calls).Ready
    (fun call => ownResult (calls call).toolUseId) (TrustHeld calls)
    (fun call later outcome =>
      outcome.succeeded = true → later = gate.settledTrust context (calls call))
    (fun _ _ _ => True) (fun _ => .nothing) :=
    ⟨fun _ => trivial, fun call => toolCall_settles⟩
  obtain ⟨known, held, threads⟩ := run_ready (adheres distinct) ready schedule
    (along_of_forall (fun _ _ _ _ => trivial) _ schedule)
  have settled := threads call
  rw [returned] at settled
  have lowered := held call
  rw [settled succeeded, settledTrust, untrusted, if_pos (by decide)] at lowered
  exact untrusted_of_precedence lowered

end

section

variable {gate : SdkToolGate} {context : RuntimeContext} {input : PreToolUseHookInput}

def distrusting : Contract GateOp GateOp.Answer GateError Unit where
  allowed _ _ := True
  learns _ op answer _ :=
    match op, answer with
    | .contextTrust, answer => answer = .ok .untrusted
    | _, _ => True

theorem memory_denied (proposes : input.toolName = proposeMemoryTool) (policyId : String) :
  (gate.authorize context input policyId { rules := defaultPolicyRules } .untrusted).wp
    distrusting (fun _ output => output.decision = .deny) (fun _ _ => True) () := by
  have named : canonicalToolName input.toolName = proposeMemoryTool := by
    rw [proposes]
    decide
  have elsewhere : ∀ files, writeTarget context input files = none := by
    intro files
    rw [writeTarget, named]
    rfl
  have refused : ∀ capabilities, (gate.effectiveResult context input.toolName input.toolInput none
      capabilities (PolicyEngine.evaluate { rules := defaultPolicyRules }
        (callContext context (canonicalToolName input.toolName) input.toolInput
          .untrusted))).decision = .deny := by
    intro capabilities
    rw [PolicyEngine.evaluate_of_wins (untrustedMemoryDeny_wins named rfl), ← elsewhere plainFiles,
      effectiveResult_of_deny gate context input plainFiles capabilities _ _ rfl]
    have foreign : declaredPythonTool context (gate.declaredTrust.entries.map Prod.fst)
      input.toolName = false := by
      rw [declaredPythonTool, proposes]
      rfl
    have upheld : gate.overridden context input plainFiles capabilities
      untrustedMemoryDeny.name = false := by
      simp only [overridden, elsewhere, foreign, Option.any_none, Bool.false_or, Bool.or_false]
      rfl
    rw [upheld]
    rfl
  have unread : judgedArguments context (canonicalToolName input.toolName) input.toolInput =
    done none := by
    rw [judgedArguments, named, if_neg (by decide)]
  have unwritten : observedTarget context (canonicalToolName input.toolName) input.toolInput =
    done none := by
    rw [observedTarget, named, if_neg (by decide)]
  have harmless : (isWrite (canonicalToolName input.toolName)) = false := by
    rw [named]
    decide
  have denial : ∀ reason, (denied input.toolUseId reason).wp distrusting
    (fun _ output => output.decision = .deny) (fun _ _ => True) () := by
    intro reason
    simp only [denied, bind_eq, pure_eq, wp_bind, wp_perform, wp_done]
    exact ⟨trivial, fun _ _ _ => trivial, fun _ _ _ => trivial⟩
  unfold authorize
  simp only [bind_eq, unread, done_bind, Option.getD_none, wp_bind]
  rw [wp_perform]
  refine ⟨trivial, fun _ _ _ => ?_, fun _ _ _ => trivial⟩
  split
  · exact denial _
  rw [unwritten, done_bind, harmless]
  simp only [Bool.false_and, Bool.false_eq_true, ↓reduceIte, Option.toList_none, each, done_bind,
    Option.map_none, wp_bind]
  rw [wp_perform]
  refine ⟨trivial, fun capabilities _ _ => ?_, fun _ _ _ => trivial⟩
  rw [if_pos (refused capabilities)]
  exact denial _

theorem memory_not_allowed (proposes : input.toolName = proposeMemoryTool)
  (judgedBy : (gate.selectPolicy input).2 = { rules := defaultPolicyRules }) :
  (gate.toolCall context input).wp distrusting
    (fun _ outcome => outcome.decision ≠ some .allow) (fun _ _ => True) () := by
  have hooked : (gate.preToolUse context input).wp distrusting
    (fun _ output => output.decision = .deny) (fun _ _ => True) () := by
    have answered : (GateOp.readContextTrust.bind (fun contextTrust =>
        (gate.authorize context input (gate.selectPolicy input).1 (gate.selectPolicy input).2
          contextTrust).bind (fun output =>
            if output.decision = .deny then
              (GateOp.tell (.dropPendingTrust input.toolUseId)).bind fun _ => done output
            else done output))).wp distrusting
        (fun _ output => output.decision = .deny) (fun _ _ => True) () := by
      rw [wp_bind, wp_perform]
      refine ⟨trivial, fun trust _ learned => ?_, fun _ _ _ => trivial⟩
      cases learned
      rw [judgedBy, wp_bind]
      refine wp_mono (memory_denied proposes _) (fun _ output refused => ?_) fun _ _ _ => trivial
      rw [if_pos refused, wp_bind, wp_perform]
      exact ⟨trivial, fun _ _ _ => refused, fun _ _ _ => trivial⟩
    unfold preToolUse
    dsimp only
    split
    · rw [wp_do_perform]
      exact ⟨trivial, fun _ _ _ => answered, fun _ _ _ => trivial⟩
    exact answered
  have executed : (gate.executeTool context input none).wp distrusting
    (fun _ outcome => outcome.decision ≠ some .allow) (fun _ _ => True) () := by
    rw [executeTool, wp_do_perform]
    refine ⟨trivial, fun succeeds _ _ => ?_, fun _ _ _ => trivial⟩
    split
    · rw [wp_bind]
      exact wp_mono (wp_of_free (fun _ _ => trivial) _ ())
        nofun fun _ _ _ => trivial
    rw [wp_bind]
    exact wp_mono (wp_of_free (fun _ _ => trivial) _ ())
      nofun fun _ _ _ => trivial
  rw [toolCall, wp_do, wp_catching, wp_bind]
  refine wp_mono hooked ?_ fun _ _ _ => executed
  intro later output refused
  rw [wp_done, if_pos (congrArg some refused)]
  exact fun impossible => by cases refused.symm.trans (some.inj impossible)

end

/-- The trust recorded over a run never rises, and a memory proposed under the default rules
after an untrusted result has been accepted is not allowed, whoever obtained the result and
whoever proposes. -/
theorem untrusted_results_keep_out_memory (gate : SdkToolGate) (context : RuntimeContext)
  (calls : Nat → PreToolUseHookInput)
  (distinct : Function.Injective fun call => (calls call).toolUseId)
  (before after : List (Nat × GateInput)) :
  ((gate.runPool context calls).visited (GateState.component context) (before ++ after)).IsChain
    (fun earlier later => trustPrecedence earlier.trust ≤ trustPrecedence later.trust) ∧
    ∀ call outcome,
    ((gate.runPool context calls).run (GateState.component context) before).thread call =
    .done outcome →
    outcome.succeeded = true →
    (gate.resultTrust context (calls call)).trust = .untrusted →
    ∀ proposal answer,
    ((gate.runPool context calls).run (GateState.component context) before).thread
    proposal = (gate.runPool context calls).thread proposal →
    (calls proposal).toolName = proposeMemoryTool →
    (gate.selectPolicy (calls proposal)).2 = { rules := defaultPolicyRules } →
    ((gate.runPool context calls).run (GateState.component context)
    (before ++ after)).thread proposal = .done answer →
    answer.decision ≠ some .allow := by
  refine ⟨trust_never_rises gate context calls _, ?_⟩
  intro call outcome returned succeeded untrusted proposal answer waiting proposes judgedBy answered
  have distrusted := untrusted_after_success distinct before returned succeeded untrusted
  rw [run_append] at answered
  generalize (gate.runPool context calls).run (GateState.component context) before = reached
    at waiting distrusted answered
  have ready : reached.Ready (fun _ => distrusting) (fun state _ => state.trust = .untrusted)
    (fun actor _ outcome => actor = proposal → outcome.decision ≠ some .allow)
    (fun _ _ _ => True) (fun _ => ()) := by
    refine ⟨distrusted, fun actor => ?_⟩
    by_cases same : actor = proposal
    · subst actor
      rw [waiting]
      exact wp_mono (memory_not_allowed proposes judgedBy) (fun _ _ refused _ => refused)
        (fun _ _ _ => trivial)
    exact wp_mono (wp_of_free (fun _ _ => trivial) _ ())
      (fun _ _ _ equal => absurd equal same) fun _ _ _ => trivial
  have adheres : Pool.Adheres (GateState.component context) (fun _ => distrusting)
    (fun state (_ : Nat → Unit) => state.trust = .untrusted) (fun _ _ _ _ => True) := by
    intro state _ actor op input distrusted _ _
    refine ⟨(), ?_, ?_⟩
    · cases op with
      | contextTrust => exact congrArg Except.ok distrusted
      | _ => trivial
    have kept : trustPrecedence state.trust ≤ trustPrecedence
      (GateState.respond context actor input state op).2.trust :=
      respond_trust actor input state op
    rw [distrusted] at kept
    exact untrusted_of_precedence kept
  obtain ⟨_, _, threads⟩ := run_ready adheres ready after
    (along_of_forall (fun _ _ _ _ => trivial) _ after)
  have refused := threads proposal
  rw [answered] at refused
  exact refused rfl

def memoryGate : SdkToolGate where
  lowRiskBash := fun _ _ _ => false
  quotas := false
  policyId := "local-standard"
  policy := { rules := defaultPolicyRules }
  declaredTrust := Dict.empty.set "mcp__search__query" .untrusted

def searchThenPropose (call : Nat) : PreToolUseHookInput where
  toolName := if call = 0 then "mcp__search__query" else proposeMemoryTool
  toolUseId := String.ofList (List.replicate call 'c')
  toolInput := Dict.empty

theorem searchThenPropose_distinct :
  Function.Injective (fun call => (searchThenPropose call).toolUseId) := by
  intro left right same
  have lengths := congrArg (fun text => text.toList.length) same
  simpa only [searchThenPropose, String.toList_ofList, length_replicate] using lengths

def stepsOf (call : Nat) : List (Nat × GateInput) :=
  List.replicate 8 (call, { files := plainFiles })

def searchRun (steps : List (Nat × GateInput)) :=
  (memoryGate.runPool pythonContext searchThenPropose).run (GateState.component pythonContext) steps

theorem memory_kept_out_after_search :
  ∃ answer, (searchRun (stepsOf 0 ++ stepsOf 1)).thread 1 = .done answer ∧
    answer.decision ≠ some .allow := by
  have searched : (searchRun (stepsOf 0)).thread 0 =
      .done { decision := some .allow, succeeded := true } := rfl
  have proposed : (searchRun (stepsOf 0 ++ stepsOf 1)).thread 1 =
      .done { decision := some .deny, succeeded := false } := rfl
  refine ⟨_, proposed, ?_⟩
  exact (untrusted_results_keep_out_memory memoryGate pythonContext searchThenPropose
    searchThenPropose_distinct (stepsOf 0) (stepsOf 1)).2 0 _ searched rfl (by decide) 1 _ rfl rfl
    rfl proposed

end SdkToolGate

end AgentHarness.Runtime
