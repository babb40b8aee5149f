import AgentHarness.Runtime.ContextTrust
import Mathlib.Data.List.Dedup

/-!
The files that a run is taken to have created itself, over all its tool calls.
-/

namespace AgentHarness.Runtime

open Collections Interaction Program Dict Function List GateState Pool

namespace SdkToolGate

def filesPool (gate : SdkToolGate) (context : RuntimeContext) (calls : Nat → PreToolUseHookInput)
  (files : FileSystem) : Pool GateOp GateOp.Answer GateError Nat GateState CallOutcome where
  state := { capabilities := { protectedFiles := context.workspace.protectedFiles files } }
  thread call := gate.toolCall context (calls call)

section

variable {gate : SdkToolGate} {context : RuntimeContext} {input : PreToolUseHookInput}

end

structure Fresh (context : RuntimeContext) (capabilities : RunFileCapabilities)
    (target : PurePath) : Prop where
  absent : capabilities.initialExists.get? target = some false
  unprotected : target ∉ capabilities.protectedFiles
  inside : ∃ name names, target.relativeTo? context.workspace.root = some (name :: names) ∧
    name ≠ "inputs"

section

variable {gate : SdkToolGate} {context : RuntimeContext} {calls : Nat → PreToolUseHookInput}

theorem names_inside {input : PreToolUseHookInput} {target : PurePath}
  (named : Names context input target) :
  ∃ name names, target.relativeTo? context.workspace.root = some (name :: names) := by
  obtain ⟨files, found⟩ := named
  unfold Workspace.target Workspace.normalize at found
  dsimp only at found
  split at found
  case h_2 => cases found
  split at found
  case isTrue => cases found
  case isFalse =>
    generalize files.resolve _ = resolved at found
    cases resolved with
    | none => cases found
    | some resolved =>
      dsimp only at found
      cases below : resolved.relativeTo? context.workspace.root with
      | none =>
        rw [below] at found
        cases found
      | some names =>
        rw [below] at found
        cases names with
        | nil => cases found
        | cons name names =>
          cases found
          exact ⟨name, names, below⟩

/-- The call uses `Write` on this file. -/
def Written (context : RuntimeContext) (calls : Nat → PreToolUseHookInput) (target : PurePath)
  (call : Nat) : Prop :=
  canonicalToolName (calls call).toolName = "Write" ∧ Names context (calls call) target

/-- What is recorded of a run whose calls `since` have succeeded. -/
structure Tracked (context : RuntimeContext) (calls : Nat → PreToolUseHookInput)
    (guarded : List PurePath) (since : Nat → Bool) (capabilities : RunFileCapabilities)
    (known : Nat → Bool) : Prop where
  guarded : capabilities.protectedFiles = guarded
  stays : ∀ call, since call = true → known call = true
  pending : ∀ toolUseId target, capabilities.pendingWrites.get? toolUseId = some target →
    Fresh context capabilities target ∧
      ∃ call, toolUseId = (calls call).toolUseId ∧ Written context calls target call
  generated : ∀ target ∈ capabilities.generated, Fresh context capabilities target ∧
      ∃ call, Written context calls target call ∧ known call = true

namespace Tracked

variable {guarded : List PurePath} {since known : Nat → Bool} {capabilities : RunFileCapabilities}

theorem change {learned : Nat → Bool} {later : RunFileCapabilities}
  (tracked : Tracked context calls guarded since capabilities known)
  (same : later.protectedFiles = capabilities.protectedFiles)
  (absent : ∀ target, capabilities.initialExists.get? target = some false →
    later.initialExists.get? target = some false)
  (stays : ∀ call, known call = true → learned call = true)
  (pending : ∀ toolUseId target, later.pendingWrites.get? toolUseId = some target →
    capabilities.pendingWrites.get? toolUseId = some target ∨ Fresh context capabilities target ∧
    ∃ call, toolUseId = (calls call).toolUseId ∧ Written context calls target call)
  (generated : ∀ target ∈ later.generated,
    target ∈ capabilities.generated ∨ Fresh context capabilities target ∧
    ∃ call, Written context calls target call ∧ learned call = true) :
  Tracked context calls guarded since later learned where
  guarded := same.trans tracked.guarded
  stays call before := stays call (tracked.stays call before)
  pending toolUseId target noted := by
    obtain ⟨fresh, call⟩ := (pending toolUseId target noted).elim
      (tracked.pending toolUseId target) id
    exact ⟨⟨absent _ fresh.absent, same ▸ fresh.unprotected, fresh.inside⟩, call⟩
  generated target listed := by
    obtain ⟨fresh, call⟩ := (generated target listed).elim (fun before =>
      (tracked.generated target before).imp_right fun ⟨caller, written, succeeded⟩ =>
        ⟨caller, written, stays caller succeeded⟩) id
    exact ⟨⟨absent _ fresh.absent, same ▸ fresh.unprotected, fresh.inside⟩, call⟩

theorem observe (tracked : Tracked context calls guarded since capabilities known)
  (target : PurePath) (found : Bool) :
  Tracked context calls guarded since (capabilities.observe target found) known := by
  refine tracked.change rfl (fun other absent => ?_) (fun _ => id)
    (fun _ _ noted => .inl noted) fun _ listed => .inl listed
  change (Dict.setDefault _ _ _).get? other = _
  unfold Dict.setDefault
  split
  case h_1 unseen =>
    refine (get?_set_other _ _ ?_).trans absent
    rintro rfl
    cases unseen.symm.trans absent
  case h_2 => exact absent

theorem noteAuthorizedWrite (tracked : Tracked context calls guarded since capabilities known)
  {call : Nat} {target : PurePath} (written : Written context calls target call) :
  Tracked context calls guarded since (capabilities.noteAuthorizedWrite context.workspace
    (calls call).toolUseId target) known := by
  unfold RunFileCapabilities.noteAuthorizedWrite
  dsimp only
  split
  case isTrue => exact tracked
  case isFalse free =>
    have fresh : Fresh context capabilities target := by
      obtain ⟨name, names, inside⟩ := names_inside written.2
      simp only [Bool.or_eq_true, not_or, Bool.not_eq_true, decide_eq_true_eq, inside,
        Option.bind_some, head?_cons, Option.some.injEq, contains_eq_mem] at free
      refine ⟨?_, free.2.1, name, names, inside, free.2.2⟩
      cases seen : capabilities.initialExists.get? target with
      | none => simp [seen] at free
      | some existed =>
        rw [seen] at free
        exact congrArg some free.1
    refine tracked.change rfl (fun _ => id) (fun _ => id)
      (fun toolUseId other noted => ?_) fun _ listed => .inl listed
    rw [get?_set] at noted
    split at noted
    case isFalse => exact .inl noted
    case isTrue same =>
      cases noted
      exact .inr ⟨fresh, call, same, written⟩

theorem noteFailure (tracked : Tracked context calls guarded since capabilities known)
  (toolUseId : String) :
  Tracked context calls guarded since (capabilities.noteFailure toolUseId) known :=
  tracked.change rfl (fun _ => id) (fun _ => id)
    (fun _ _ noted => .inl (get?_of_erase noted)) fun _ listed => .inl listed

theorem noteSuccess (distinct : Function.Injective fun call => (calls call).toolUseId)
  (tracked : Tracked context calls guarded since capabilities known) {call : Nat}
  (succeeded : known call = true) (toolName : String) :
  Tracked context calls guarded since
    (capabilities.noteSuccess (calls call).toolUseId toolName) known := by
  refine tracked.change rfl (fun _ => id) (fun _ => id)
    (fun _ _ noted => .inl (get?_of_erase noted)) fun target listed => ?_
  rcases mem_append.mp (mem_dedup.mp listed) with written | before
  · split at written
    case isFalse => cases written
    case isTrue =>
      -- the id of the call is its own, so that the write noted under it is too
      obtain ⟨fresh, caller, same, writes⟩ := tracked.pending _ _ (Option.mem_toList.mp written)
      cases distinct same
      exact .inr ⟨fresh, call, writes, succeeded⟩
  exact .inl before

theorem learn (tracked : Tracked context calls guarded since capabilities known) {call : Nat}
  (unknown : known call = false) (succeeds : Bool) :
  Tracked context calls guarded since capabilities (update known call succeeds) := by
  refine tracked.change rfl (fun _ => id) (fun other stays => ?_)
    (fun _ _ noted => .inl noted) fun _ listed => .inl listed
  rw [update_of_ne]
  · exact stays
  rintro rfl
  cases stays.symm.trans unknown

end Tracked

end

def writeReport (call : Nat) : PreToolUseHookInput :=
  { searchThenPropose call with
    toolName := "Write", toolInput := Dict.empty.set "file_path" (.text "report.py") }

def reported := (memoryGate.filesPool pythonContext writeReport plainFiles).run
    (component pythonContext) (List.replicate 9 (0, { files := plainFiles }))

end SdkToolGate

end AgentHarness.Runtime
