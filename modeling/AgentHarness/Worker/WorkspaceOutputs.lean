import AgentHarness.Collections.Dict
import AgentHarness.Hashing.Sha256
import Mathlib.Data.List.Sort

/-!
The files of a workspace that a run publishes.
-/

namespace AgentHarness.Worker.WorkspaceOutputs

open Collections Hashing List

/-- The files and links below `outputs/`, the other files, those that the final response declares,
all by their paths, and what `read_runtime_artifact` reads without a limit. -/
structure Workspace where
  outputs : List String
  others : List String := []
  declared : List String := []
  read : String → Option (List UInt8)

structure Artifact where
  path : String
  source : String
  content : List UInt8

/-- What was uploaded, and what an `artifact.ready` was appended for. -/
structure Outputs where
  uploaded : List Artifact := []
  ready : List Artifact := []

inductive Fault
  | upload
  | append

/-- One publication; `announced` are the paths that the runtime has announced by itself. -/
structure Publication where
  workspace : Workspace
  fault : String → Option Fault := fun _ => none
  announced : List String := []

abbrev Fingerprints := List (String × String)

/-- Beyond its limits the scan of `outputs/` raises; the one of the other files leaves out what is
too large and ends. -/
def scan (strict : Bool) (limit : Nat) (read : String → Option (List UInt8)) :
    Nat → Nat → List String → Option Fingerprints
  | _, _, [] => some []
  | count, remaining, path :: rest =>
    if limit ≤ count ∨ strict = false ∧ remaining = 0 then if strict then none else some []
    else
      match read path with
      | none => none
      | some content =>
        if remaining < content.length then
          if strict then none else scan strict limit read count remaining rest
        else (scan strict limit read (count + 1) (remaining - content.length) rest).map
          ((path, sha256 content) :: ·)

/-- `_workspace_output_fingerprints`, unless it raises. -/
def fingerprints (maxBytes : Nat) (workspace : Workspace) : Option Fingerprints :=
  (scan true 100 workspace.read 0 maxBytes workspace.outputs).bind fun inside =>
    (scan false 1000 workspace.read inside.length maxBytes workspace.others).map (inside ++ ·)

def candidates (workspace : Workspace) : Dict String String :=
  workspace.declared.foldl (fun found path => found.set path "final-response")
    (workspace.outputs.foldl (fun found path => found.set path "workspace-output") Dict.empty)

def publishEach (publication : Publication) (baseline : Fingerprints) (published : List String) :
    Nat → Outputs → List (String × String) → Outputs
  | _, outputs, [] => outputs
  | remaining, outputs, (path, source) :: rest =>
    if path ∈ published then publishEach publication baseline published remaining outputs rest
    else
      match publication.workspace.read path with
      | none => outputs
      | some content =>
        if remaining < content.length then outputs
        else if baseline.lookup path = some (sha256 content) then
          publishEach publication baseline published remaining outputs rest
        else
          let uploaded := outputs.uploaded ++ [⟨path, source, content⟩]
          match publication.fault path with
          | some .upload => outputs
          | some .append => { outputs with uploaded }
          | none => publishEach publication baseline published (remaining - content.length)
              { uploaded, ready := outputs.ready ++ [⟨path, source, content⟩] } rest

def publishedPaths (outputs : Outputs) (publication : Publication) : List String :=
  outputs.ready.map (·.path) ++ publication.announced

/-- `_publish_workspace_outputs`. -/
def publish (maxBytes : Nat) (baseline : Fingerprints) (outputs : Outputs)
  (publication : Publication) : Outputs :=
  let items := (candidates publication.workspace).entries.insertionSort (·.1 ≤ ·.1)
  if 100 < items.length then outputs
  else publishEach publication baseline (publishedPaths outputs publication) maxBytes outputs items

def history (maxBytes : Nat) (start : Workspace) (publications : List Publication) : Outputs :=
  match fingerprints maxBytes start with
  | none => {}
  | some baseline => publications.foldl (publish maxBytes baseline) {}

structure Sends (baseline : Fingerprints) (published items : List String) (remaining : Nat)
    (before later : Outputs) (sent done : List Artifact) : Prop where
  uploaded : later.uploaded = before.uploaded ++ sent
  ready : later.ready = before.ready ++ done
  order : done <+: sent
  late : sent.length ≤ done.length + 1
  count : sent.length ≤ items.length
  bytes : (sent.map (·.content.length)).sum ≤ remaining
  distinct : (sent.map (·.path)).Nodup
  fresh : ∀ artifact ∈ sent, artifact.path ∈ items ∧ artifact.path ∉ published ∧
    baseline.lookup artifact.path ≠ some (sha256 artifact.content)

variable {publication : Publication} {baseline : Fingerprints} {published items : List String}
  {maxBytes remaining : Nat} {before later outputs : Outputs} {sent done : List Artifact}

theorem sends_nothing : Sends baseline published items remaining outputs outputs [] [] := by
  constructor <;> simp

variable {path : String}

theorem Sends.skip (sends : Sends baseline published items remaining before later sent done) :
  Sends baseline published (path :: items) remaining before later sent done :=
  { sends with
    count := Nat.le_succ_of_le sends.count
    fresh := fun artifact member => (sends.fresh artifact member).imp_left (mem_cons_of_mem _) }

theorem Sends.send (artifact : Artifact)
  (sends : Sends baseline published items (remaining - artifact.content.length)
    ⟨outputs.uploaded ++ [artifact], outputs.ready ++ [artifact]⟩ later sent done)
  (elsewhere : artifact.path ∉ items) (unpublished : artifact.path ∉ published)
  (fits : artifact.content.length ≤ remaining)
  (changed : baseline.lookup artifact.path ≠ some (sha256 artifact.content)) :
  Sends baseline published (artifact.path :: items) remaining outputs later (artifact :: sent)
    (artifact :: done) where
  uploaded := by simpa using sends.uploaded
  ready := by simpa using sends.ready
  order := cons_prefix_cons.mpr ⟨rfl, sends.order⟩
  late := Nat.succ_le_succ sends.late
  count := Nat.succ_le_succ sends.count
  bytes := by
    have := sends.bytes
    rw [map_cons, sum_cons]
    omega
  distinct := by
    refine nodup_cons.mpr ⟨fun again => ?_, sends.distinct⟩
    obtain ⟨other, member, same : other.path = artifact.path⟩ := mem_map.mp again
    exact elsewhere (same ▸ (sends.fresh other member).1)
  fresh := by
    refine forall_mem_cons.mpr ⟨⟨mem_cons_self, unpublished, changed⟩, ?_⟩
    exact fun other member => (sends.fresh other member).imp_left (mem_cons_of_mem _)

theorem publishEach_sends {items : List (String × String)}
  (distinct : (items.map Prod.fst).Nodup) : ∃ sent done,
    Sends baseline published (items.map Prod.fst) remaining outputs
      (publishEach publication baseline published remaining outputs items) sent done := by
  induction items generalizing remaining outputs with
  | nil => exact ⟨[], [], sends_nothing⟩
  | cons item items ih =>
    obtain ⟨path, source⟩ := item
    rw [map_cons, nodup_cons] at distinct
    have nothing : ∃ sent done, Sends baseline published (path :: items.map Prod.fst) remaining
      outputs outputs sent done := ⟨[], [], sends_nothing⟩
    rw [publishEach]
    split
    · obtain ⟨sent, done, sends⟩ := ih distinct.2
      exact ⟨sent, done, sends.skip⟩
    case isFalse unpublished =>
      cases publication.workspace.read path with
      | none => exact nothing
      | some content =>
        dsimp only
        split
        · exact nothing
        case isFalse fits =>
          split
          · obtain ⟨sent, done, sends⟩ := ih distinct.2
            exact ⟨sent, done, sends.skip⟩
          case isFalse changed =>
            cases publication.fault path with
            | some fault =>
              cases fault with
              | upload => exact nothing
              | append =>
                refine ⟨[⟨path, source, content⟩], [], ?_⟩
                constructor <;> simp_all
            | none =>
              obtain ⟨sent, done, sends⟩ := ih distinct.2
              exact ⟨_, _, sends.send ⟨path, source, content⟩ distinct.1 unpublished
                (Nat.le_of_not_lt fits) changed⟩

theorem publish_sends (outputs : Outputs) (publication : Publication) :
  ∃ items sent done, items.length ≤ 100 ∧
    Sends baseline (publishedPaths outputs publication) items maxBytes outputs
      (publish maxBytes baseline outputs publication) sent done := by
  have sorted := perm_insertionSort (fun a b : String × String => a.1 ≤ b.1)
    (candidates publication.workspace).entries
  unfold publish
  dsimp only
  split
  · exact ⟨[], [], [], Nat.zero_le _, sends_nothing⟩
  case isFalse few =>
    obtain ⟨sent, done, sends⟩ := publishEach_sends
      ((sorted.map Prod.fst).nodup_iff.mpr (candidates publication.workspace).distinct)
    exact ⟨_, sent, done, by simpa using few, sends⟩

structure Kept (baseline : Fingerprints) (outputs : Outputs) : Prop where
  distinct : (outputs.ready.map (·.path)).Nodup
  changed : ∀ artifact ∈ outputs.uploaded,
    baseline.lookup artifact.path ≠ some (sha256 artifact.content)

theorem kept_start : Kept baseline {} where
  distinct := nodup_nil
  changed _ member := nomatch member

theorem kept_publish (kept : Kept baseline outputs) (publication : Publication) :
  Kept baseline (publish maxBytes baseline outputs publication) := by
  obtain ⟨items, sent, done, _, sends⟩ := publish_sends outputs publication
  constructor
  · rw [sends.ready, map_append, nodup_append]
    refine ⟨kept.distinct, (sends.order.sublist.map _).nodup sends.distinct, ?_⟩
    rintro path old _ new rfl
    obtain ⟨artifact, member, same⟩ := mem_map.mp new
    have fresh := sends.fresh artifact (sends.order.subset member)
    exact fresh.2.1 (mem_append_left _ (same ▸ old))
  rw [sends.uploaded]
  intro artifact member
  obtain old | new := mem_append.mp member
  · exact kept.changed artifact old
  exact (sends.fresh artifact new).2.2

theorem kept_run (kept : Kept baseline outputs) (publications : List Publication) :
  Kept baseline (publications.foldl (publish maxBytes baseline) outputs) := by
  induction publications generalizing outputs with
  | nil => exact kept
  | cons publication publications ih => exact ih (kept_publish kept publication)

def halves : Publication where
  workspace := { outputs := ["outputs/a", "outputs/b"], read := fun _ => some [0x61, 0x62] }

end AgentHarness.Worker.WorkspaceOutputs
