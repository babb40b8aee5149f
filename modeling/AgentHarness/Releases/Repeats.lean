import AgentHarness.Releases.Reversals

/-!
Releases promoted, rolled back and promoted again.
-/

namespace AgentHarness.Releases

open Interaction ReleasePromotionClient
open Deployments

/-- After any history of calls: a promotion that returns has delivered its release when its keys
are known by no deployment that its environment has left behind; and one that raises after its
rollback has moved no route when its steps were reversible. -/
theorem promote_all_or_nothing (platform : ReleasePlatform)
  (history : List (ReleaseCall × List ReleaseInput)) (order : PromotionOrder)
  (inputs : List ReleaseInput) :
  let before := platform.afterCalls history
  let pool := callPool before (.promote order)
  let schedule := inputs.map fun input => ((), input)
  let reached := platform.perform before (.promote order) inputs
  (pool.Along platform.releaseComponent (fun server _ => Current platform server) schedule →
    ∀ plan, reached.thread () = .done plan → ∀ bundle ∈ order.manifest.agentBundles,
      Delivered platform reached.state order.environment bundle) ∧
  (pool.Along platform.releaseComponent (fun server _ => Reversible platform before server)
      schedule →
    ∀ error, reached.thread () = .raised error → error ≠ .rollbackIncomplete →
      Unmoved platform before reached.state) := by
  have sound := @sound_afterCalls platform history
  constructor
  · exact fun along plan returned => promote_delivers sound inputs along returned
  exact fun along error raises complete => promote_unmoved sound inputs along raises complete

section

def plainPolicy : EnvironmentResourcePolicy where
  executionProfileId := "isolated-default"
  executionProfileVersion := 1
  networkProfileId := "none"
  networkProfileVersion := 1
  networkAccess := []
  allowedModelRoutes := ["glm-5-2"]
  capabilityCatalogRevision := 1
  allowedMcpReferences := []
  allowedKnowledgeReferences := []

def plainReleases : ReleasePlatform where
  tenantId := "tenant-1"
  userId := "user-1"
  packages _ version := some ("manifest " ++ version, "package " ++ version)
  policy _ := plainPolicy
  generatedId kind count := kind ++ String.ofList (List.replicate count '+')

def letters (letter : Char) : String := String.ofList (List.replicate 64 letter)

def bundleOf (version : String) : AgentBundle where
  name := "helper"
  version
  manifestHash := "manifest " ++ version
  packageHash := "package " ++ version

def orderOf (manifest : ReleaseManifest) : PromotionOrder where
  manifest
  environment := .test
  executionProfile := "isolated-default"
  canaryPercent := Percent.full
  polls := 3

def firstRelease : PromotionOrder :=
  orderOf
    { releaseId := letters 'a', digest := by decide +kernel
      sandboxDigest := "sha256:a", agentBundles := [bundleOf "1"] }

def secondRelease : PromotionOrder :=
  orderOf
    { releaseId := letters 'b', digest := by decide +kernel
      sandboxDigest := "sha256:b", agentBundles := [bundleOf "2"] }

def calm : ReleaseInput where
  works := []

def applied (deploymentId : String) : ReleaseInput where
  works := [.apply deploymentId, .record deploymentId]

def promoted (deploymentId : String) : List ReleaseInput :=
  List.replicate 6 calm ++ [applied deploymentId]

def secondPlan : PromotionPlan where
  releaseId := letters 'b'
  environment := .test
  entries :=
    [{ agentName := "helper", environment := .test, previousSnapshotId := some "deployment_snapshot"
       targetSnapshotId := "deployment_snapshot+", deploymentId := "deployment+" }]

def takenBack : List (ReleaseCall × List ReleaseInput) :=
  [(.promote firstRelease, promoted "deployment"), (.promote secondRelease, promoted "deployment+"),
    (.rollback 3 secondPlan, List.replicate 3 calm ++ [applied "deployment++"])]

def pollLost : List ReleaseInput :=
  List.replicate 6 calm ++ [{ works := [.apply "deployment+"], lost := some (false, "timeout") }] ++
    List.replicate 3 calm ++ [applied "deployment++"]

theorem promote_all_or_nothing_here : (∀ bundle ∈ secondRelease.manifest.agentBundles,
  Delivered plainReleases
  (plainReleases.perform (plainReleases.afterCalls (takenBack.take 1))
  (.promote secondRelease) (promoted "deployment+")).state .test bundle) ∧
  Unmoved plainReleases (plainReleases.afterCalls (takenBack.take 1))
  (plainReleases.perform (plainReleases.afterCalls (takenBack.take 1))
  (.promote secondRelease) pollLost).state := by
  constructor
  · exact (promote_all_or_nothing plainReleases (takenBack.take 1) secondRelease
      (promoted "deployment+")).1 (by decide +kernel) _ rfl
  exact (promote_all_or_nothing plainReleases (takenBack.take 1) secondRelease pollLost).2
    (by decide +kernel) (.outage "timeout") rfl nofun

def newestVersion (server : ReleaseServer) (key : EnvironmentKey) : Option String := do
  let deploymentId ← server.newest.get? key
  let deployment ← server.deployments.get? deploymentId
  let target ← server.snapshots.get? deployment.targetSnapshotId
  return target.agentVersion

theorem Delivered.newestVersion {platform : ReleasePlatform} {server : ReleaseServer}
  {environment : EnvironmentName} {bundle : AgentBundle}
  (delivered : Delivered platform server environment bundle) :
  newestVersion server (platform.environmentKey bundle.name environment) = some bundle.version := by
  obtain ⟨deployment, target, newest, stored, _, found, _, _, version, _⟩ := delivered
  simp [Releases.newestVersion, newest, stored, found, version]

theorem repeated_release_not_delivered :
  let reached := plainReleases.perform (plainReleases.afterCalls takenBack)
    (.promote secondRelease) (List.replicate 7 calm)
  (∃ plan, reached.thread () = .done plan) ∧ ¬ ∀ bundle ∈ secondRelease.manifest.agentBundles,
      Delivered plainReleases reached.state secondRelease.environment bundle := by
  refine ⟨⟨_, rfl⟩, ?_⟩
  intro delivered
  have version := (delivered (bundleOf "2") List.mem_cons_self).newestVersion
  have first : newestVersion (plainReleases.perform (plainReleases.afterCalls takenBack)
    (.promote secondRelease) (List.replicate 7 calm)).state
      (plainReleases.environmentKey (bundleOf "2").name secondRelease.environment) =
    some "1" := by
    decide +kernel
  exact absurd version (by decide)

end

end AgentHarness.Releases
