import NodeUpdater.Safety

/-! # Convergence in the closed world

Every call answered, nothing released from outside, every submitted pool operation
completed between invocations: the scenario below revisits one world for ever. -/

namespace NodeUpdater

/-- `count` invocations of `namespaceName/name` in the closed world, each followed by
the completion of every pool operation it submitted. -/
def closedMoves (namespaceName name : String) : Nat → List Move
  | 0 => []
  | count + 1 =>
      .reconcile namespaceName name [] [] :: .change .complete :: closedMoves namespaceName name count

/-- One invocation in the closed world, and the completion after it. -/
def closedStep (config : Config) (namespaceName name : String) (world : World) : World :=
  (invoke config namespaceName name world [] []).world.complete

/-- The terminal condition of a campaign: no monitored pool stale, no temporary pool,
no scaling record. -/
def Quiescent (safeEvict : SafeEvict) (world : World) : Prop :=
  (∀ poolName, ¬Stale world safeEvict.spec poolName) ∧
    world.poolNamed? safeEvict.getTemporaryNodepoolName = none ∧
    ∀ configMap ∈ world.configMaps, configMap.namespaceName = safeEvict.namespaceName →
      configMap.name ≠ safeEvict.getConfigmapName

section ClosedRuns

variable (config : Config) (namespaceName name : String)

theorem run_closedMoves_succ (world : World) (count : Nat) :
    (run config world (closedMoves namespaceName name (count + 1))).1 =
      (run config (closedStep config namespaceName name world)
        (closedMoves namespaceName name count)).1 :=
  rfl

theorem run_closedMoves_of_fixed {world : World}
    (fixed : closedStep config namespaceName name world = world) (count : Nat) :
    (run config world (closedMoves namespaceName name count)).1 = world := by
  induction count with
  | zero => rfl
  | succ count induction => rw [run_closedMoves_succ, fixed, induction]

end ClosedRuns

theorem stale_of_images {world : World} {spec : SafeEvictSpec} {poolName version latest : String}
    (monitored : poolName ∈ spec.nodepools)
    (running : (NodePoolController.nodeImageVersions spec.nodepools world.nodes).find? poolName =
      some version)
    (released : world.latestImage? poolName = some latest) (behind : version ≠ latest) :
    Stale world spec poolName :=
  ⟨monitored, .inl ⟨version, running, latest, released, behind⟩⟩

theorem not_quiescent_of_stale {safeEvict : SafeEvict} {world : World} {poolName : String}
    (stale : Stale world safeEvict.spec poolName) : ¬Quiescent safeEvict world :=
  fun quiescent => quiescent.1 poolName stale

namespace Scenario

/-- A campaign that monitors `poolA` and clones its temporary pool from `poolB`. -/
def upgrade : SafeEvict :=
  ⟨"upgrade", "default", ⟨[("busy", "true")], ["idle"], ["poolA"], ["agents"], "poolB"⟩⟩

/-- `poolA` runs an old image; its base pool `poolB` is up to date. There is no
temporary pool and no record. -/
def closed : World where
  safeEvicts := [upgrade]
  pools := [pool "poolA" "Succeeded" "v2", pool "poolB" "Succeeded" "v2"]
  nodes := [node "a1" "poolA" "v1", node "b1" "poolB" "v2"]
  pods := []
  jobs := []
  configMaps := []
  devopsPools := []
  agents := []
  nodeNames_nodup := by decide
  podKeys_nodup := by decide

/-- The world of `closed` after two closed steps: the temporary pool is up, the record
written, `poolA` cordoned, and its autoscaling written off again by each invocation. -/
def cycling : World :=
  closedStep config "default" "upgrade" (closedStep config "default" "upgrade" closed)

end Scenario

open Scenario

/-- Each invocation from `cycling` rewrites the scaling of `poolA`, which leaves it
`Updating` when the upgrade loop reads it, so its upgrade is skipped; the completion
then brings back the same world. -/
theorem cycling_fixed : closedStep config "default" "upgrade" cycling = cycling := by
  ext1 <;> decide

theorem closed_stale (count : Nat) :
    Stale (run config closed (closedMoves "default" "upgrade" count)).1 upgrade.spec "poolA" := by
  match count with
  | 0 => exact stale_of_images (by decide) (by decide) (by decide) (by decide : "v1" ≠ "v2")
  | 1 => exact stale_of_images (by decide) (by decide) (by decide) (by decide : "v1" ≠ "v2")
  | count + 2 =>
      show Stale (run config cycling (closedMoves "default" "upgrade" count)).1 upgrade.spec "poolA"
      rw [run_closedMoves_of_fixed config "default" "upgrade" cycling_fixed]
      exact stale_of_images (by decide) (by decide) (by decide) (by decide : "v1" ≠ "v2")

/-- In the closed world, the campaign `upgrade` never reaches its terminal condition. -/
theorem closed_never_quiescent (count : Nat) :
    ¬Quiescent upgrade (run config closed (closedMoves "default" "upgrade" count)).1 :=
  not_quiescent_of_stale (closed_stale count)

end NodeUpdater
