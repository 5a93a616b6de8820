import NodeUpdater.Safety

/-! # Upgrades of node images

Which pools an invocation upgrades, against the pools it calls outdated. -/

namespace NodeUpdater

open NodePoolController

/-! ## How many pools are upgraded at once -/

/-- The requests of one invocation. -/
def invokeRequests (config : Config) (namespaceName name : String) (start : World)
    (faults : List Fault) (orders : List (List Nat)) : List Request :=
  (invoke config namespaceName name start faults orders).log.map (·.request)

namespace Scenario

/-- A campaign over two system pools, `sys1` and `sys2`. -/
def system : SafeEvict :=
  ⟨"system", "default", ⟨[("busy", "true")], ["idle"], ["sys1", "sys2"], ["agents"], "sys1"⟩⟩

/-- A system pool: `DisableAutoScaling` leaves it alone, so it stays `Succeeded`. -/
def systemPool (name : String) : CloudPool :=
  ⟨⟨name, some { scaling "Succeeded" with mode := some "System" }⟩, some "v2"⟩

/-- Both system pools run an old image, no pod runs on them, and the temporary pool
is up. -/
def systemPools : World where
  safeEvicts := [system]
  pools := [systemPool "sys1", systemPool "sys2", pool "tmpsys1" "Succeeded" "v2"]
  nodes := [node "s1" "sys1" "v1", node "s2" "sys2" "v1", node "t1" "tmpsys1" "v2"]
  pods := []
  jobs := []
  configMaps := []
  devopsPools := []
  agents := []
  nodeNames_nodup := by decide
  podKeys_nodup := by decide

end Scenario

open Scenario

/-- One invocation submits the upgrade of both system pools. -/
theorem systemPools_upgrades_both :
    Request.upgradeNodeImageVersion "sys1" ∈ invokeRequests config "default" "system" systemPools [] [] ∧
      Request.upgradeNodeImageVersion "sys2" ∈
        invokeRequests config "default" "system" systemPools [] [] := by
  decide

/-! ## Upgraded against outdated -/

namespace NodePoolController

/-- No node of the pool carries the image label. -/
def Unlabelled (nodes : List Node) (poolName : String) : Prop :=
  ∀ node ∈ nodes, node.agentPool = some poolName → node.nodeImageVersion = none

theorem recordImage_unlabelled {nodePoolNames : List String} {versions : GoMap String}
    {poolName : String} (absent : poolName ∉ versions.keys) (node : Node)
    (unlabelled : node.agentPool = some poolName → node.nodeImageVersion = none) :
    poolName ∉ (recordImage nodePoolNames versions node).keys := by
  unfold recordImage
  split
  · exact absent
  · rename_i labelled
    split
    · split
      · exact absent
      · rename_i versioned
        split
        · exact absent
        · rw [GoMap.mem_keys_insert]
          rintro (rfl | present)
          · simp [unlabelled labelled] at versioned
          · exact absent present
    · exact absent

theorem nodeImageVersions_unlabelled (nodePoolNames : List String) {nodes : List Node}
    {poolName : String} (unlabelled : Unlabelled nodes poolName) :
    (nodeImageVersions nodePoolNames nodes).find? poolName = none := by
  suffices kept : ∀ versions : GoMap String, poolName ∉ versions.keys →
      poolName ∉ (nodes.foldl (recordImage nodePoolNames) versions).keys from
    GoMap.find?_eq_none.mpr (kept [] (by simp [GoMap.keys]))
  induction nodes with
  | nil => exact fun _ => id
  | cons node rest induction =>
      exact fun versions absent => induction
        (fun other member => unlabelled other (List.mem_cons_of_mem _ member)) _
        (recordImage_unlabelled absent node (unlabelled node (List.mem_cons_self _ _)))

theorem not_imageOutdated_of_unlabelled {world : World} {nodePoolNames : List String}
    {poolName : String} (unlabelled : Unlabelled world.nodes poolName) :
    ¬world.ImageOutdated nodePoolNames poolName := by
  rintro ⟨version, found, -⟩
  rw [nodeImageVersions_unlabelled nodePoolNames unlabelled] at found
  cases found

/-- With every call answered, `UpgradeNodeImageVersion` compares the latest image with
the empty text on a pool without labelled nodes, and submits the upgrade. -/
theorem upgradeNodeImageVersion_unlabelled (world : World) (orders : List (List Nat))
    (log : List Entry) (cloudPool : CloudPool)
    (found : world.poolNamed? cloudPool.agentPool.name = some cloudPool)
    (notUpgrading : cloudPool.agentPool.properties.bind (·.provisioningState) ≠
      some "UpgradingNodeImageVersion")
    (notUpdating : cloudPool.agentPool.properties.bind (·.provisioningState) ≠ some "Updating")
    (unlabelled : Unlabelled world.nodes cloudPool.agentPool.name) (latest : String)
    (released : cloudPool.latestNodeImageVersion = some latest) (named : latest ≠ "") :
    (finalSession (upgradeNodeImageVersion cloudPool.agentPool ⟨world, [], orders, log⟩)).log =
      log ++ [⟨world, .upgradeNodeImageVersion cloudPool.agentPool.name, true⟩] := by
  simp only [upgradeNodeImageVersion, notUpgrading, notUpdating]
  simp [bind, EStateM.bind, pure, EStateM.pure, getNodeImageVersions, Kube.listNodes,
    query_answered, getNodePoolUpgradeProfile, AgentPoolClient.getUpgradeProfile, found, released,
    nodeImageVersions_unlabelled _ unlabelled, Ne.symm named,
    AgentPoolClient.beginUpgradeNodeImageVersion, mutate_answered, finalSession]

theorem updateNeeded_unlabelled (nodePools : List String) (poolName : String) (session : Session)
    (unlabelled : Unlabelled session.world.nodes poolName) :
    match updateNeeded nodePools session with
    | .ok (.ok (_, outdatedNodePools)) _ => poolName ∉ outdatedNodePools.keys
    | _ => True := by
  have triple : Triple (fun world _ => Unlabelled world.nodes poolName) (updateNeeded nodePools) _
      (fun _ _ => True) := updateNeeded_triple nodePools
  have holds := triple session unlabelled
  revert holds
  rcases updateNeeded nodePools session with ⟨_ | ⟨nodes, pools⟩, _⟩ | _
  · exact fun _ => trivial
  · exact fun ⟨kept, outdated⟩ member =>
      not_imageOutdated_of_unlabelled kept (((outdated nodes pools rfl).1 poolName).mp member)
  · exact fun _ => trivial

end NodePoolController

open NodePoolController

/-- A pool none of whose nodes carries the image label, whose upgrade profile reports an
image, and which is neither `Updating` nor `UpgradingNodeImageVersion`:
`UpgradeNodeImageVersion` submits its upgrade on every pass where the calls are answered,
and `UpdateNeeded` on the same world never calls it outdated. -/
theorem upgraded_while_not_outdated (world : World) (cloudPool : CloudPool)
    (found : world.poolNamed? cloudPool.agentPool.name = some cloudPool)
    (notUpgrading : cloudPool.agentPool.properties.bind (·.provisioningState) ≠
      some "UpgradingNodeImageVersion")
    (notUpdating : cloudPool.agentPool.properties.bind (·.provisioningState) ≠ some "Updating")
    (unlabelled : Unlabelled world.nodes cloudPool.agentPool.name) (latest : String)
    (released : cloudPool.latestNodeImageVersion = some latest) (named : latest ≠ "")
    (nodePools : List String) (orders : List (List Nat)) :
    (finalSession (upgradeNodeImageVersion cloudPool.agentPool (Session.start world [] orders))).log =
        [⟨world, .upgradeNodeImageVersion cloudPool.agentPool.name, true⟩] ∧
      ∀ session : Session, session.world = world →
        match updateNeeded nodePools session with
        | .ok (.ok (_, outdatedNodePools)) _ => cloudPool.agentPool.name ∉ outdatedNodePools.keys
        | _ => True :=
  ⟨upgradeNodeImageVersion_unlabelled world orders [] cloudPool found notUpgrading notUpdating
      unlabelled latest released named,
    fun session same => updateNeeded_unlabelled nodePools _ session (same ▸ unlabelled)⟩

namespace Scenario

/-- A monitored pool scaled to zero: no node carries its image, and its upgrade
profile reports `v2`. -/
def scaledToZero : World where
  safeEvicts := []
  pools := [pool "pool0" "Succeeded" "v2"]
  nodes := []
  pods := []
  jobs := []
  configMaps := []
  devopsPools := []
  agents := []
  nodeNames_nodup := by decide
  podKeys_nodup := by decide

end Scenario

/-- The pool `pool0`, scaled to zero. -/
theorem scaledToZero_upgraded_not_outdated :
    scaledToZero.poolNamed? "pool0" = some (pool "pool0" "Succeeded" "v2") ∧
      (finalSession (upgradeNodeImageVersion (pool "pool0" "Succeeded" "v2").agentPool
          (Session.start scaledToZero [] []))).log =
        [⟨scaledToZero, .upgradeNodeImageVersion "pool0", true⟩] ∧
      ∀ session : Session, session.world = scaledToZero →
        match updateNeeded ["pool0"] session with
        | .ok (.ok (_, outdatedNodePools)) _ => "pool0" ∉ outdatedNodePools.keys
        | _ => True :=
  ⟨rfl, upgraded_while_not_outdated scaledToZero (pool "pool0" "Succeeded" "v2") rfl
    (by decide) (by decide) (fun _ member => absurd member (List.not_mem_nil _)) "v2" rfl
    (by decide) ["pool0"] []⟩

/-! ## A pool of mixed images

`getNodeImageVersions` keeps the image of the first labelled node of each pool. A pool
whose nodes run different images is then current or outdated depending on the order in
which the nodes are listed. -/

namespace Scenario

/-- `pool1` half upgraded and listed with its upgraded node first: `n1` runs the latest
image, `n2` the old one. -/
def currentFirst : World where
  safeEvicts := [campaign]
  pools := [pool "pool1" "Succeeded" "v2"]
  nodes := [node "n1" "pool1" "v2", node "n2" "pool1" "v1"]
  pods := []
  jobs := []
  configMaps := []
  devopsPools := []
  agents := []
  nodeNames_nodup := by decide
  podKeys_nodup := by decide

/-- The same cluster with its nodes listed the other way round. -/
def staleFirst : World :=
  { currentFirst with
    nodes := [node "n2" "pool1" "v1", node "n1" "pool1" "v2"]
    nodeNames_nodup := by decide }

end Scenario

/-- The two listings of one half-upgraded pool: with the upgraded node first, the pool is
current, and the invocation only deletes the absent record; with the old node first, it
is outdated, and the invocation creates the temporary pool to drain it. -/
theorem mixedImages_follow_node_order :
    staleFirst.nodes.Perm currentFirst.nodes ∧
      invokeRequests config "default" "campaign" currentFirst [] [] =
        [.deleteConfigMap "default" "tmpcampaign"] ∧
      invokeRequests config "default" "campaign" staleFirst [] [] =
        [.createOrUpdatePool "tmppool1" ⟨"", some (clonedProperties (scaling "Succeeded"))⟩] := by
  decide

end NodeUpdater
