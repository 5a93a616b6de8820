import NodeUpdater.Quiescence
import NodeUpdater.Total

/-! # The phases of a campaign, with servers that answer

With every call answered, an invocation returns with the result and the writes its
phase prescribes: finished, creating the temporary pool, or waiting for it. -/

namespace NodeUpdater

open SafeEvictReconciler NodePoolController

/-! ## Reads that succeed -/

section Reads

variable {world : World} {log : List Entry}

theorem Kube.getSafeEvict_completes {namespaceName name : String} {safeEvict : SafeEvict}
    (found : world.safeEvictNamed? namespaceName name = some safeEvict) :
    Completes (At world log) (Kube.getSafeEvict namespaceName name) fun result world' log' =>
      result = .ok safeEvict ∧ At world log world' log' := by
  refine (query_completes _ _).weaken (fun _ _ => id) ?_
  rintro _ _ _ ⟨rfl, rfl, rfl⟩
  simp [found, At]

theorem getNodeImageVersions_completes (nodePoolNames : List String) :
    Completes (At world log) (getNodeImageVersions nodePoolNames) fun result world' log' =>
      result = .ok (nodeImageVersions nodePoolNames world.nodes) ∧ At world log world' log' :=
  query_bind _ _ (.pure' fun _ _ holds => ⟨rfl, holds⟩)

theorem getNodePoolUpgradeProfile_completes {nodePoolName latest : String}
    (released : world.latestImage? nodePoolName = some latest) :
    Completes (At world log) (getNodePoolUpgradeProfile nodePoolName) fun result world' log' =>
      result = .ok latest ∧ At world log world' log' := by
  refine query_bind _ _ ?_
  unfold World.latestImage? at released
  cases found : world.poolNamed? nodePoolName with
  | none => simp [found] at released
  | some cloudPool =>
      rw [found, Option.some_bind] at released
      simp only [found]
      rw [released]
      exact .pure' fun _ _ holds => ⟨rfl, holds⟩

theorem getNodesByNodePool_completes (nodePoolName : String) :
    Completes (At world log) (getNodesByNodePool nodePoolName) fun result world' log' =>
      result = .ok (world.nodes.filter (·.agentPool == some nodePoolName)) ∧
        At world log world' log' :=
  query_bind _ _ (.pure' fun _ _ holds => ⟨rfl, holds⟩)

theorem getNodePoolByName_completes {nodePoolName : String} {cloudPool : CloudPool}
    (found : world.poolNamed? nodePoolName = some cloudPool) :
    Completes (At world log) (getNodePoolByName nodePoolName) fun result world' log' =>
      result = .ok cloudPool.agentPool ∧ At world log world' log' := by
  refine query_bind _ _ ?_
  simp only [found]
  exact .pure' fun _ _ holds => ⟨rfl, holds⟩

theorem updateNeededLoop_completes (entries : GoMap String) (outdatedNodes : GoMap Node)
    (outdatedNodePools : GoMap AgentPool)
    (released : ∀ entry ∈ entries, ∃ latest, world.latestImage? entry.1 = some latest) :
    Completes (At world log) (updateNeededLoop entries outdatedNodes outdatedNodePools)
      fun result world' log' =>
        (∃ outdated, result = .ok outdated) ∧ At world log world' log' := by
  induction entries generalizing outdatedNodes outdatedNodePools with
  | nil => exact .pure' fun _ _ holds => ⟨⟨_, rfl⟩, holds⟩
  | cons entry rest induction =>
      obtain ⟨latest, found⟩ := released entry (List.mem_cons_self _ _)
      obtain ⟨cloudPool, named, -⟩ := Option.bind_eq_some.mp found
      have next := fun outdatedNodes outdatedNodePools => induction outdatedNodes outdatedNodePools
        fun other member => released other (List.mem_cons_of_mem _ member)
      exact (getNodePoolUpgradeProfile_completes found).bind_eq <|
        (getNodesByNodePool_completes _).bind_eq <|
          .ite (fun _ => (getNodePoolByName_completes named).bind_eq (next _ _)) fun _ => next _ _

theorem updateNeeded_completes {nodePoolNames : List String}
    (released : ∀ poolName ∈ nodePoolNames, ∃ latest,
      world.latestImage? poolName = some latest) :
    Completes (At world log) (updateNeeded nodePoolNames)
      fun result world' log' =>
        (∃ outdated, result = .ok outdated) ∧ At world log world' log' := by
  refine (getNodeImageVersions_completes _).bind_eq <| (nextOrder_completes _).bind fun order => ?_
  rintro _ orders _ ⟨permuted, holds⟩
  refine updateNeededLoop_completes _ _ _ (fun entry member => released _ ?_) _ orders _ holds
  exact (nodeImageVersions_wellFormed _ _).2 _ (List.mem_map_of_mem _ (permuted.subset member))

theorem getNotReadyNodePoolsLoop_completes (nodepools : List String)
    (notReadyNodePools : GoMap AgentPool)
    (present : ∀ poolName ∈ nodepools, ∃ cloudPool,
      world.poolNamed? poolName = some cloudPool) :
    Completes (At world log) (getNotReadyNodePoolsLoop nodepools notReadyNodePools)
      fun result world' log' =>
        (∃ notReady, result = .ok notReady) ∧ At world log world' log' := by
  induction nodepools generalizing notReadyNodePools with
  | nil => exact .pure' fun _ _ holds => ⟨⟨_, rfl⟩, holds⟩
  | cons nodepoolName rest induction =>
      obtain ⟨cloudPool, found⟩ := present nodepoolName (List.mem_cons_self _ _)
      have next := fun notReadyNodePools => induction notReadyNodePools
        fun other member => present other (List.mem_cons_of_mem _ member)
      refine (getNodePoolByName_completes found).bind_eq ?_
      dsimp only
      split
      · exact .ite (fun _ => next _) fun _ => next _
      · exact next _

theorem nodePoolExists_completes (nodePoolName : String) :
    Completes (At world log) (nodePoolExists nodePoolName) fun result world' log' =>
      result = .ok (world.poolNamed? nodePoolName).isSome ∧ At world log world' log' := by
  refine query_bind _ _ ?_
  cases world.poolNamed? nodePoolName <;> exact .pure' fun _ _ holds => ⟨rfl, holds⟩

theorem getNodePoolProvisioningState_completes {nodePoolName state : String}
    (provisioning : world.provisioningState? nodePoolName = some state) :
    Completes (At world log) (getNodePoolProvisioningState nodePoolName) fun result world' log' =>
      result = .ok state ∧ At world log world' log' := by
  refine query_bind _ _ ?_
  obtain ⟨cloudPool, found, reported⟩ := Option.bind_eq_some.mp provisioning
  simp only [found]
  rw [reported]
  exact .pure' fun _ _ holds => ⟨rfl, holds⟩

end Reads

/-! ## Writes on the way to a phase -/

section Writes

variable {world : World} {log : List Entry}

theorem ConfigMapController.deleteConfigMap_completes (namespaceName name : String) :
    Completes (At world log) (ConfigMapController.deleteConfigMap namespaceName name)
      fun result world' log' => result = .ok () ∧
        (∃ configMaps, world' = { world with configMaps := configMaps } ∧
          ∀ configMap ∈ configMaps, configMap.namespaceName = namespaceName →
            configMap.name ≠ name) ∧
        ∃ accepted, log' = log ++ [⟨world, .deleteConfigMap namespaceName name, accepted⟩] := by
  have deleted : Completes (At world log) (Kube.deleteConfigMap namespaceName name)
      fun result world' log' =>
        (result = .ok () ∨ result = .error (Kube.notFound "configmaps" name)) ∧
        (∃ configMaps, world' = { world with configMaps := configMaps } ∧
          ∀ configMap ∈ configMaps, configMap.namespaceName = namespaceName →
            configMap.name ≠ name) ∧
        ∃ accepted, log' = log ++ [⟨world, .deleteConfigMap namespaceName name, accepted⟩] := by
    refine mutate_completes _ _ _ ?_ ?_
    · rintro _ _ updated ⟨rfl, rfl⟩ served
      split at served
      · cases served
        exact ⟨.inl rfl, ⟨_, rfl, fun configMap member same named => by simp_all⟩, _, rfl⟩
      · cases served
    · rintro _ _ err ⟨rfl, rfl⟩ served
      split at served
      · cases served
      · rename_i absent
        cases served
        refine ⟨.inr rfl, ⟨_, rfl, fun configMap member same named => ?_⟩, _, rfl⟩
        exact absent (List.any_eq_true.mpr ⟨configMap, member, by simp [same, named]⟩)
  refine deleted.bind fun result => ?_
  rintro _ orders _ ⟨ok | notFound, frame, logged⟩
  · subst ok
    exact ⟨_, _, rfl, rfl, rfl, frame, logged⟩
  · subst notFound
    exact ⟨_, _, rfl, rfl, rfl, frame, logged⟩

theorem createTemporaryNodePool_completes {newNodePoolName sourceNodePoolName : String}
    {source : CloudPool} {properties : AgentPoolProperties}
    (found : world.poolNamed? sourceNodePoolName = some source)
    (described : source.agentPool.properties = some properties)
    (absent : world.poolNamed? newNodePoolName = none) :
    Completes (At world log) (createTemporaryNodePool newNodePoolName sourceNodePoolName)
      fun result world' log' => result = .ok () ∧
        world' = { world with pools := world.pools ++ [⟨⟨newNodePoolName,
          some { clonedProperties properties with provisioningState := some "Creating" }⟩, none⟩] } ∧
        log' = log ++ [⟨world, .createOrUpdatePool newNodePoolName
          ⟨"", some (clonedProperties properties)⟩, true⟩] := by
  refine query_bind _ _ ?_
  simp only [found, described]
  have created : Completes (At world log) (AgentPoolClient.beginCreateOrUpdate newNodePoolName
      ⟨"", some (clonedProperties properties)⟩) fun result world' log' => result = .ok () ∧
        world' = { world with pools := world.pools ++ [⟨⟨newNodePoolName,
          some { clonedProperties properties with provisioningState := some "Creating" }⟩, none⟩] } ∧
        log' = log ++ [⟨world, .createOrUpdatePool newNodePoolName
          ⟨"", some (clonedProperties properties)⟩, true⟩] := by
    refine mutate_completes _ _ _ ?_ ?_
    · rintro _ _ updated ⟨rfl, rfl⟩ served
      simp only [absent, Option.isSome_none] at served
      cases served
      exact ⟨rfl, rfl, rfl⟩
    · rintro _ _ err ⟨rfl, rfl⟩ served
      split at served <;> cases served
  exact created.bind_eq (.pure' fun _ _ holds => ⟨rfl, holds⟩)

theorem awaitTemporaryNodepool_creating {observed : Observation}
    (creating : world.provisioningState? observed.temporaryName = some "Creating") :
    Completes (At world log) (awaitTemporaryNodepool observed) fun result world' log' =>
      result = observed.progressing ∧ At world log world' log' :=
  (getNodePoolProvisioningState_completes creating).bind_eq <|
    .ite (fun _ => .pure' fun _ _ holds => ⟨rfl, holds⟩) fun other => absurd rfl other

end Writes

/-! ## The phases -/

/-- Every monitored pool exists and its upgrade profile names a latest image, so that the
reads at the start of `Reconcile` succeed. -/
def Released (world : World) (spec : SafeEvictSpec) : Prop :=
  ∀ poolName ∈ spec.nodepools, ∃ latest, world.latestImage? poolName = some latest

namespace Scenario

/-- `pool1` runs an old image and its temporary pool is being created. -/
def creating : World where
  safeEvicts := [campaign]
  pools := [pool "pool1" "Succeeded" "v2", pool "tmppool1" "Creating" "v2"]
  nodes := [node "n1" "pool1" "v1"]
  pods := []
  jobs := []
  configMaps := []
  devopsPools := []
  agents := []
  nodeNames_nodup := by decide
  podKeys_nodup := by decide

theorem released_pool1 {world : World} (latest : world.latestImage? "pool1" = some "v2") :
    Released world campaign.spec :=
  fun _ member => ⟨"v2", List.mem_singleton.mp member ▸ latest⟩

end Scenario

section Phases

variable (config : Config) {namespaceName name : String} {start : World} {safeEvict : SafeEvict}
  (found : start.safeEvictNamed? namespaceName name = some safeEvict)
  (released : Released start safeEvict.spec)

include found released

/-- The reads at the start of an invocation succeed, and it goes on to
`ensureTemporaryNodepool` with an observation of the start, which finds it up to date when
nothing is stale. -/
theorem reconcile_completes {post : ReconcileResult → Assertion}
    (continues : ∀ observed, Observed start safeEvict observed → observed.config = config →
      ((∀ poolName, ¬Stale start safeEvict.spec poolName) → observed.upToDate = true) →
        Completes (At start []) (ensureTemporaryNodepool observed) post) :
    Completes (At start []) (reconcile config namespaceName name) post := by
  have present : ∀ poolName ∈ safeEvict.spec.nodepools,
      ∃ cloudPool, start.poolNamed? poolName = some cloudPool := fun poolName member =>
    let ⟨_, released⟩ := released poolName member
    let ⟨cloudPool, named, _⟩ := Option.bind_eq_some.mp released
    ⟨cloudPool, named⟩
  refine (Kube.getSafeEvict_completes found).bind_eq <|
    (((updateNeeded_completes released).and_triple (updateNeeded_triple _)).and_triple
      (updateNeeded_nodes _)).bind fun result => .of_pre fun world log
        ⟨⟨⟨⟨outdated, answered⟩, atStart⟩, _, outdatedFacts⟩, _, nodesFacts⟩ => ?_
  obtain ⟨outdatedNodes, outdatedNodePools⟩ := outdated
  obtain ⟨rfl, rfl⟩ := atStart
  subst answered
  refine ((getNotReadyNodePoolsLoop_completes _ [] present).and_triple
    (getNotReadyNodePoolsLoop_triple _ _)).bind fun result => .of_pre fun world log
      ⟨⟨⟨notReady, answered⟩, atStart⟩, _, notReadyFacts⟩ => ?_
  obtain ⟨rfl, rfl⟩ := atStart
  subst answered
  refine (nextOrder_completes _).bind fun order =>
    .of_pre fun world log ⟨permuted, atStart⟩ => ?_
  obtain ⟨rfl, rfl⟩ := atStart
  have facts : Observed _ safeEvict
      ⟨config, namespaceName, safeEvict, outdatedNodes, outdatedNodePools.insertAll order⟩ :=
    observed_of_reads found (outdatedFacts _ _ rfl) (notReadyFacts _ rfl) permuted
  refine continues _ facts rfl fun nothingStale => ?_
  have noPool : outdatedNodePools.insertAll order = [] := GoMap.eq_nil_of_keys fun key member =>
    nothingStale key ((facts.stale key).mp member)
  have noOutdated : outdatedNodePools = [] := GoMap.eq_nil_of_keys fun key member =>
    nothingStale key ((facts.stale key).mp ((GoMap.mem_keys_insertAll _ _ _).mpr (.inl member)))
  have noNode : outdatedNodes = [] := nodesFacts _ (by rw [noOutdated])
  simp [Observation.upToDate, noNode, noPool]

/-- Nothing is stale and there is no temporary pool: the invocation deletes the record,
returns the long delay, and leaves the campaign quiescent. -/
theorem reconcile_comes_to_rest (nothingStale : ∀ poolName, ¬Stale start safeEvict.spec poolName)
    (noSurge : start.poolNamed? safeEvict.getTemporaryNodepoolName = none) :
    Completes (At start []) (reconcile config namespaceName name) fun result world log =>
      result = ⟨config.upgradeFrequency, none⟩ ∧ Quiescent safeEvict world ∧
        log.map Entry.request = [.deleteConfigMap safeEvict.namespaceName safeEvict.getConfigmapName] := by
  refine reconcile_completes config found released fun observed facts configured upToDate => ?_
  have absent : start.poolNamed? observed.temporaryName = none := facts.temporaryName ▸ noSurge
  refine (nodePoolExists_completes _).bind_eq ?_
  simp only [absent, Option.isSome_none, upToDate nothingStale, if_true]
  refine (ConfigMapController.deleteConfigMap_completes _ _).bind fun result => ?_
  rintro _ orders _ ⟨rfl, ⟨configMaps, rfl, noRecord⟩, accepted, rfl⟩
  refine ⟨_, _, rfl, rfl, by rw [configured],
    ⟨nothingStale, noSurge, fun configMap member same => ?_⟩, ?_⟩
  · rw [← facts.sameNamespace] at same
    exact facts.configmapName ▸ noRecord configMap member same
  · simp [facts.sameNamespace, facts.configmapName]

omit found released in
open Scenario in
/-- On `settled` the invocation comes to rest. -/
theorem settled_comes_to_rest :
    ∃ after, reconcile Scenario.config "default" "campaign" (Session.start settled [] []) =
      .ok ⟨Scenario.config.upgradeFrequency, none⟩ after ∧ Quiescent campaign after.world := by
  have nothingStale : ∀ poolName, ¬Stale settled campaign.spec poolName := by
    rintro poolName ⟨monitored, stale⟩
    cases List.mem_singleton.mp monitored
    rcases stale with
      ⟨version, running, latest, released, behind⟩ | ⟨state, reported, notSucceeded⟩
    · cases running
      cases released
      exact behind rfl
    · cases reported
      exact notSucceeded rfl
  obtain ⟨_, after, ran, -, rfl, quiescent, -⟩ := reconcile_comes_to_rest Scenario.config
    (by decide : settled.safeEvictNamed? "default" "campaign" = some campaign)
    (released_pool1 rfl) nothingStale (by decide) settled [] [] ⟨rfl, rfl⟩
  exact ⟨after, ran, quiescent⟩

/-- Some monitored pool is stale and there is no temporary pool: the invocation clones the
base pool into the temporary pool, its only write, and returns the short delay while the
control plane creates it. -/
theorem reconcile_clones_base_pool {poolName : String} (stale : Stale start safeEvict.spec poolName)
    (noSurge : start.poolNamed? safeEvict.getTemporaryNodepoolName = none) {base : CloudPool}
    {properties : AgentPoolProperties}
    (baseFound : start.poolNamed? safeEvict.spec.baseForBackupPool = some base)
    (described : base.agentPool.properties = some properties) :
    Completes (At start []) (reconcile config namespaceName name) fun result world log =>
      result = ⟨config.successReconcileTime, none⟩ ∧
        world = { start with pools := start.pools ++ [⟨⟨safeEvict.getTemporaryNodepoolName,
          some { clonedProperties properties with provisioningState := some "Creating" }⟩, none⟩] } ∧
        log.map Entry.request = [.createOrUpdatePool safeEvict.getTemporaryNodepoolName
          ⟨"", some (clonedProperties properties)⟩] := by
  refine reconcile_completes config found released fun observed facts configured _ => ?_
  have absent : start.poolNamed? observed.temporaryName = none := facts.temporaryName ▸ noSurge
  refine (nodePoolExists_completes _).bind_eq ?_
  simp only [absent, Option.isSome_none]
  refine .ite (fun upToDate => absurd stale (facts.upToDate upToDate poolName)) fun _ => ?_
  have baseFound' : start.poolNamed? observed.safeEvict.spec.baseForBackupPool = some base := by
    rw [facts.campaign]
    exact baseFound
  refine (createTemporaryNodePool_completes baseFound' described absent).bind_eq ?_
  have creating : World.provisioningState? { start with pools := start.pools ++
      [⟨⟨observed.temporaryName, some { clonedProperties properties with
        provisioningState := some "Creating" }⟩, none⟩] } observed.temporaryName = some "Creating" := by
    simp only [World.poolNamed?] at absent
    simp [World.provisioningState?, World.poolNamed?, List.find?_append, absent]
  refine (awaitTemporaryNodepool_creating creating).weaken (fun _ _ => id) ?_
  rintro _ _ _ ⟨rfl, rfl, rfl⟩
  exact ⟨by rw [Observation.progressing, configured], by rw [facts.temporaryName],
    by simp [facts.temporaryName]⟩

omit found released in
open Scenario in
/-- On `outdated` the invocation clones `pool1` into the temporary pool. -/
theorem outdated_clones_base_pool :
    ∃ after, reconcile Scenario.config "default" "campaign" (Session.start outdated [] []) =
      .ok ⟨Scenario.config.successReconcileTime, none⟩ after ∧
      after.log.map Entry.request = [.createOrUpdatePool campaign.getTemporaryNodepoolName
        ⟨"", some (clonedProperties (scaling "Succeeded"))⟩] := by
  have stale : Stale outdated campaign.spec "pool1" :=
    ⟨List.mem_singleton_self _, .inl ⟨"v1", rfl, "v2", rfl, by decide⟩⟩
  obtain ⟨_, after, ran, -, rfl, -, requests⟩ := reconcile_clones_base_pool Scenario.config
    (by decide : outdated.safeEvictNamed? "default" "campaign" = some campaign)
    (released_pool1 rfl) stale (by decide)
    (rfl : outdated.poolNamed? "pool1" = some (pool "pool1" "Succeeded" "v2")) rfl
    outdated [] [] ⟨rfl, rfl⟩
  exact ⟨after, ran, requests⟩

/-- The temporary pool is being created: the invocation sends nothing and returns the
short delay. -/
theorem reconcile_waits_for_temporary_pool
    (creating : start.provisioningState? safeEvict.getTemporaryNodepoolName = some "Creating") :
    Completes (At start []) (reconcile config namespaceName name) fun result world log =>
      result = ⟨config.successReconcileTime, none⟩ ∧ world = start ∧ log = [] := by
  refine reconcile_completes config found released fun observed facts configured _ => ?_
  rw [← facts.temporaryName] at creating
  obtain ⟨temporary, present, -⟩ := Option.bind_eq_some.mp creating
  refine (nodePoolExists_completes _).bind_eq ?_
  simp only [present, Option.isSome_some]
  refine (awaitTemporaryNodepool_creating creating).weaken (fun _ _ => id) ?_
  rintro _ _ _ ⟨rfl, rfl, rfl⟩
  exact ⟨by rw [Observation.progressing, configured], rfl, rfl⟩

omit found released in
open Scenario in
/-- On `creating` the invocation waits for the temporary pool. -/
theorem creating_waits_for_temporary_pool :
    ∃ after, reconcile Scenario.config "default" "campaign" (Session.start creating [] []) =
      .ok ⟨Scenario.config.successReconcileTime, none⟩ after ∧ after.world = creating ∧
        after.log = [] := by
  obtain ⟨_, after, ran, -, rfl, waits⟩ := reconcile_waits_for_temporary_pool Scenario.config
    (by decide : creating.safeEvictNamed? "default" "campaign" = some campaign)
    (released_pool1 rfl) rfl creating [] [] ⟨rfl, rfl⟩
  exact ⟨after, ran, waits⟩

end Phases

end NodeUpdater
