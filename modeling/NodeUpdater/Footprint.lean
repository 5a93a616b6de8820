import NodeUpdater.Effects

/-! # The footprint of one `Reconcile`

Every request one invocation sends is allowed by the campaign it read and the world it
started from, whatever the servers answer; one triple per block. -/

namespace NodeUpdater

open NodePoolController SafeEvictReconciler

variable {start : World} {safeEvict : SafeEvict} {halt : Assertion}

/-- What the reads at the start of `Reconcile` establish about its observation: the
pools it calls outdated are the stale ones, each as the start held it. -/
structure Observed (start : World) (safeEvict : SafeEvict) (observed : Observation) : Prop where
  campaign : observed.safeEvict = safeEvict
  sameNamespace : observed.namespaceName = safeEvict.namespaceName
  stale : ∀ name, name ∈ observed.outdatedNodePools.keys ↔ Stale start safeEvict.spec name
  pools : ∀ entry ∈ observed.outdatedNodePools,
    (start.poolNamed? entry.1).map (·.agentPool) = some entry.2

namespace Observed

variable {observed : Observation}

theorem upToDate (facts : Observed start safeEvict observed) (upToDate : observed.upToDate = true)
    (name : String) : ¬Stale start safeEvict.spec name := by
  simp only [Observation.upToDate, Bool.and_eq_true, List.isEmpty_iff] at upToDate
  rw [← facts.stale, upToDate.2]
  simp [GoMap.keys]

theorem temporaryName (facts : Observed start safeEvict observed) :
    observed.temporaryName = safeEvict.getTemporaryNodepoolName := by
  rw [Observation.temporaryName, facts.campaign]

theorem configmapName (facts : Observed start safeEvict observed) :
    observed.configmapName = safeEvict.getConfigmapName := by
  rw [Observation.configmapName, facts.campaign]

end Observed

theorem World.agentPool_name_of_poolNamed? {world : World} {name : String}
    {agentPool : AgentPool} (found : (world.poolNamed? name).map (·.agentPool) = some agentPool) :
    agentPool.name = name := by
  cases named : world.poolNamed? name with
  | none => simp [named] at found
  | some cloudPool =>
      simp only [named, Option.map_some', Option.some.injEq] at found
      subst found
      simpa using List.find?_some named

/-! ## Draining pools -/

theorem evicting_of_filter {world : World} {log : List Entry} {poolName : String}
    {pods : List Pod} (draining : Draining start safeEvict world log)
    (target : Stale start safeEvict.spec poolName ∨ poolName = safeEvict.getTemporaryNodepoolName)
    (cordoned : ∀ node ∈ start.nodes, node.agentPool = some poolName → Cordoned log node.name)
    (idle : ∀ pod ∈ pods, pod ∈ world.pods ∧ Idle safeEvict.spec pod) :
    Evicting start safeEvict
      (filterPodsOnNodes pods (world.nodes.filter (·.agentPool == some poolName))) world log := by
  refine ⟨draining, fun pod member => ?_⟩
  obtain ⟨selected, onNodes⟩ := List.mem_filter.mp member
  obtain ⟨worldMember, podIdle⟩ := idle pod selected
  obtain ⟨node, nodeMember, sameName⟩ := List.any_eq_true.mp onNodes
  obtain ⟨inWorld, inPool⟩ := List.mem_filter.mp nodeMember
  obtain ⟨original, originalMember, same⟩ := draining.1.1.node_mem inWorld
  have originalPool : original.agentPool = some poolName := by
    rw [Node.agentPool_eq_of_ident same]
    simpa using inPool
  have originalName : original.name = pod.nodeName :=
    (congrArg Prod.fst same).trans (by simpa using sameName)
  exact ⟨draining.1.1.pods.subset worldMember, podIdle, original, originalMember, originalName,
    ⟨poolName, originalPool, target⟩, cordoned original originalMember originalPool⟩

theorem evictionLoop_draining (poolNames : List String)
    (targets : ∀ name ∈ poolNames,
      Stale start safeEvict.spec name ∨ name = safeEvict.getTemporaryNodepoolName) :
    Triple (Draining start safeEvict) (evictionLoop safeEvict.spec poolNames)
      (fun _ => Draining start safeEvict) halt := by
  induction poolNames with
  | nil => exact .pure' fun _ _ => id
  | cons poolName rest induction =>
      refine (cordonNodesByAgentPool_draining _ _).bind fun result => ?_
      cases result with
      | error err => exact .pure' fun _ _ holds => holds.1
      | ok _ =>
      refine (PodController.getSafeToEvictPods_triple _).bind fun result => ?_
      cases result with
      | error err => exact .pure' fun _ _ holds => holds.1.1
      | ok pods =>
      refine (getNodesByNodePool_triple _).bind fun result => ?_
      cases result with
      | error err => exact .pure' fun _ _ holds => holds.1.1.1
      | ok nodes =>
      refine ((PodController.evictIdlePods_evicting (filterPodsOnNodes pods nodes)
        fun _ => id).weaken ?_ (fun _ _ _ holds => (holds.1 : Draining start safeEvict _ _))
        fun _ _ => id).bind fun result => ?_
      · rintro world log ⟨⟨⟨draining, cordoned⟩, idle⟩, listed⟩
        rw [listed _ rfl]
        exact evicting_of_filter draining (targets _ (List.mem_cons_self _ _))
          (cordoned rfl rfl) (idle _ rfl)
      · cases result with
        | error err => exact .pure' fun _ _ => id
        | ok _ => exact induction fun name member => targets name (List.mem_cons_of_mem _ member)

theorem performSafeEviction_draining (outdatedNodePools : GoMap AgentPool)
    (targets : ∀ name ∈ outdatedNodePools.keys,
      Stale start safeEvict.spec name ∨ name = safeEvict.getTemporaryNodepoolName) :
    Triple (Draining start safeEvict) (performSafeEviction outdatedNodePools safeEvict)
      (fun _ => Draining start safeEvict) (Draining start safeEvict) := by
  refine (disableAutoScaling_draining _).bind fun result => ?_
  cases result with
  | error err => exact .pure' fun _ _ => id
  | ok _ =>
  refine (nextOrder_reads _).triple.bind fun order => ?_
  refine Triple.of_pre fun world log ⟨draining, permuted⟩ => ?_
  refine (evictionLoop_draining _ fun name member => targets name ?_).of_eq draining
  obtain ⟨entry, entryMember, rfl⟩ := List.mem_map.mp member
  exact List.mem_map_of_mem _ (permuted.subset entryMember)

/-! ## Upgrading and restoring pools -/

theorem upgradeLoop_draining {observed : Observation} (campaign : observed.safeEvict = safeEvict)
    (nodepools : List String) :
    Triple (Draining start safeEvict) (upgradeLoop observed nodepools)
      (fun _ => Draining start safeEvict) halt := by
  induction nodepools with
  | nil => exact .pure' fun _ _ => id
  | cons nodepoolName rest induction =>
      refine (getNodesByNodePool_triple _).bind fun result => ?_
      cases result with
      | error err => exact .pure' fun _ _ holds => holds.1
      | ok nodes =>
      refine (hasRunningStatefulPods_triple _ _).bind fun result => ?_
      cases result with
      | error err => exact .pure' fun _ _ holds => holds.1.1
      | ok running =>
      cases running with
      | true => exact induction.weaken (fun _ _ holds => holds.1.1) (fun _ _ _ => id) fun _ _ => id
      | false =>
      refine (getNodePoolByName_triple _).bind fun result => ?_
      cases result with
      | error err => exact .pure' fun _ _ holds => holds.1.1.1
      | ok nodepool =>
      refine .ite (fun _ => .pure' fun _ _ holds => holds.1.1.1) fun _ => ?_
      refine ((upgradeNodeImageVersion_draining nodepool).weaken ?_
        (fun _ _ _ holds => (holds : Draining start safeEvict _ _)) fun _ _ => id).bind
        fun result => ?_
      · rintro world log ⟨⟨⟨draining, listed⟩, free⟩, found⟩
        refine ⟨draining, fun pod podMember inNamespaces running node nodeMember inPool => ?_⟩
        rw [World.agentPool_name_of_poolNamed? (found _ rfl)] at inPool
        rw [← campaign] at inNamespaces
        refine free rfl pod podMember inNamespaces running node ?_
        rw [listed _ rfl]
        exact List.mem_filter.mpr ⟨nodeMember, by simpa using inPool⟩
      · cases result with
        | error err => exact .pure' fun _ _ => id
        | ok _ => exact induction

theorem restoreLoop_draining (observed : Observation) (configMapData : GoMap String)
    (nodepools : List String) :
    Triple (Draining start safeEvict) (restoreLoop observed configMapData nodepools)
      (fun _ => Draining start safeEvict) (Draining start safeEvict) := by
  induction nodepools with
  | nil => exact .pure' fun _ _ => id
  | cons nodepoolName rest induction =>
      refine .ite (fun _ => induction) fun _ => ?_
      refine (getNodePoolByName_triple _).bind fun result => ?_
      cases result with
      | error err => exact .pure' fun _ _ holds => holds.1
      | ok nodepool =>
      refine ((setDefaultScaling_draining _ _).weaken (fun _ _ holds => holds.1) (fun _ _ _ => id)
        fun _ _ => id).bind fun result => ?_
      cases result with
      | error err => exact .ite (fun _ => .pure' fun _ _ => id) fun _ => .pure' fun _ _ => id
      | ok _ =>
      exact (cordonNodesByAgentPool_draining _ _).bind fun _ =>
        induction.weaken (fun _ _ holds => holds.1) (fun _ _ _ => id) fun _ _ => id

/-! ## The record -/

theorem ConfigMapController.deleteConfigMap_kept {extra : World → Prop}
    (keeps : ∀ world (configMaps : List ConfigMap), extra world → extra { world with configMaps })
    {namespaceName name : String} (sameNamespace : namespaceName = safeEvict.namespaceName)
    (sameName : name = safeEvict.getConfigmapName)
    (upToDate : ∀ poolName, ¬Stale start safeEvict.spec poolName) :
    Triple (fun world log => Kept start safeEvict world log ∧ extra world)
      (ConfigMapController.deleteConfigMap namespaceName name)
      (fun _ world log => Kept start safeEvict world log ∧ extra world) halt := by
  have delete : Triple (fun world log => Kept start safeEvict world log ∧ extra world)
      (Kube.deleteConfigMap namespaceName name)
      (fun _ world log => Kept start safeEvict world log ∧ extra world) halt := by
    refine mutate_triple _ _ _ (fun world log updated holds answer => ?_) fun world log _ holds =>
      ⟨holds.1.snoc (.deleteConfigMap sameNamespace sameName upToDate) holds.1.1, holds.2⟩
    split at answer <;> cases answer
    exact ⟨holds.1.snoc (.deleteConfigMap sameNamespace sameName upToDate)
      (holds.1.1.congr rfl rfl), keeps _ _ holds.2⟩
  refine delete.bind fun result => ?_
  cases result with
  | ok _ => exact .pure' fun _ _ => id
  | error err => exact .ite (fun _ => .pure' fun _ _ => id) fun _ => .pure' fun _ _ => id

theorem ConfigMapController.createConfigMap_draining {namespaceName name : String}
    {data : GoMap String} (sameNamespace : namespaceName = safeEvict.namespaceName)
    (sameName : name = safeEvict.getConfigmapName) (records : Records start safeEvict.spec data) :
    Triple (Draining start safeEvict) (ConfigMapController.createConfigMap namespaceName name data)
      (fun _ => Draining start safeEvict) halt := by
  have create : Triple (Draining start safeEvict) (Kube.createConfigMap ⟨namespaceName, name, data⟩)
      (fun _ => Draining start safeEvict) halt := by
    refine mutate_triple _ _ _ (fun world log updated holds answer => ?_) fun world log _ holds =>
      holds.snoc (.createConfigMap sameNamespace sameName records) holds.1.1 holds.2
    split at answer <;> cases answer
    exact holds.snoc (.createConfigMap sameNamespace sameName records) (holds.1.1.congr rfl rfl)
      (holds.2.congr rfl)
  refine (getConfigMap_triple _ _).bind fun result => ?_
  cases result with
  | ok _ => exact .pure' fun _ _ => id
  | error err =>
      refine create.bind fun result => ?_
      cases result <;> exact .pure' fun _ _ => id

theorem configData_entries {outdatedNodePools : GoMap AgentPool} {data : GoMap String}
    (encoded : configData outdatedNodePools = .ok data) :
    (∀ name, name ∈ data.keys ↔ name ∈ outdatedNodePools.keys) ∧
      ∀ name text, (name, text) ∈ data → ∃ agentPool, (name, agentPool) ∈ outdatedNodePools ∧
        Json.scalingEntry agentPool = .ok text := by
  suffices all : ∀ (entries : GoMap AgentPool) (written : GoMap String),
      entries.foldlM (fun data entry => (Json.scalingEntry entry.2).map (data.insert entry.1))
        written = .ok data →
      (∀ name, name ∈ data.keys ↔ name ∈ written.keys ∨ name ∈ entries.keys) ∧
      ∀ name text, (name, text) ∈ data → (name, text) ∈ written ∨
        ∃ agentPool, (name, agentPool) ∈ entries ∧ Json.scalingEntry agentPool = .ok text by
    obtain ⟨keys, values⟩ := all outdatedNodePools [] encoded
    refine ⟨fun name => by simpa [GoMap.keys] using keys name, fun name text member => ?_⟩
    simpa using values name text member
  intro entries
  induction entries with
  | nil =>
      intro written done
      cases done
      exact ⟨fun _ => by simp [GoMap.keys], fun _ _ member => .inl member⟩
  | cons entry rest induction =>
      intro written folded
      simp only [List.foldlM_cons] at folded
      cases encodedEntry : Json.scalingEntry entry.2 with
      | error message => simp [encodedEntry, Except.map] at folded; cases folded
      | ok text =>
      simp only [encodedEntry, Except.map] at folded
      obtain ⟨keys, values⟩ := induction _ folded
      refine ⟨fun name => ?_, fun name value member => ?_⟩
      · rw [keys, GoMap.mem_keys_insert]
        simp only [GoMap.keys, List.map_cons, List.mem_cons]
        tauto
      · rcases values name value member with inserted | fromRest
        · rcases GoMap.mem_insert inserted with same | old
          · cases same
            exact .inr ⟨entry.2, List.mem_cons_self _ _, encodedEntry⟩
          · exact .inl old
        · obtain ⟨agentPool, poolMember, encoding⟩ := fromRest
          exact .inr ⟨agentPool, List.mem_cons_of_mem _ poolMember, encoding⟩

/-! ## The blocks of `Reconcile` -/

section Blocks

variable {observed : Observation}

theorem cleanUp_draining (facts : Observed start safeEvict observed) :
    Triple (Draining start safeEvict) (cleanUp observed)
      (fun _ => Draining start safeEvict) (Draining start safeEvict) := by
  unfold cleanUp
  rw [facts.campaign]
  refine .ite (fun upToDate => ?_) fun _ => .pure' fun _ _ => id
  have noneStale := facts.upToDate upToDate
  refine (getNodePoolByName_triple _).bind fun result => ?_
  cases result with
  | error err =>
      exact .ite (fun _ => .throw' fun _ _ holds => holds.1) fun _ => .pure' fun _ _ holds => holds.1
  | ok temporaryNodepool =>
  refine Triple.of_pre fun world log ⟨draining, found⟩ => ?_
  have named : temporaryNodepool.name = safeEvict.getTemporaryNodepoolName :=
    (World.agentPool_name_of_poolNamed? (found _ rfl)).trans facts.temporaryName
  have targets : ∀ name ∈ GoMap.keys [(temporaryNodepool.name, temporaryNodepool)],
      Stale start safeEvict.spec name ∨ name = safeEvict.getTemporaryNodepoolName := by
    simp [GoMap.keys, named]
  refine ((disableAutoScaling_draining _).of_eq draining).bind fun result => ?_
  cases result with
  | error err => exact .pure' fun _ _ => id
  | ok _ =>
  refine (getNodesByNodePool_triple _).bind fun result => ?_
  cases result with
  | error err => exact .pure' fun _ _ holds => holds.1
  | ok temporaryNodes =>
  refine Triple.of_pre fun world log ⟨draining, listed⟩ => ?_
  have covered : ∀ node ∈ start.nodes, node.agentPool = some safeEvict.getTemporaryNodepoolName →
      ∃ other ∈ temporaryNodes, other.ident = node.ident := by
    intro node member inPool
    obtain ⟨current, currentMember, same⟩ := draining.1.1.node_mem_start member
    refine ⟨current, ?_, same⟩
    rw [listed _ rfl, List.mem_filter, named]
    exact ⟨currentMember, by simp [Node.agentPool_eq_of_ident same, inPool]⟩
  dsimp only
  refine ((performSafeEviction_draining _ targets).of_eq draining).bind fun _ => ?_
  refine (hasRunningStatefulPods_triple _ _).bind fun result => ?_
  cases result with
  | error err => exact .pure' fun _ _ holds => holds.1
  | ok running =>
  cases running with
  | true => exact .pure' fun _ _ holds => holds.1
  | false =>
  refine ((removeTemporaryNodePool_draining _ facts.temporaryName noneStale).weaken ?_
    (fun _ _ _ holds => (holds : Draining start safeEvict _ _)) fun _ _ => id).bind
    fun result => ?_
  · rintro world log ⟨draining, free⟩
    refine ⟨draining, fun pod podMember inNamespaces running node nodeMember inPool => ?_⟩
    rw [facts.temporaryName] at inPool
    obtain ⟨original, originalMember, same⟩ := draining.1.1.node_mem nodeMember
    obtain ⟨other, otherMember, sameOther⟩ := covered original originalMember
      ((Node.agentPool_eq_of_ident same).trans inPool)
    have sameName : other.name = node.name := congrArg Prod.fst (sameOther.trans same)
    exact sameName ▸ free rfl pod podMember inNamespaces running other otherMember
  · cases result with
    | error _ => exact .pure' fun _ _ => id
    | ok _ =>
    refine ((ConfigMapController.deleteConfigMap_kept (fun _ _ surge => surge.congr rfl)
      facts.sameNamespace facts.configmapName noneStale).weaken (fun _ _ => id)
      (fun _ _ _ => id) fun _ _ => id).bind fun result => ?_
    cases result <;> exact .pure' fun _ _ => id

theorem drainAndUpgrade_draining (facts : Observed start safeEvict observed)
    (configMapData : GoMap String) :
    Triple (Draining start safeEvict) (drainAndUpgrade observed configMapData)
      (fun _ => Draining start safeEvict) (Draining start safeEvict) := by
  have targets : ∀ name ∈ observed.outdatedNodePools.keys,
      Stale start safeEvict.spec name ∨ name = safeEvict.getTemporaryNodepoolName :=
    fun name member => .inl ((facts.stale name).mp member)
  unfold drainAndUpgrade
  rw [facts.campaign]
  refine (performSafeEviction_draining _ targets).bind fun result => ?_
  cases result with
  | error err => exact .pure' fun _ _ => id
  | ok _ =>
  refine (upgradeLoop_draining facts.campaign _).bind fun result => ?_
  cases result with
  | some _ => exact .pure' fun _ _ => id
  | none =>
  refine (nextOrder_reads _).triple.bind fun order => ?_
  refine ((restoreLoop_draining _ _ _).weaken (fun _ _ holds => holds.1) (fun _ _ _ => id)
    fun _ _ => id).bind fun result => ?_
  cases result with
  | some _ => exact .pure' fun _ _ => id
  | none => exact cleanUp_draining facts

theorem records_of_configData (facts : Observed start safeEvict observed)
    {order : GoMap AgentPool} (permuted : order.Perm observed.outdatedNodePools)
    {data : GoMap String} (encoded : configData order = .ok data) :
    Records start safeEvict.spec data := by
  obtain ⟨keys, values⟩ := configData_entries encoded
  refine ⟨fun name => ?_, fun name text found => ?_⟩
  · rw [keys, ← facts.stale]
    simp only [GoMap.keys]
    exact (permuted.map Prod.fst).mem_iff
  · obtain ⟨agentPool, member, encoding⟩ := values name text (GoMap.mem_of_find? found)
    have pool := facts.pools _ (permuted.subset member)
    cases named : start.poolNamed? name with
    | none => simp [named] at pool
    | some cloudPool =>
        simp only [named, Option.map_some', Option.some.injEq] at pool
        exact ⟨cloudPool, rfl, pool ▸ encoding⟩

theorem recordScaling_draining (facts : Observed start safeEvict observed) :
    Triple (Draining start safeEvict) (recordScaling observed)
      (fun _ => Draining start safeEvict) (Draining start safeEvict) := by
  refine (ConfigMapController.getConfigMapData_triple _ _).bind fun result => ?_
  cases result with
  | ok configMapData => exact drainAndUpgrade_draining facts _
  | error err =>
  refine .ite (fun _ => ?_) fun _ => .pure' fun _ _ => id
  refine (nextOrder_reads _).triple.bind fun order => ?_
  refine Triple.of_pre fun world log ⟨draining, permuted⟩ => ?_
  split
  · exact .throw' fun _ _ same => same.1 ▸ same.2 ▸ draining
  · rename_i data encoded
    refine ((ConfigMapController.createConfigMap_draining facts.sameNamespace
      facts.configmapName (records_of_configData facts permuted encoded)).of_eq draining).bind
      fun result => ?_
    cases result with
    | error err => exact .pure' fun _ _ => id
    | ok _ => exact drainAndUpgrade_draining facts _

theorem awaitTemporaryNodepool_kept (facts : Observed start safeEvict observed) :
    Triple (Kept start safeEvict) (awaitTemporaryNodepool observed)
      (fun _ => Kept start safeEvict) (Kept start safeEvict) := by
  refine (getNodePoolProvisioningState_triple _).bind fun result => ?_
  cases result with
  | error err => exact .pure' fun _ _ holds => holds.1
  | ok status =>
  refine .ite (fun _ => .pure' fun _ _ holds => holds.1) fun notCreating => ?_
  refine (recordScaling_draining facts).weaken ?_ (fun _ _ _ holds => holds.1)
    fun _ _ holds => holds.1
  rintro world log ⟨kept, stateFound⟩
  have state := stateFound _ rfl
  rw [facts.temporaryName] at state
  refine ⟨kept, ?_, by rw [state]; simpa using notCreating⟩
  cases named : world.poolNamed? safeEvict.getTemporaryNodepoolName with
  | none => simp [World.provisioningState?, named] at state
  | some _ => rfl

theorem createTemporaryNodePool_kept (newNodePoolName sourceNodePoolName : String) :
    Triple (Kept start safeEvict) (createTemporaryNodePool newNodePoolName sourceNodePoolName)
      (fun _ => Kept start safeEvict) halt := by
  refine (query_triple _ _).bind fun result => ?_
  cases result with
  | error err => exact .pure' fun _ _ holds => holds.1
  | ok sourceNodePool =>
  dsimp only
  split
  · exact .pure' fun _ _ holds => holds.1
  · refine ((AgentPoolClient.beginCreateOrUpdate_kept _ _).weaken (fun _ _ holds => holds.1)
      (fun _ _ _ => id) fun _ _ => id).bind fun result => ?_
    cases result <;> exact .pure' fun _ _ => id

theorem ensureTemporaryNodepool_kept (facts : Observed start safeEvict observed) :
    Triple (Kept start safeEvict) (ensureTemporaryNodepool observed)
      (fun _ => Kept start safeEvict) (Kept start safeEvict) := by
  refine (nodePoolExists_triple _).bind fun result => ?_
  cases result with
  | error err => exact .pure' fun _ _ => id
  | ok present =>
  cases present with
  | true => exact awaitTemporaryNodepool_kept facts
  | false =>
  refine .ite (fun upToDate => ?_) fun _ => ?_
  · refine ((ConfigMapController.deleteConfigMap_kept
      (fun (_ : World) (_ : List ConfigMap) (_ : True) => trivial)
      facts.sameNamespace facts.configmapName (facts.upToDate upToDate)).weaken
      (fun _ _ kept => ⟨kept, trivial⟩) (fun _ _ _ holds => holds.1) fun _ _ => id).bind
      fun result => ?_
    cases result <;> exact .pure' fun _ _ => id
  · refine (createTemporaryNodePool_kept _ _).bind fun result => ?_
    cases result with
    | error _ => exact .pure' fun _ _ => id
    | ok _ => exact awaitTemporaryNodepool_kept facts

end Blocks

/-! ## One invocation -/

theorem observed_of_reads {config : Config} {namespaceName name : String}
    {outdatedNodes : GoMap Node} {outdatedNodePools notReady order : GoMap AgentPool}
    (found : start.safeEvictNamed? namespaceName name = some safeEvict)
    (outdated : (∀ name, name ∈ outdatedNodePools.keys ↔
        start.ImageOutdated safeEvict.spec.nodepools name) ∧
      ∀ entry ∈ outdatedNodePools, (start.poolNamed? entry.1).map (·.agentPool) = some entry.2)
    (notReadyPools : (∀ name, name ∈ notReady.keys ↔ name ∈ GoMap.keys ([] : GoMap AgentPool) ∨
        name ∈ safeEvict.spec.nodepools ∧
          ∃ state, start.provisioningState? name = some state ∧ state ≠ "Succeeded") ∧
      ∀ entry ∈ notReady, entry ∈ ([] : GoMap AgentPool) ∨
        (start.poolNamed? entry.1).map (·.agentPool) = some entry.2)
    (permuted : order.Perm notReady) :
    Observed start safeEvict
      ⟨config, namespaceName, safeEvict, outdatedNodes, outdatedNodePools.insertAll order⟩ := by
  have named := List.find?_some found
  simp only [Bool.and_eq_true, beq_iff_eq] at named
  refine ⟨rfl, named.1.symm, fun poolName => ?_, fun entry member => ?_⟩
  · rw [GoMap.mem_keys_insertAll, outdated.1, show poolName ∈ order.keys ↔ poolName ∈ notReady.keys
      from (permuted.map Prod.fst).mem_iff, notReadyPools.1]
    simp only [GoMap.keys, List.map_nil, List.not_mem_nil, false_or, Stale]
    constructor
    · rintro (imageOutdated | ⟨monitored, notSucceeded⟩)
      · obtain ⟨version, versionFound, -⟩ := id imageOutdated
        have listed := (nodeImageVersions_wellFormed safeEvict.spec.nodepools start.nodes).2 poolName
          (GoMap.mem_keys.mpr ⟨version, GoMap.mem_of_find? versionFound⟩)
        exact ⟨listed, .inl imageOutdated⟩
      · exact ⟨monitored, .inr notSucceeded⟩
    · rintro ⟨monitored, imageOutdated | notSucceeded⟩
      · exact .inl imageOutdated
      · exact .inr ⟨monitored, notSucceeded⟩
  · rcases GoMap.mem_insertAll member with fromOutdated | fromOrder
    · exact outdated.2 entry fromOutdated
    · exact (notReadyPools.2 entry (permuted.subset fromOrder)).resolve_left (by simp)

/-- Unless it sent nothing, an invocation read a campaign, and every request it sent
is allowed by that campaign and the world it started from. -/
theorem reconcile_footprint (config : Config) (namespaceName name : String) :
    Triple (fun world log => world = start ∧ log = []) (reconcile config namespaceName name)
      (fun _ world log => log = [] ∨ ∃ safeEvict,
        start.safeEvictNamed? namespaceName name = some safeEvict ∧
          Kept start safeEvict world log)
      (fun world log => log = [] ∨ ∃ safeEvict,
        start.safeEvictNamed? namespaceName name = some safeEvict ∧
          Kept start safeEvict world log) := by
  refine (Kube.getSafeEvict_triple _ _).bind fun result => ?_
  cases result with
  | error err => exact .pure' fun _ _ holds => .inl holds.1.2
  | ok safeEvict =>
  refine (updateNeeded_triple _).bind fun result => ?_
  cases result with
  | error err => exact .pure' fun _ _ holds => .inl holds.1.1.2
  | ok outdated =>
  obtain ⟨outdatedNodes, outdatedNodePools⟩ := outdated
  refine (getNotReadyNodePoolsLoop_triple _ _).bind fun result => ?_
  cases result with
  | error err => exact .pure' fun _ _ holds => .inl holds.1.1.1.2
  | ok notReady =>
  refine (nextOrder_reads _).triple.bind fun order => ?_
  refine Triple.of_pre
    fun world log ⟨⟨⟨⟨⟨atStart, empty⟩, found⟩, outdatedFacts⟩, notReadyFacts⟩, permuted⟩ => ?_
  subst atStart empty
  exact ((ensureTemporaryNodepool_kept (observed_of_reads (found _ rfl) (outdatedFacts _ _ rfl)
    (notReadyFacts _ rfl) permuted)).of_eq ⟨Frame.refl _, Sound.nil _⟩).weaken
    (fun _ _ => id) (fun _ _ _ kept => .inr ⟨safeEvict, found _ rfl, kept⟩)
    fun _ _ kept => .inr ⟨safeEvict, found _ rfl, kept⟩

/-- One invocation of `Reconcile` for the campaign `namespaceName/name` from `start`,
with the answers its servers give and the orders its map iterations take: the
session it ends in, whether it returns or panics. -/
def invoke (config : Config) (namespaceName name : String) (start : World)
    (faults : List Fault) (orders : List (List Nat)) : Session :=
  finalSession (reconcile config namespaceName name (Session.start start faults orders))

/-- The footprint of an invocation: each request it sent is allowed, by the entries
before it, for the campaign it read. -/
theorem invoke_allowed (config : Config) (namespaceName name : String) (start : World)
    (faults : List Fault) (orders : List (List Nat)) (index : Nat)
    (inLog : index < (invoke config namespaceName name start faults orders).log.length) :
    ∃ safeEvict, start.safeEvictNamed? namespaceName name = some safeEvict ∧
      Allowed start safeEvict ((invoke config namespaceName name start faults orders).log.take index)
        ((invoke config namespaceName name start faults orders).log.get ⟨index, inLog⟩) := by
  have final := (@reconcile_footprint start config namespaceName name).finalSession_holds
    (Session.start start faults orders) ⟨rfl, rfl⟩
  rcases final with empty | ⟨safeEvict, found, kept⟩
  · simp [invoke, empty] at inLog
  · refine ⟨safeEvict, found, kept.2 _ _
      ((invoke config namespaceName name start faults orders).log.drop (index + 1)) ?_⟩
    change (invoke config namespaceName name start faults orders).log = _
    rw [List.get_eq_getElem, List.getElem_cons_drop, List.take_append_drop]

end NodeUpdater
