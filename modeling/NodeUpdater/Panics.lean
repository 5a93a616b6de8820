import NodeUpdater.Restore
import NodeUpdater.Failures

/-! # Where `Reconcile` can panic

The pool fields `Reconcile` dereferences unchecked, and that in a cluster whose pools all
report their properties no invocation of any run reaches one. -/

namespace NodeUpdater

/-- A pool the encoder of `Reconcile` can record: its properties carry a scaling. -/
def AgentPool.scaled (agentPool : AgentPool) : Bool :=
  (agentPool.properties.bind recordedScaling).isSome

/-- A pool as the control plane reports a provisioned one: with properties, a
provisioning state and a scaling. -/
def AgentPool.populated (agentPool : AgentPool) : Bool :=
  agentPool.scaled && (agentPool.properties.bind (·.provisioningState)).isSome

/-- Every pool of the world is populated. -/
def World.Populated (world : World) : Prop :=
  ∀ cloudPool ∈ world.pools, cloudPool.agentPool.populated = true

instance (world : World) : Decidable world.Populated :=
  inferInstanceAs (Decidable (∀ cloudPool ∈ world.pools, cloudPool.agentPool.populated = true))

/-! ## Writes that keep the cluster populated -/

theorem recordedScaling_apply (scaling : Scaling) {properties : AgentPoolProperties}
    (scaled : (recordedScaling properties).isSome) :
    (recordedScaling (scaling.apply properties)).isSome := by
  cases scaling with
  | autoscaled => rfl
  | manual count =>
      rcases properties with ⟨_, _, _, _, _ | _, _ | _⟩
      all_goals first | rfl | cases scaled

theorem scalingTarget_recorded {properties target : AgentPoolProperties}
    (scaled : (recordedScaling properties).isSome) (scalingConfig : GoMap Int)
    (targeted : NodePoolController.scalingTarget properties scalingConfig = some target) :
    (recordedScaling target).isSome := by
  rw [scalingTarget_selected] at targeted
  split at targeted
  · split at targeted
    · cases targeted
    · cases targeted
      exact recordedScaling_apply _ scaled
  · cases targeted
    exact scaled

theorem AgentPool.populated_iff {agentPool : AgentPool} :
    agentPool.populated = true ↔ ∃ properties, agentPool.properties = some properties ∧
      (recordedScaling properties).isSome ∧ properties.provisioningState.isSome := by
  rcases agentPool with ⟨name, _ | properties⟩
  · simp [AgentPool.populated, AgentPool.scaled]
  · simp [AgentPool.populated, AgentPool.scaled]

theorem AgentPool.scaled_of_populated {agentPool : AgentPool}
    (populated : agentPool.populated = true) :
    agentPool.scaled = true :=
  ((Bool.and_eq_true _ _).mp populated).1

theorem AgentPool.populated_stamped {properties : Option AgentPoolProperties}
    (scaled : (properties.bind recordedScaling).isSome) (name state : String) :
    AgentPool.populated ⟨name, properties.map fun properties =>
      { properties with provisioningState := some state }⟩ = true := by
  cases properties with
  | none => cases scaled
  | some properties =>
      show (recordedScaling properties).isSome && true = true
      simpa using scaled

namespace World.Populated

variable {world : World}

theorem updatePool (populated : world.Populated) (name : String)
    {properties : Option AgentPoolProperties} (scaled : (properties.bind recordedScaling).isSome) :
    (world.updatePool name properties).Populated := by
  intro cloudPool member
  obtain ⟨original, originalMember, rfl⟩ := List.mem_map.mp member
  split
  · exact AgentPool.populated_stamped scaled _ _
  · exact populated original originalMember

theorem setPoolState (populated : world.Populated) (name state : String) :
    (world.setPoolState name state).Populated := by
  intro cloudPool member
  obtain ⟨original, originalMember, rfl⟩ := List.mem_map.mp member
  split
  · exact AgentPool.populated_stamped
      (AgentPool.scaled_of_populated (populated original originalMember)) _ _
  · exact populated original originalMember

theorem poolNamed? (populated : world.Populated) {name : String} {agentPool : AgentPool}
    (found : (world.poolNamed? name).map (·.agentPool) = some agentPool) :
    agentPool.populated = true := by
  cases named : world.poolNamed? name with
  | none => simp [named] at found
  | some cloudPool =>
      simp only [named, Option.map_some', Option.some.injEq] at found
      exact found ▸ populated cloudPool (List.mem_of_find?_eq_some named)

end World.Populated

theorem Change.apply_populated (change : Change) {world : World} (populated : world.Populated) :
    (change.apply world).Populated := by
  cases change with
  | release poolName image =>
      intro cloudPool member
      obtain ⟨original, originalMember, rfl⟩ := List.mem_map.mp member
      split <;> exact populated original originalMember
  | settle poolName state => exact populated.setPoolState poolName state
  | complete =>
      intro cloudPool member
      obtain ⟨original, originalMember, rfl⟩ := List.mem_map.mp member
      have kept := populated original (List.mem_filter.mp originalMember).1
      split
      · exact AgentPool.populated_stamped (AgentPool.scaled_of_populated kept) _ _
      · exact kept

/-! ## The requests of one invocation -/

section Requests

variable {halt : Assertion}

theorem mutate_populated (failure : Fault → GoError) (request : Request)
    {serve : World → Except GoError World}
    (pools : ∀ world updated, serve world = .ok updated → updated.pools = world.pools) :
    Triple (fun world _ => world.Populated) (mutate failure request serve)
      (fun _ world _ => world.Populated) halt :=
  mutate_triple _ _ _ (fun world _ updated populated answer cloudPool member =>
    populated cloudPool (pools world updated answer ▸ member)) fun _ _ _ => id

theorem Devops.send_populated (request : Request) (successCode : Nat)
    {serve : World → Option World}
    (pools : ∀ world updated, serve world = some updated → updated.pools = world.pools) :
    Triple (fun world _ => world.Populated) (Devops.send request successCode serve)
      (fun _ world _ => world.Populated) halt :=
  Devops.send_triple _ _ _ (fun world _ updated populated answer cloudPool member =>
    populated cloudPool (pools world updated answer ▸ member)) fun _ _ _ => id

theorem AgentPoolClient.beginCreateOrUpdate_populated (name : String) {agentPool : AgentPool}
    (scaled : agentPool.scaled = true) :
    Triple (fun world _ => world.Populated) (AgentPoolClient.beginCreateOrUpdate name agentPool)
      (fun _ world _ => world.Populated) halt := by
  refine mutate_triple _ _ _ (fun world log updated populated answer => ?_) fun _ _ _ => id
  split at answer <;> cases answer
  · exact populated.updatePool name scaled
  · intro cloudPool member
    rcases List.mem_append.mp member with old | new
    · exact populated cloudPool old
    · cases List.mem_singleton.mp new
      exact AgentPool.populated_stamped scaled _ _

theorem AgentPoolClient.beginDelete_populated (name : String) :
    Triple (fun world _ => world.Populated) (AgentPoolClient.beginDelete name)
      (fun _ world _ => world.Populated) halt := by
  refine mutate_triple _ _ _ (fun world log updated populated answer => ?_) fun _ _ _ => id
  split at answer <;> cases answer
  exact populated.setPoolState _ _

theorem AgentPoolClient.beginUpgradeNodeImageVersion_populated (name : String) :
    Triple (fun world _ => world.Populated) (AgentPoolClient.beginUpgradeNodeImageVersion name)
      (fun _ world _ => world.Populated) halt := by
  refine mutate_triple _ _ _ (fun world log updated populated answer => ?_) fun _ _ _ => id
  split at answer <;> cases answer
  exact populated.setPoolState _ _

theorem AgentPoolClient.failure_isNotFound (fault : Fault) :
    (AgentPoolClient.failure fault).isNotFound = false := by
  cases fault <;> rfl

open NodePoolController in
theorem getNodePoolByName_answers {pre : Assertion} (nodePoolName : String) :
    Triple pre (getNodePoolByName nodePoolName) (fun result world log => pre world log ∧
      (∀ agentPool, result = .ok agentPool →
        (world.poolNamed? nodePoolName).map (·.agentPool) = some agentPool) ∧
      ∀ err, result = .error err → err.isNotFound = false) halt := by
  refine (query_reads _ _).triple.bind fun result => ?_
  cases result with
  | ok agentPool =>
      refine .pure' fun world _ ⟨holds, answer⟩ => ⟨holds, fun value same => ?_, fun _ same => ?_⟩
      · cases same
        rcases answer with served | ⟨_, failed⟩
        · exact agentPool_of_get served.symm
        · cases failed
      · cases same
  | error err =>
      refine .ite (fun notFound => .vacuous fun world _ ⟨_, answer⟩ => ?_)
        fun _ => .pure' fun _ _ ⟨holds, _⟩ => ⟨holds, fun _ same => ?_, fun _ same => ?_⟩
      · rcases answer with served | ⟨fault, failed⟩
        · split at served <;> cases served
          cases notFound
        · cases failed
          simp [AgentPoolClient.failure_isNotFound] at notFound
      · cases same
      · cases same
        rfl

end Requests

/-! ## The blocks of `Reconcile`

From a populated cluster each block returns and leaves the cluster populated. The
pools a block is handed were read from the cluster, so they are populated too. -/

section Blocks

open NodePoolController SafeEvictReconciler

theorem setUnschedulable_populated (toCordon : Bool) (nodes : List Node) :
    Triple (fun world _ => world.Populated) (setUnschedulable toCordon nodes)
      (fun _ world _ => world.Populated) fun _ _ => False := by
  induction nodes with
  | nil => exact .pure' fun _ _ => id
  | cons node rest induction =>
      refine (mutate_populated _ _ fun _ _ answer => ?_).bind fun result => ?_
      · split at answer <;> cases answer; rfl
      · cases result with
        | error err => exact .pure' fun _ _ => id
        | ok _ => exact induction

theorem cordonNodesByAgentPool_populated (nodePoolName : String) (toCordon : Bool) :
    Triple (fun world _ => world.Populated) (cordonNodesByAgentPool nodePoolName toCordon)
      (fun _ world _ => world.Populated) fun _ _ => False := by
  refine (getNodesByNodePool_triple _).bind fun result => ?_
  cases result with
  | error err => exact .pure' fun _ _ holds => holds.1
  | ok nodes =>
      exact (setUnschedulable_populated _ _).weaken (fun _ _ holds => holds.1) (fun _ _ _ => id)
        fun _ _ => id

theorem JobController.killJobByPod_populated (pod : Pod) :
    Triple (fun world _ => world.Populated) (JobController.killJobByPod pod)
      (fun _ world _ => world.Populated) fun _ _ => False := by
  refine .ite (fun _ => .pure' fun _ _ => id) fun _ =>
    .ite (fun _ => .pure' fun _ _ => id) fun _ => ?_
  refine (mutate_populated _ _ fun _ _ answer => ?_).bind fun result => ?_
  · split at answer <;> cases answer; rfl
  · cases result <;> exact .pure' fun _ _ => id

theorem PodController.killPod_populated (pod : Pod) :
    Triple (fun world _ => world.Populated) (PodController.killPod pod)
      (fun _ world _ => world.Populated) fun _ _ => False := by
  refine (mutate_populated _ _ fun _ _ answer => ?_).bind fun result => ?_
  · split at answer <;> cases answer; rfl
  · cases result <;> exact .pure' fun _ _ => id

theorem PodController.evictIdlePods_populated (pods : List Pod) :
    Triple (fun world _ => world.Populated) (PodController.evictIdlePods pods)
      (fun _ world _ => world.Populated) fun _ _ => False := by
  induction pods with
  | nil => exact .pure' fun _ _ => id
  | cons pod rest induction =>
      refine (getPodsPool_triple _ _).bind fun result => ?_
      cases result with
      | error err => exact .pure' fun _ _ holds => holds.1
      | ok poolName =>
      refine ((AzureDevopsController.agentRequest_keeps _ _ _ _ fun _ _ =>
        Devops.send_populated _ _ fun _ _ answer => ?_).weaken
        (fun _ _ holds => holds.1) (fun _ _ _ => id) fun _ _ => id).bind fun result => ?_
      · split at answer <;> cases answer; rfl
      cases result with
      | error err => exact .pure' fun _ _ => id
      | ok _ =>
      refine (AzureDevopsController.agentRequest_keeps _ _ _ _ fun _ _ =>
        Devops.send_populated _ _ fun _ _ answer => ?_).bind fun result => ?_
      · split at answer <;> cases answer; rfl
      cases result with
      | error err => exact .pure' fun _ _ => id
      | ok _ =>
      refine (JobController.killJobByPod_populated pod).bind fun result => ?_
      cases result with
      | error err => exact .pure' fun _ _ => id
      | ok _ =>
      refine (killPod_populated pod).bind fun result => ?_
      cases result with
      | error err => exact .pure' fun _ _ => id
      | ok _ => exact induction

theorem evictionLoop_populated (spec : SafeEvictSpec) (poolNames : List String) :
    Triple (fun world _ => world.Populated) (evictionLoop spec poolNames)
      (fun _ world _ => world.Populated) fun _ _ => False := by
  induction poolNames with
  | nil => exact .pure' fun _ _ => id
  | cons poolName rest induction =>
      refine (cordonNodesByAgentPool_populated _ _).bind fun result => ?_
      cases result with
      | error err => exact .pure' fun _ _ => id
      | ok _ =>
      refine (PodController.getSafeToEvictPods_triple _).bind fun result => ?_
      cases result with
      | error err => exact .pure' fun _ _ holds => holds.1
      | ok pods =>
      refine (getNodesByNodePool_triple _).bind fun result => ?_
      cases result with
      | error err => exact .pure' fun _ _ holds => holds.1.1
      | ok nodes =>
      refine ((PodController.evictIdlePods_populated _).weaken (fun _ _ holds => holds.1.1)
        (fun _ _ _ => id) fun _ _ => id).bind fun result => ?_
      cases result with
      | error err => exact .pure' fun _ _ => id
      | ok _ => exact induction

theorem disableAutoScalingWrite_populated (agentPool : AgentPool)
    {properties : AgentPoolProperties} (scaled : (recordedScaling properties).isSome)
    {next : Api (Except GoError Unit)}
    (continues : Triple (fun world _ => world.Populated) next
      (fun _ world _ => world.Populated) fun _ _ => False) :
    Triple (fun world _ => world.Populated) (disableAutoScalingWrite agentPool properties next)
      (fun _ world _ => world.Populated) fun _ _ => False := by
  refine (AgentPoolClient.beginCreateOrUpdate_populated _ ?_).bind fun result => ?_
  · exact scaled
  cases result with
  | error err => exact .ite (fun _ => .pure' fun _ _ => id) fun _ => .pure' fun _ _ => id
  | ok _ => exact continues

/-- `DisableAutoScaling` dereferences the state of every pool with a mode other than
`System`: a populated pool has one. -/
theorem disableAutoScalingLoop_populated (agentPools : GoMap AgentPool)
    (populated : ∀ entry ∈ agentPools, entry.2.populated = true) :
    Triple (fun world _ => world.Populated) (disableAutoScalingLoop agentPools)
      (fun _ world _ => world.Populated) fun _ _ => False := by
  induction agentPools with
  | nil => exact .pure' fun _ _ => id
  | cons entry rest induction =>
      obtain ⟨_, agentPool⟩ := entry
      have continues :=
        induction fun entry member => populated entry (List.mem_cons_of_mem _ member)
      unfold disableAutoScalingLoop
      split
      · exact .pure' fun _ _ => id
      rename_i properties present
      obtain ⟨_, same, scaled, stated⟩ := AgentPool.populated_iff.mp
        (populated _ (List.mem_cons_self _ _) : agentPool.populated = true)
      cases present.symm.trans same
      split
      · exact continues
      · rename_i noState
        simp [noState] at stated
      · exact .ite (fun _ => continues) fun _ =>
          disableAutoScalingWrite_populated _ scaled continues
      · exact disableAutoScalingWrite_populated _ scaled continues

theorem disableAutoScaling_populated (agentPools : GoMap AgentPool)
    (populated : ∀ entry ∈ agentPools, entry.2.populated = true) :
    Triple (fun world _ => world.Populated) (disableAutoScaling agentPools)
      (fun _ world _ => world.Populated) fun _ _ => False := by
  refine (nextOrder_reads _).triple.bind fun order => Triple.of_pre fun _ _ ⟨holds, permuted⟩ => ?_
  exact (disableAutoScalingLoop_populated order fun entry member =>
    populated entry (permuted.subset member)).of_eq holds

theorem performSafeEviction_populated (outdatedNodePools : GoMap AgentPool)
    (populated : ∀ entry ∈ outdatedNodePools, entry.2.populated = true) (safeEvict : SafeEvict) :
    Triple (fun world _ => world.Populated) (performSafeEviction outdatedNodePools safeEvict)
      (fun _ world _ => world.Populated) fun _ _ => False := by
  refine (disableAutoScaling_populated _ populated).bind fun result => ?_
  cases result with
  | error err => exact .pure' fun _ _ => id
  | ok _ =>
      exact (nextOrder_reads _).triple.bind fun _ => (evictionLoop_populated _ _).weaken
        (fun _ _ holds => holds.1) (fun _ _ _ => id) fun _ _ => id

theorem upgradeNodeImageVersion_populated (nodepool : AgentPool) :
    Triple (fun world _ => world.Populated) (upgradeNodeImageVersion nodepool)
      (fun _ world _ => world.Populated) fun _ _ => False := by
  unfold upgradeNodeImageVersion
  split
  · exact .pure' fun _ _ => id
  · exact .pure' fun _ _ => id
  · refine (getNodeImageVersions_triple _).bind fun result => ?_
    cases result with
    | error err => exact .pure' fun _ _ holds => holds.1
    | ok versions =>
    refine (getNodePoolUpgradeProfile_triple _).bind fun result => ?_
    cases result with
    | error err => exact .pure' fun _ _ holds => holds.1.1
    | ok latest =>
    refine .ite (fun _ => .pure' fun _ _ holds => holds.1.1) fun _ => ?_
    refine ((AgentPoolClient.beginUpgradeNodeImageVersion_populated _).weaken
      (fun _ _ holds => holds.1.1) (fun _ _ _ => id) fun _ _ => id).bind fun result => ?_
    cases result <;> exact .pure' fun _ _ => id

theorem upgradeLoop_populated (observed : Observation) (nodepools : List String) :
    Triple (fun world _ => world.Populated) (upgradeLoop observed nodepools)
      (fun _ world _ => world.Populated) fun _ _ => False := by
  induction nodepools with
  | nil => exact .pure' fun _ _ => id
  | cons nodepoolName rest induction =>
      refine (getNodesByNodePool_triple _).bind fun result => ?_
      cases result with
      | error err => exact .pure' fun _ _ holds => holds.1
      | ok nodes =>
      refine (hasRunningStatefulPods_triple _ _).bind fun result => ?_
      cases result with
      | error err => exact .pure' fun _ _ holds => holds.1.1
      | ok running =>
      cases running with
      | true => exact induction.weaken (fun _ _ holds => holds.1.1) (fun _ _ _ => id) fun _ _ => id
      | false =>
      refine (getNodePoolByName_triple _).bind fun result => ?_
      cases result with
      | error err => exact .pure' fun _ _ holds => holds.1.1.1
      | ok nodepool =>
      refine .ite (fun _ => .pure' fun _ _ holds => holds.1.1.1) fun _ => ?_
      refine ((upgradeNodeImageVersion_populated nodepool).weaken (fun _ _ holds => holds.1.1.1)
        (fun _ _ _ => id) fun _ _ => id).bind fun result => ?_
      cases result with
      | error err => exact .pure' fun _ _ => id
      | ok _ => exact induction

theorem scalingWrite_populated (nodepool : AgentPool) {submitted : AgentPool}
    (scaled : submitted.scaled = true) :
    Triple (fun world _ => world.Populated) (scalingWrite nodepool submitted)
      (fun _ world _ => world.Populated) fun _ _ => False := by
  refine (AgentPoolClient.beginCreateOrUpdate_populated _ scaled).bind fun result => ?_
  cases result with
  | error err => exact .ite (fun _ => .pure' fun _ _ => id) fun _ => .pure' fun _ _ => id
  | ok _ => exact .pure' fun _ _ => id

theorem setDefaultScaling_populated {nodepool : AgentPool} (populated : nodepool.populated = true)
    (scalingData : String) :
    Triple (fun world _ => world.Populated) (setDefaultScaling nodepool scalingData)
      (fun _ world _ => world.Populated) fun _ _ => False := by
  obtain ⟨properties, present, scaled, stated⟩ := AgentPool.populated_iff.mp populated
  have applies : Triple (fun world _ => world.Populated) (applyScalingData nodepool scalingData)
      (fun _ world _ => world.Populated) fun _ _ => False := by
    unfold applyScalingData
    split
    · exact .pure' fun _ _ => id
    · simp only [present]
      split
      · exact .pure' fun _ _ => id
      · rename_i target targeted
        exact scalingWrite_populated _ (scalingTarget_recorded scaled _ targeted)
  unfold setDefaultScaling
  simp only [present, Option.bind_some]
  split
  · rename_i noState
    simp only [Option.some_bind, Option.map_eq_some'] at noState
    obtain ⟨_, _, noState⟩ := noState
    simp [noState] at stated
  · exact .ite (fun _ => .pure' fun _ _ => id) fun _ => applies
  · exact applies

theorem restoreLoop_populated (observed : Observation) (configMapData : GoMap String)
    (nodepools : List String) :
    Triple (fun world _ => world.Populated) (restoreLoop observed configMapData nodepools)
      (fun _ world _ => world.Populated) fun _ _ => False := by
  induction nodepools with
  | nil => exact .pure' fun _ _ => id
  | cons nodepoolName rest induction =>
      refine .ite (fun _ => induction) fun _ => ?_
      refine (getNodePoolByName_triple _).bind fun result => ?_
      cases result with
      | error err => exact .pure' fun _ _ holds => holds.1
      | ok nodepool =>
      refine Triple.of_pre fun world log ⟨populated, found⟩ => ?_
      refine ((setDefaultScaling_populated (populated.poolNamed? (found _ rfl)) _).of_eq
        populated).bind fun result => ?_
      cases result with
      | error err => exact .ite (fun _ => .pure' fun _ _ => id) fun _ => .pure' fun _ _ => id
      | ok _ => exact (cordonNodesByAgentPool_populated _ _).bind fun _ => induction

theorem ConfigMapController.createConfigMap_populated (namespaceName name : String)
    (data : GoMap String) :
    Triple (fun world _ => world.Populated)
      (ConfigMapController.createConfigMap namespaceName name data)
      (fun _ world _ => world.Populated) fun _ _ => False := by
  refine (ConfigMapController.getConfigMap_triple _ _).bind fun result => ?_
  cases result with
  | ok _ => exact .pure' fun _ _ => id
  | error err =>
      refine (mutate_populated _ _ fun _ _ answer => ?_).bind fun result => ?_
      · split at answer <;> cases answer; rfl
      · cases result <;> exact .pure' fun _ _ => id

theorem ConfigMapController.deleteConfigMap_populated (namespaceName name : String) :
    Triple (fun world _ => world.Populated) (ConfigMapController.deleteConfigMap namespaceName name)
      (fun _ world _ => world.Populated) fun _ _ => False := by
  refine (mutate_populated _ _ fun _ _ answer => ?_).bind fun result => ?_
  · split at answer <;> cases answer; rfl
  · cases result with
    | ok _ => exact .pure' fun _ _ => id
    | error err => exact .ite (fun _ => .pure' fun _ _ => id) fun _ => .pure' fun _ _ => id

theorem removeTemporaryNodePool_populated (nodePoolName : String) :
    Triple (fun world _ => world.Populated) (removeTemporaryNodePool nodePoolName)
      (fun _ world _ => world.Populated) fun _ _ => False := by
  refine (AgentPoolClient.beginDelete_populated _).bind fun result => ?_
  cases result <;> exact .pure' fun _ _ => id

/-- The clean-up panics only on a not-found error from the read of the temporary pool,
which the agent-pool client never returns, and drains a pool it has just read. -/
theorem cleanUp_populated (observed : Observation) :
    Triple (fun world _ => world.Populated) (cleanUp observed)
      (fun _ world _ => world.Populated) fun _ _ => False := by
  unfold cleanUp
  refine .ite (fun _ => ?_) fun _ => .pure' fun _ _ => id
  refine (getNodePoolByName_answers _).bind fun result => ?_
  cases result with
  | error err =>
      refine .ite (fun notFound => .vacuous fun _ _ holds => ?_) fun _ =>
        .pure' fun _ _ holds => holds.1
      simp [holds.2.2 err rfl] at notFound
  | ok temporaryNodepool =>
  refine Triple.of_pre fun world log ⟨populated, found, _⟩ => ?_
  have temporary : ∀ entry ∈ [(temporaryNodepool.name, temporaryNodepool)],
      entry.2.populated = true := by
    simpa using populated.poolNamed? (found _ rfl)
  refine ((disableAutoScaling_populated _ temporary).of_eq populated).bind fun result => ?_
  cases result with
  | error err => exact .pure' fun _ _ => id
  | ok _ =>
  refine (getNodesByNodePool_triple _).bind fun result => ?_
  cases result with
  | error err => exact .pure' fun _ _ holds => holds.1
  | ok temporaryNodes =>
  refine ((performSafeEviction_populated _ temporary _).weaken (fun _ _ holds => holds.1)
    (fun _ _ _ => id) fun _ _ => id).bind fun _ => ?_
  refine (hasRunningStatefulPods_triple _ _).bind fun result => ?_
  cases result with
  | error err => exact .pure' fun _ _ holds => holds.1
  | ok running =>
  cases running with
  | true => exact .pure' fun _ _ holds => holds.1
  | false =>
  refine ((removeTemporaryNodePool_populated _).weaken (fun _ _ holds => holds.1)
    (fun _ _ _ => id) fun _ _ => id).bind fun result => ?_
  cases result with
  | error _ => exact .pure' fun _ _ => id
  | ok _ =>
  refine (ConfigMapController.deleteConfigMap_populated _ _).bind fun result => ?_
  cases result <;> exact .pure' fun _ _ => id

theorem configData_ok {outdatedNodePools : GoMap AgentPool}
    (scaled : ∀ entry ∈ outdatedNodePools, entry.2.scaled = true) :
    ∃ data, configData outdatedNodePools = .ok data := by
  suffices all : ∀ (entries : GoMap AgentPool) (written : GoMap String),
      (∀ entry ∈ entries, entry.2.scaled = true) → ∃ data,
        entries.foldlM (fun data entry => (Json.scalingEntry entry.2).map (data.insert entry.1))
          written = .ok data from all _ [] scaled
  intro entries
  induction entries with
  | nil => exact fun written _ => ⟨written, rfl⟩
  | cons entry rest induction =>
      intro written scaled
      have decodes := scalingEntry_decodes entry.2
      cases recorded : entry.2.properties.bind recordedScaling with
      | none =>
          have unscaled := scaled entry (List.mem_cons_self _ _)
          simp [AgentPool.scaled, recorded] at unscaled
      | some scaling =>
          rw [recorded] at decodes
          obtain ⟨text, encoded, -⟩ := decodes
          simp only [List.foldlM_cons, encoded, Except.map]
          exact induction _ fun other member => scaled other (List.mem_cons_of_mem _ member)

theorem createTemporaryNodePool_populated (newNodePoolName sourceNodePoolName : String) :
    Triple (fun world _ => world.Populated)
      (createTemporaryNodePool newNodePoolName sourceNodePoolName)
      (fun _ world _ => world.Populated) fun _ _ => False := by
  refine (query_triple _ _).bind fun result => ?_
  cases result with
  | error err => exact .pure' fun _ _ holds => holds.1
  | ok sourceNodePool =>
  refine Triple.of_pre fun world log ⟨populated, served⟩ => ?_
  obtain ⟨properties, present, scaled, -⟩ :=
    AgentPool.populated_iff.mp (populated.poolNamed? (agentPool_of_get (served _ rfl)))
  simp only [present]
  refine ((AgentPoolClient.beginCreateOrUpdate_populated _ ?_).of_eq populated).bind
    fun result => ?_
  · exact scaled
  · cases result <;> exact .pure' fun _ _ => id

section Observed

variable {observed : Observation}
  (outdated : ∀ entry ∈ observed.outdatedNodePools, entry.2.populated = true)

include outdated

theorem drainAndUpgrade_populated (configMapData : GoMap String) :
    Triple (fun world _ => world.Populated) (drainAndUpgrade observed configMapData)
      (fun _ world _ => world.Populated) fun _ _ => False := by
  unfold drainAndUpgrade
  refine (performSafeEviction_populated _ outdated _).bind fun result => ?_
  cases result with
  | error err => exact .pure' fun _ _ => id
  | ok _ =>
  refine (upgradeLoop_populated _ _).bind fun result => ?_
  cases result with
  | some _ => exact .pure' fun _ _ => id
  | none =>
  refine (nextOrder_reads _).triple.bind fun order => ?_
  refine ((restoreLoop_populated _ _ _).weaken (fun _ _ holds => holds.1) (fun _ _ _ => id)
    fun _ _ => id).bind fun result => ?_
  cases result with
  | some _ => exact .pure' fun _ _ => id
  | none => exact cleanUp_populated observed

theorem recordScaling_populated :
    Triple (fun world _ => world.Populated) (recordScaling observed)
      (fun _ world _ => world.Populated) fun _ _ => False := by
  refine (ConfigMapController.getConfigMapData_triple _ _).bind fun result => ?_
  cases result with
  | ok configMapData => exact drainAndUpgrade_populated outdated _
  | error err =>
  refine .ite (fun _ => ?_) fun _ => .pure' fun _ _ => id
  refine (nextOrder_reads _).triple.bind fun order => Triple.of_pre fun _ _ ⟨holds, permuted⟩ => ?_
  obtain ⟨data, encoded⟩ := configData_ok fun entry member =>
    AgentPool.scaled_of_populated (outdated entry (permuted.subset member))
  simp only [encoded]
  refine ((ConfigMapController.createConfigMap_populated _ _ _).of_eq holds).bind fun result => ?_
  cases result with
  | error err => exact .pure' fun _ _ => id
  | ok _ => exact drainAndUpgrade_populated outdated _

theorem awaitTemporaryNodepool_populated :
    Triple (fun world _ => world.Populated) (awaitTemporaryNodepool observed)
      (fun _ world _ => world.Populated) fun _ _ => False := by
  refine (getNodePoolProvisioningState_triple _).bind fun result => ?_
  cases result with
  | error err => exact .pure' fun _ _ holds => holds.1
  | ok status =>
      exact .ite (fun _ => .pure' fun _ _ holds => holds.1) fun _ =>
        (recordScaling_populated outdated).weaken (fun _ _ holds => holds.1) (fun _ _ _ => id)
          fun _ _ => id

theorem ensureTemporaryNodepool_populated :
    Triple (fun world _ => world.Populated) (ensureTemporaryNodepool observed)
      (fun _ world _ => world.Populated) fun _ _ => False := by
  refine (nodePoolExists_triple _).bind fun result => ?_
  cases result with
  | error err => exact .pure' fun _ _ => id
  | ok present =>
  cases present with
  | true => exact awaitTemporaryNodepool_populated outdated
  | false =>
  refine .ite (fun _ => ?_) fun _ => ?_
  · refine (ConfigMapController.deleteConfigMap_populated _ _).bind fun result => ?_
    cases result <;> exact .pure' fun _ _ => id
  · refine (createTemporaryNodePool_populated _ _).bind fun result => ?_
    cases result with
    | error _ => exact .pure' fun _ _ => id
    | ok _ => exact awaitTemporaryNodepool_populated outdated

end Observed

/-- One invocation of `Reconcile` from a populated cluster returns, and leaves the
cluster populated: the pools it observes as outdated were read from it. -/
theorem reconcile_populated (config : Config) (namespaceName name : String) :
    Triple (fun world _ => world.Populated) (reconcile config namespaceName name)
      (fun _ world _ => world.Populated) fun _ _ => False := by
  refine (Kube.getSafeEvict_triple _ _).bind fun result => ?_
  cases result with
  | error err => exact .pure' fun _ _ holds => holds.1
  | ok safeEvict =>
  refine (updateNeeded_triple _).bind fun result => ?_
  cases result with
  | error err => exact .pure' fun _ _ holds => holds.1.1
  | ok outdated =>
  obtain ⟨outdatedNodes, outdatedNodePools⟩ := outdated
  refine (getNotReadyNodePoolsLoop_triple _ _).bind fun result => ?_
  cases result with
  | error err => exact .pure' fun _ _ holds => holds.1.1.1
  | ok notReady =>
  refine (nextOrder_reads _).triple.bind fun order => ?_
  refine Triple.of_pre
    fun world log ⟨⟨⟨⟨populated, _⟩, outdatedFacts⟩, notReadyFacts⟩, permuted⟩ => ?_
  refine (ensureTemporaryNodepool_populated fun entry member => ?_).of_eq populated
  rcases GoMap.mem_insertAll member with fromOutdated | fromOrder
  · exact populated.poolNamed? ((outdatedFacts _ _ rfl).2 entry fromOutdated)
  · exact populated.poolNamed?
      (((notReadyFacts _ rfl).2 entry (permuted.subset fromOrder)).resolve_left (by simp))

end Blocks

/-! ## Runs -/

theorem reconcile_returns (config : Config) (namespaceName name : String) {world : World}
    (populated : world.Populated) (faults : List Fault) (orders : List (List Nat)) :
    ∃ result after, SafeEvictReconciler.reconcile config namespaceName name
        (Session.start world faults orders) =
      .ok result after ∧ after.world.Populated := by
  have holds := reconcile_populated config namespaceName name
    (Session.start world faults orders) populated
  revert holds
  cases SafeEvictReconciler.reconcile config namespaceName name
      (Session.start world faults orders) with
  | ok result after => exact fun populated => ⟨result, after, rfl, populated⟩
  | error _ _ => exact False.elim

theorem run_populated (config : Config) {world : World} (populated : world.Populated)
    (moves : List Move) :
    (run config world moves).1.Populated ∧
      ∀ invocation ∈ (run config world moves).2, invocation.start.Populated := by
  induction moves generalizing world with
  | nil => exact ⟨populated, by simp [run]⟩
  | cons move moves induction =>
      cases move with
      | reconcile namespaceName name faults orders =>
          obtain ⟨result, after, returned, afterPopulated⟩ :=
            reconcile_returns config namespaceName name populated faults orders
          have invoked : (invoke config namespaceName name world faults orders).world =
              after.world := by
            simp only [invoke, returned, finalSession]
          obtain ⟨ends, starts⟩ := induction (invoked ▸ afterPopulated)
          refine ⟨ends, fun invocation member => ?_⟩
          rcases List.mem_cons.mp member with rfl | later
          · exact populated
          · exact starts invocation later
      | change change => exact induction (change.apply_populated populated)

/-- The run lemma: from a populated cluster no invocation of any run panics, whatever
the servers answer, whatever order its map iterations take and whatever the outside
changes between invocations; and the run ends in a populated cluster. -/
theorem run_never_panics (config : Config) (world : World) (populated : world.Populated)
    (moves : List Move) :
    (run config world moves).1.Populated ∧
      ∀ invocation ∈ (run config world moves).2, ∀ faults orders, ∃ result after,
        SafeEvictReconciler.reconcile config invocation.namespaceName invocation.name
          (Session.start invocation.start faults orders) = .ok result after ∧
        after.world.Populated :=
  ⟨(run_populated config populated moves).1, fun invocation member =>
    reconcile_returns config invocation.namespaceName invocation.name
      ((run_populated config populated moves).2 invocation member)⟩

open Scenario in
theorem draining_never_panics : draining.Populated ∧
    ((run config draining once).1.Populated ∧
      ∀ invocation ∈ (run config draining once).2, ∀ faults orders, ∃ result after,
        SafeEvictReconciler.reconcile config invocation.namespaceName invocation.name
          (Session.start invocation.start faults orders) = .ok result after ∧
        after.world.Populated) :=
  ⟨by decide, run_never_panics config draining (by decide) once⟩

end NodeUpdater
