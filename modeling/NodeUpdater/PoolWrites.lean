import NodeUpdater.Failures

/-! # What `Reconcile` writes back to pools and nodes

The pool writes and uncordons `Allowed` leaves open, pinned down: no invocation uncordons
a node of a pool that was stale when it started. -/

namespace NodeUpdater

open NodePoolController SafeEvictReconciler

/-- A pool the campaign's record lists, as the start holds the record. -/
def Recorded (start : World) (namespaceName : String) (safeEvict : SafeEvict)
    (poolName : String) : Prop :=
  ∃ configMap ∈ start.configMaps, configMap.namespaceName = namespaceName ∧
    configMap.name = safeEvict.getConfigmapName ∧ poolName ∈ configMap.data.keys

/-- What `Reconcile` of `safeEvict`, started in `start`, may write to a pool or send to a
node besides a cordon, in `world`, the world the request goes out in: the temporary pool
created as a clone of the base pool as the start holds it; autoscaling switched off, on a
stale pool with the properties the start holds for it, or on the temporary pool with the
properties `world` holds for it (unless `world` already holds what this write leaves, as
when the clean-up repeats it); a recorded pool that is no longer stale, written under its
own name; and the uncordon of a node of such a pool. -/
def WriteBack (start : World) (namespaceName : String) (safeEvict : SafeEvict) (world : World) :
    Request → Prop
  | .createOrUpdatePool name agentPool =>
      (name = safeEvict.getTemporaryNodepoolName ∧ ∃ source,
        (start.poolNamed? safeEvict.spec.baseForBackupPool).bind (·.agentPool.properties) =
          some source ∧ agentPool = ⟨"", some (clonedProperties source)⟩) ∨
      (∃ properties, agentPool = ⟨name, some { properties with enableAutoScaling := some false }⟩ ∧
        (Stale start safeEvict.spec name ∧
            (start.poolNamed? name).bind (·.agentPool.properties) = some properties ∨
          name = safeEvict.getTemporaryNodepoolName ∧
            ((world.poolNamed? name).bind (·.agentPool.properties) = some properties ∨
              (world.poolNamed? name).map (·.agentPool) = some ⟨name, agentPool.properties.map
                fun properties => { properties with provisioningState := some "Updating" }⟩))) ∨
      (agentPool.name = name ∧ ¬Stale start safeEvict.spec name ∧
        Recorded start namespaceName safeEvict name)
  | .updateNode node => node.unschedulable = false → ∃ poolName,
      node.agentPool = some poolName ∧ ¬Stale start safeEvict.spec poolName ∧
        Recorded start namespaceName safeEvict poolName
  | _ => True

/-- Every pool write and every uncordon of the log is a write-back `Reconcile` may send. -/
def WritesBack (start : World) (namespaceName : String) (safeEvict : SafeEvict) : Assertion :=
  fun _ log => ∀ entry ∈ log, WriteBack start namespaceName safeEvict entry.world entry.request

/-- A pool the drain hands `DisableAutoScaling`: a stale pool as the start holds it. -/
def Disabling (start : World) (safeEvict : SafeEvict) (agentPool : AgentPool) : Prop :=
  Stale start safeEvict.spec agentPool.name ∧
    (start.poolNamed? agentPool.name).map (·.agentPool) = some agentPool

/-- The worlds the clean-up's switch-offs of the temporary pool's autoscaling go out in:
the world it read the pool in, before or after the first switch-off was carried out. -/
def SwitchingOff (read : World) (agentPool : AgentPool) (world : World) : Prop :=
  world = read ∨ ∃ properties, agentPool.properties = some properties ∧
    world = read.updatePool agentPool.name (some { properties with enableAutoScaling := some false })

variable {start : World} {namespaceName : String} {safeEvict : SafeEvict} {halt : Assertion}

theorem WritesBack.snoc {world : World} {log : List Entry} {entry : Entry}
    (holds : WritesBack start namespaceName safeEvict world log)
    (writeBack : WriteBack start namespaceName safeEvict entry.world entry.request)
    (updated : World) :
    WritesBack start namespaceName safeEvict updated (log ++ [entry]) := by
  intro other member
  rcases List.mem_append.mp member with old | new
  · exact holds other old
  · exact List.mem_singleton.mp new ▸ writeBack

theorem World.updatePool_updatePool (world : World) (name : String)
    (properties : Option AgentPoolProperties) :
    (world.updatePool name properties).updatePool name properties =
      world.updatePool name properties := by
  refine World.ext rfl ?_ rfl rfl rfl rfl rfl rfl
  simp only [World.updatePool, List.map_map]
  congr 1
  funext cloudPool
  by_cases named : cloudPool.agentPool.name = name <;> simp [named]

theorem World.poolNamed?_updatePool (world : World) (name : String)
    (properties : Option AgentPoolProperties) :
    ((world.updatePool name properties).poolNamed? name).map (·.agentPool) =
      (world.poolNamed? name).map fun _ => ⟨name, properties.map fun properties =>
        { properties with provisioningState := some "Updating" }⟩ := by
  unfold World.updatePool
  rw [World.poolNamed?_map _ _ fun cloudPool => by
    by_cases named : cloudPool.agentPool.name = name <;> simp [named]]
  cases found : world.poolNamed? name with
  | none => rfl
  | some cloudPool =>
      have named : cloudPool.agentPool.name = name :=
        World.agentPool_name_of_poolNamed? (by rw [found]; rfl)
      simp [named]

namespace SwitchingOff

variable {read world : World} {agentPool : AgentPool} {properties : AgentPoolProperties}

theorem pinned (found : (read.poolNamed? agentPool.name).map (·.agentPool) = some agentPool)
    (present : agentPool.properties = some properties)
    (switching : SwitchingOff read agentPool world) :
    (world.poolNamed? agentPool.name).bind (·.agentPool.properties) = some properties ∨
      (world.poolNamed? agentPool.name).map (·.agentPool) = some ⟨agentPool.name,
        (some { properties with enableAutoScaling := some false }).map fun properties =>
          { properties with provisioningState := some "Updating" }⟩ := by
  rcases switching with rfl | ⟨properties', present', rfl⟩
  · left
    cases named : world.poolNamed? agentPool.name with
    | none => simp [named] at found
    | some cloudPool =>
        simp only [named, Option.map_some', Option.some.injEq] at found
        simp [found, present]
  · right
    cases present.symm.trans present'
    rw [World.poolNamed?_updatePool]
    cases named : read.poolNamed? agentPool.name with
    | none => simp [named] at found
    | some _ => rfl

theorem isSome (found : (read.poolNamed? agentPool.name).map (·.agentPool) = some agentPool)
    (present : agentPool.properties = some properties)
    (switching : SwitchingOff read agentPool world) :
    (world.poolNamed? agentPool.name).isSome := by
  rcases switching.pinned found present with held | held <;>
    cases named : world.poolNamed? agentPool.name <;> simp_all

theorem switchedOff (present : agentPool.properties = some properties)
    (switching : SwitchingOff read agentPool world) :
    SwitchingOff read agentPool
      (world.updatePool agentPool.name (some { properties with enableAutoScaling := some false })) := by
  refine .inr ⟨properties, present, ?_⟩
  rcases switching with rfl | ⟨properties', present', rfl⟩
  · rfl
  · cases present.symm.trans present'
    exact World.updatePool_updatePool _ _ _

end SwitchingOff

/-! ## The requests -/

theorem mutate_writesBack (failure : Fault → GoError) {request : Request}
    (serve : World → Except GoError World)
    (writeBack : ∀ world, WriteBack start namespaceName safeEvict world request) :
    Triple (WritesBack start namespaceName safeEvict) (mutate failure request serve)
      (fun _ => WritesBack start namespaceName safeEvict) halt :=
  mutate_triple _ _ _ (fun world _ updated holds _ => holds.snoc (writeBack world) updated)
    fun world _ _ holds => holds.snoc (writeBack world) world

theorem Devops.send_writesBack {request : Request} (successCode : Nat)
    (serve : World → Option World)
    (writeBack : ∀ world, WriteBack start namespaceName safeEvict world request) :
    Triple (WritesBack start namespaceName safeEvict) (Devops.send request successCode serve)
      (fun _ => WritesBack start namespaceName safeEvict) halt :=
  Devops.send_triple _ _ _ (fun world _ updated holds _ => holds.snoc (writeBack world) updated)
    fun world _ _ holds => holds.snoc (writeBack world) world

/-! ## Draining: cordons, evictions, autoscaling off -/

section Draining

theorem setUnschedulable_writesBack (toCordon : Bool) (nodes : List Node)
    (restorable : toCordon = false → ∀ node ∈ nodes, ∃ poolName, node.agentPool = some poolName ∧
      ¬Stale start safeEvict.spec poolName ∧ Recorded start namespaceName safeEvict poolName) :
    Triple (WritesBack start namespaceName safeEvict) (setUnschedulable toCordon nodes)
      (fun _ => WritesBack start namespaceName safeEvict) halt := by
  induction nodes with
  | nil => exact .pure' fun _ _ => id
  | cons node rest induction =>
      refine (mutate_writesBack _ _ ?_).bind fun result => ?_
      · exact fun _ uncordon => restorable uncordon node (List.mem_cons_self _ _)
      · cases result with
        | error err => exact .pure' fun _ _ => id
        | ok _ => exact induction fun uncordon other member =>
            restorable uncordon other (List.mem_cons_of_mem _ member)

theorem cordonNodesByAgentPool_writesBack (nodePoolName : String) (toCordon : Bool)
    (restorable : toCordon = false → ¬Stale start safeEvict.spec nodePoolName ∧
      Recorded start namespaceName safeEvict nodePoolName) :
    Triple (WritesBack start namespaceName safeEvict) (cordonNodesByAgentPool nodePoolName toCordon)
      (fun _ => WritesBack start namespaceName safeEvict) halt := by
  refine (getNodesByNodePool_triple _).bind fun result => ?_
  cases result with
  | error err => exact .pure' fun _ _ holds => holds.1
  | ok nodes =>
  refine .of_pre fun world log ⟨holds, listed⟩ => ?_
  refine ((setUnschedulable_writesBack _ _ fun uncordon node member => ?_).of_eq holds)
  rw [listed _ rfl, List.mem_filter] at member
  exact ⟨nodePoolName, by simpa using member.2, restorable uncordon⟩

theorem JobController.killJobByPod_writesBack (pod : Pod) :
    Triple (WritesBack start namespaceName safeEvict) (JobController.killJobByPod pod)
      (fun _ => WritesBack start namespaceName safeEvict) halt := by
  refine .ite (fun _ => .pure' fun _ _ => id) fun _ =>
    .ite (fun _ => .pure' fun _ _ => id) fun _ => ?_
  refine (mutate_writesBack _ _ ?_).bind fun result => ?_
  · exact fun _ => trivial
  · cases result <;> exact .pure' fun _ _ => id

theorem PodController.killPod_writesBack (pod : Pod) :
    Triple (WritesBack start namespaceName safeEvict) (PodController.killPod pod)
      (fun _ => WritesBack start namespaceName safeEvict) halt := by
  refine (mutate_writesBack _ _ ?_).bind fun result => ?_
  · exact fun _ => trivial
  · cases result <;> exact .pure' fun _ _ => id

theorem PodController.evictIdlePods_writesBack (pods : List Pod) :
    Triple (WritesBack start namespaceName safeEvict) (PodController.evictIdlePods pods)
      (fun _ => WritesBack start namespaceName safeEvict) halt := by
  induction pods with
  | nil => exact .pure' fun _ _ => id
  | cons pod rest induction =>
      refine (getPodsPool_triple _ _).bind fun result => ?_
      cases result with
      | error err => exact .pure' fun _ _ holds => holds.1
      | ok poolName =>
      refine ((AzureDevopsController.agentRequest_keeps _ _ _ _ fun _ _ =>
        Devops.send_writesBack _ _ ?_).weaken (fun _ _ holds => holds.1) (fun _ _ _ => id)
        fun _ _ => id).bind fun result => ?_
      · exact fun _ => trivial
      cases result with
      | error err => exact .pure' fun _ _ => id
      | ok _ =>
      refine (AzureDevopsController.agentRequest_keeps _ _ _ _ fun _ _ =>
        Devops.send_writesBack _ _ ?_).bind fun result => ?_
      · exact fun _ => trivial
      cases result with
      | error err => exact .pure' fun _ _ => id
      | ok _ =>
      refine (JobController.killJobByPod_writesBack pod).bind fun result => ?_
      cases result with
      | error err => exact .pure' fun _ _ => id
      | ok _ =>
      refine (killPod_writesBack pod).bind fun result => ?_
      cases result with
      | error err => exact .pure' fun _ _ => id
      | ok _ => exact induction

theorem evictionLoop_writesBack (spec : SafeEvictSpec) (poolNames : List String) :
    Triple (WritesBack start namespaceName safeEvict) (evictionLoop spec poolNames)
      (fun _ => WritesBack start namespaceName safeEvict) halt := by
  induction poolNames with
  | nil => exact .pure' fun _ _ => id
  | cons poolName rest induction =>
      refine (cordonNodesByAgentPool_writesBack _ _ ?_).bind fun result => ?_
      · intro uncordon
        cases uncordon
      cases result with
      | error err => exact .pure' fun _ _ => id
      | ok _ =>
      refine (PodController.getSafeToEvictPods_triple _).bind fun result => ?_
      cases result with
      | error err => exact .pure' fun _ _ holds => holds.1
      | ok pods =>
      refine (getNodesByNodePool_triple _).bind fun result => ?_
      cases result with
      | error err => exact .pure' fun _ _ holds => holds.1.1
      | ok nodes =>
      refine ((PodController.evictIdlePods_writesBack _).weaken (fun _ _ holds => holds.1.1)
        (fun _ _ _ => id) fun _ _ => id).bind fun result => ?_
      cases result with
      | error err => exact .pure' fun _ _ => id
      | ok _ => exact induction

/-- One pass of the loop of `DisableAutoScaling`: the pool is skipped, stops the loop, or is
written back, and the loop goes on. -/
theorem disableAutoScalingLoop_cons {pre post halt : Assertion} {name : String}
    {agentPool : AgentPool} {rest : GoMap AgentPool}
    (returns : ∀ world log, pre world log → post world log)
    (halts : ∀ world log, pre world log → halt world log)
    (continues : Triple pre (disableAutoScalingLoop rest) (fun _ => post) halt)
    (sent : ∀ properties, agentPool.properties = some properties →
      Triple pre (AgentPoolClient.beginCreateOrUpdate agentPool.name
        ⟨agentPool.name, some { properties with enableAutoScaling := some false }⟩)
        (fun _ => pre) halt) :
    Triple pre (disableAutoScalingLoop ((name, agentPool) :: rest)) (fun _ => post) halt := by
  have write : ∀ properties, agentPool.properties = some properties →
      Triple pre (disableAutoScalingWrite agentPool properties (disableAutoScalingLoop rest))
        (fun _ => post) halt := fun properties present =>
    (sent properties present).bind fun result => by
      cases result with
      | error err => exact .ite (fun _ => .pure' returns) fun _ => .pure' returns
      | ok _ => exact continues
  unfold disableAutoScalingLoop
  split
  · exact .pure' returns
  · rename_i properties present
    split
    · exact continues
    · exact .throw' halts
    · exact .ite (fun _ => continues) fun _ => write properties present
    · exact write properties present

theorem disableAutoScalingLoop_writesBack (agentPools : GoMap AgentPool)
    (disabling : ∀ entry ∈ agentPools, Disabling start safeEvict entry.2) :
    Triple (WritesBack start namespaceName safeEvict) (disableAutoScalingLoop agentPools)
      (fun _ => WritesBack start namespaceName safeEvict)
      (WritesBack start namespaceName safeEvict) := by
  induction agentPools with
  | nil => exact .pure' fun _ _ => id
  | cons entry rest induction =>
      obtain ⟨_, agentPool⟩ := entry
      obtain ⟨stale, found⟩ : Disabling start safeEvict agentPool :=
        disabling _ (List.mem_cons_self _ _)
      refine disableAutoScalingLoop_cons (fun _ _ => id) (fun _ _ => id)
        (induction fun entry member => disabling entry (List.mem_cons_of_mem _ member))
        fun properties present => mutate_writesBack _ _ fun _ =>
          .inr (.inl ⟨properties, rfl, .inl ⟨stale, ?_⟩⟩)
      cases named : start.poolNamed? agentPool.name with
      | none => simp [named] at found
      | some cloudPool =>
          simp only [named, Option.map_some', Option.some.injEq] at found
          simp [found, present]

theorem disableAutoScaling_writesBack (agentPools : GoMap AgentPool)
    (disabling : ∀ entry ∈ agentPools, Disabling start safeEvict entry.2) :
    Triple (WritesBack start namespaceName safeEvict) (disableAutoScaling agentPools)
      (fun _ => WritesBack start namespaceName safeEvict)
      (WritesBack start namespaceName safeEvict) := by
  refine (nextOrder_reads _).triple.bind fun order => Triple.of_pre fun _ _ ⟨holds, permuted⟩ => ?_
  exact (disableAutoScalingLoop_writesBack order fun entry member =>
    disabling entry (permuted.subset member)).of_eq holds

/-- The clean-up's switch-off of the temporary pool's autoscaling, sent again by
`performSafeEviction`, writes the pool as the clean-up read it. -/
theorem disableTemporary_writesBack {read : World} {agentPool : AgentPool}
    (found : (read.poolNamed? agentPool.name).map (·.agentPool) = some agentPool)
    (temporary : agentPool.name = safeEvict.getTemporaryNodepoolName) :
    Triple (fun world log => SwitchingOff read agentPool world ∧
        WritesBack start namespaceName safeEvict world log)
      (disableAutoScaling [(agentPool.name, agentPool)])
      (fun _ world log => SwitchingOff read agentPool world ∧
        WritesBack start namespaceName safeEvict world log)
      (WritesBack start namespaceName safeEvict) := by
  have loop : Triple (fun world log => SwitchingOff read agentPool world ∧
        WritesBack start namespaceName safeEvict world log)
      (disableAutoScalingLoop [(agentPool.name, agentPool)])
      (fun _ world log => SwitchingOff read agentPool world ∧
        WritesBack start namespaceName safeEvict world log)
      (WritesBack start namespaceName safeEvict) :=
    disableAutoScalingLoop_cons (fun _ _ => id) (fun _ _ holds => holds.2) (.pure' fun _ _ => id)
      fun properties present => by
      have writeBack : ∀ world, SwitchingOff read agentPool world →
          WriteBack start namespaceName safeEvict world (.createOrUpdatePool agentPool.name
            ⟨agentPool.name, some { properties with enableAutoScaling := some false }⟩) :=
        fun _ switching =>
          .inr (.inl ⟨properties, rfl, .inr ⟨temporary, switching.pinned found present⟩⟩)
      refine mutate_triple _ _ _ (fun world _ updated ⟨switching, holds⟩ served => ?_)
        fun world _ _ ⟨switching, holds⟩ => ⟨switching, holds.snoc (writeBack world switching) world⟩
      simp only [switching.isSome found present, if_true, Except.ok.injEq] at served
      subst served
      exact ⟨switching.switchedOff present, holds.snoc (writeBack world switching) _⟩
  refine (nextOrder_reads _).triple.bind fun order => Triple.of_pre fun _ _ ⟨holds, permuted⟩ => ?_
  obtain rfl := List.perm_singleton.mp permuted
  exact loop.of_eq holds

theorem performSafeEviction_writesBack {pre : Assertion} (outdatedNodePools : GoMap AgentPool)
    (campaign : SafeEvict)
    (disables : Triple pre (disableAutoScaling outdatedNodePools)
      (fun _ => WritesBack start namespaceName safeEvict) (WritesBack start namespaceName safeEvict)) :
    Triple pre (performSafeEviction outdatedNodePools campaign)
      (fun _ => WritesBack start namespaceName safeEvict)
      (WritesBack start namespaceName safeEvict) := by
  refine disables.bind fun result => ?_
  cases result with
  | error err => exact .pure' fun _ _ => id
  | ok _ =>
      exact (nextOrder_reads _).triple.bind fun _ => (evictionLoop_writesBack _ _).weaken
        (fun _ _ holds => holds.1) (fun _ _ _ => id) fun _ _ => id

end Draining

/-! ## Upgrading, restoring and cleaning up -/

section Restoring

theorem upgradeNodeImageVersion_writesBack (nodepool : AgentPool) :
    Triple (WritesBack start namespaceName safeEvict) (upgradeNodeImageVersion nodepool)
      (fun _ => WritesBack start namespaceName safeEvict) halt := by
  unfold upgradeNodeImageVersion
  split
  · exact .pure' fun _ _ => id
  · exact .pure' fun _ _ => id
  · refine (getNodeImageVersions_triple _).bind fun result => ?_
    cases result with
    | error err => exact .pure' fun _ _ holds => holds.1
    | ok versions =>
    refine (getNodePoolUpgradeProfile_triple _).bind fun result => ?_
    cases result with
    | error err => exact .pure' fun _ _ holds => holds.1.1
    | ok latest =>
    refine .ite (fun _ => .pure' fun _ _ holds => holds.1.1) fun _ => ?_
    refine ((mutate_writesBack _ _ ?_).weaken (fun _ _ holds => holds.1.1) (fun _ _ _ => id)
      fun _ _ => id).bind fun result => ?_
    · exact fun _ => trivial
    · cases result <;> exact .pure' fun _ _ => id

theorem upgradeLoop_writesBack (observed : Observation) (nodepools : List String) :
    Triple (WritesBack start namespaceName safeEvict) (upgradeLoop observed nodepools)
      (fun _ => WritesBack start namespaceName safeEvict) halt := by
  induction nodepools with
  | nil => exact .pure' fun _ _ => id
  | cons nodepoolName rest induction =>
      refine (getNodesByNodePool_triple _).bind fun result => ?_
      cases result with
      | error err => exact .pure' fun _ _ holds => holds.1
      | ok nodes =>
      refine (hasRunningStatefulPods_triple _ _).bind fun result => ?_
      cases result with
      | error err => exact .pure' fun _ _ holds => holds.1.1
      | ok running =>
      cases running with
      | true => exact induction.weaken (fun _ _ holds => holds.1.1) (fun _ _ _ => id) fun _ _ => id
      | false =>
      refine (getNodePoolByName_triple _).bind fun result => ?_
      cases result with
      | error err => exact .pure' fun _ _ holds => holds.1.1.1
      | ok nodepool =>
      refine .ite (fun _ => .pure' fun _ _ holds => holds.1.1.1) fun _ => ?_
      refine ((upgradeNodeImageVersion_writesBack nodepool).weaken (fun _ _ holds => holds.1.1.1)
        (fun _ _ _ => id) fun _ _ => id).bind fun result => ?_
      cases result with
      | error err => exact .pure' fun _ _ => id
      | ok _ => exact induction

theorem setDefaultScaling_writesBack (nodepool : AgentPool) (scalingData : String)
    (restorable : ¬Stale start safeEvict.spec nodepool.name ∧
      Recorded start namespaceName safeEvict nodepool.name) :
    Triple (WritesBack start namespaceName safeEvict) (setDefaultScaling nodepool scalingData)
      (fun _ => WritesBack start namespaceName safeEvict)
      (WritesBack start namespaceName safeEvict) := by
  have write : ∀ submitted : AgentPool, submitted.name = nodepool.name →
      Triple (WritesBack start namespaceName safeEvict) (scalingWrite nodepool submitted)
        (fun _ => WritesBack start namespaceName safeEvict)
        (WritesBack start namespaceName safeEvict) := by
    intro submitted named
    refine (mutate_writesBack _ _ ?_).bind fun result => ?_
    · exact fun _ => .inr (.inr ⟨named, restorable⟩)
    cases result with
    | error err => exact .ite (fun _ => .pure' fun _ _ => id) fun _ => .pure' fun _ _ => id
    | ok _ => exact .pure' fun _ _ => id
  have applies : Triple (WritesBack start namespaceName safeEvict)
      (applyScalingData nodepool scalingData) (fun _ => WritesBack start namespaceName safeEvict)
      (WritesBack start namespaceName safeEvict) := by
    unfold applyScalingData
    split
    · exact .pure' fun _ _ => id
    · split
      · exact .ite (fun _ => .throw' fun _ _ => id) fun _ => write _ rfl
      · split
        · exact .pure' fun _ _ => id
        · exact write _ rfl
  unfold setDefaultScaling
  split
  · exact .throw' fun _ _ => id
  · exact .ite (fun _ => .pure' fun _ _ => id) fun _ => applies
  · exact applies

theorem restoreLoop_writesBack (observed : Observation) (configMapData : GoMap String)
    (nodepools : List String)
    (restorable : ∀ name ∈ nodepools, name ∉ observed.outdatedNodePools.keys →
      ¬Stale start safeEvict.spec name ∧ Recorded start namespaceName safeEvict name) :
    Triple (WritesBack start namespaceName safeEvict) (restoreLoop observed configMapData nodepools)
      (fun _ => WritesBack start namespaceName safeEvict)
      (WritesBack start namespaceName safeEvict) := by
  induction nodepools with
  | nil => exact .pure' fun _ _ => id
  | cons nodepoolName rest induction =>
      have continues := induction fun name member =>
        restorable name (List.mem_cons_of_mem _ member)
      refine .ite (fun _ => continues) fun notOutdated => ?_
      have target := restorable _ (List.mem_cons_self _ _) notOutdated
      refine (getNodePoolByName_triple _).bind fun result => ?_
      cases result with
      | error err => exact .pure' fun _ _ holds => holds.1
      | ok nodepool =>
      refine .of_pre fun world log ⟨holds, found⟩ => ?_
      have named := World.agentPool_name_of_poolNamed? (found _ rfl)
      refine ((setDefaultScaling_writesBack _ _ (named ▸ target)).of_eq holds).bind
        fun result => ?_
      cases result with
      | error err => exact .ite (fun _ => .pure' fun _ _ => id) fun _ => .pure' fun _ _ => id
      | ok _ =>
          exact (cordonNodesByAgentPool_writesBack _ _ fun _ => target).bind fun _ => continues

theorem ConfigMapController.deleteConfigMap_writesBack (namespaceName' name : String) :
    Triple (WritesBack start namespaceName safeEvict)
      (ConfigMapController.deleteConfigMap namespaceName' name)
      (fun _ => WritesBack start namespaceName safeEvict) halt := by
  refine (mutate_writesBack _ _ ?_).bind fun result => ?_
  · exact fun _ => trivial
  cases result with
  | ok _ => exact .pure' fun _ _ => id
  | error err => exact .ite (fun _ => .pure' fun _ _ => id) fun _ => .pure' fun _ _ => id

theorem ConfigMapController.createConfigMap_writesBack (namespaceName' name : String)
    (data : GoMap String) :
    Triple (WritesBack start namespaceName safeEvict)
      (ConfigMapController.createConfigMap namespaceName' name data)
      (fun _ => WritesBack start namespaceName safeEvict) halt := by
  refine (ConfigMapController.getConfigMap_triple _ _).bind fun result => ?_
  cases result with
  | ok _ => exact .pure' fun _ _ => id
  | error err =>
      refine (mutate_writesBack _ _ ?_).bind fun result => ?_
      · exact fun _ => trivial
      · cases result <;> exact .pure' fun _ _ => id

theorem removeTemporaryNodePool_writesBack (nodePoolName : String) :
    Triple (WritesBack start namespaceName safeEvict) (removeTemporaryNodePool nodePoolName)
      (fun _ => WritesBack start namespaceName safeEvict) halt := by
  refine (mutate_writesBack _ _ ?_).bind fun result => ?_
  · exact fun _ => trivial
  · cases result <;> exact .pure' fun _ _ => id

variable {observed : Observation} (facts : Observed start safeEvict observed)

include facts

theorem cleanUp_writesBack :
    Triple (WritesBack start namespaceName safeEvict) (cleanUp observed)
      (fun _ => WritesBack start namespaceName safeEvict)
      (WritesBack start namespaceName safeEvict) := by
  unfold cleanUp
  refine .ite (fun _ => ?_) fun _ => .pure' fun _ _ => id
  refine (getNodePoolByName_triple _).bind fun result => ?_
  cases result with
  | error err =>
      exact .ite (fun _ => .throw' fun _ _ holds => holds.1) fun _ =>
        .pure' fun _ _ holds => holds.1
  | ok temporaryNodepool =>
  refine .of_pre fun world log ⟨holds, found⟩ => ?_
  have named := World.agentPool_name_of_poolNamed? (found _ rfl)
  have read : (world.poolNamed? temporaryNodepool.name).map (·.agentPool) =
      some temporaryNodepool := by
    rw [named]
    exact found _ rfl
  have disables : Triple (fun world' log' => SwitchingOff world temporaryNodepool world' ∧
      WritesBack start namespaceName safeEvict world' log') _ _ _ :=
    disableTemporary_writesBack read (named.trans facts.temporaryName)
  refine (disables.of_eq ⟨.inl rfl, holds⟩).bind fun result => ?_
  cases result with
  | error err => exact .pure' fun _ _ holds => holds.2
  | ok _ =>
  refine (getNodesByNodePool_triple _).bind fun result => ?_
  cases result with
  | error err => exact .pure' fun _ _ holds => holds.1.2
  | ok temporaryNodes =>
  refine (performSafeEviction_writesBack _ _ (disables.weaken (fun _ _ holds => holds.1)
    (fun _ _ _ holds => holds.2) fun _ _ => id)).bind fun _ => ?_
  refine (hasRunningStatefulPods_triple _ _).bind fun result => ?_
  cases result with
  | error err => exact .pure' fun _ _ holds => holds.1
  | ok running =>
  cases running with
  | true => exact .pure' fun _ _ holds => holds.1
  | false =>
  refine ((removeTemporaryNodePool_writesBack _).weaken (fun _ _ holds => holds.1)
    (fun _ _ _ => id) fun _ _ => id).bind fun result => ?_
  cases result with
  | error _ => exact .pure' fun _ _ => id
  | ok _ =>
  refine (ConfigMapController.deleteConfigMap_writesBack _ _).bind fun result => ?_
  cases result <;> exact .pure' fun _ _ => id

theorem Observed.disabling {entry : String × AgentPool}
    (member : entry ∈ observed.outdatedNodePools) : Disabling start safeEvict entry.2 := by
  have found := facts.pools entry member
  have named := World.agentPool_name_of_poolNamed? found
  refine ⟨?_, named ▸ found⟩
  rw [named, ← facts.stale]
  exact List.mem_map_of_mem _ member

theorem drainAndUpgrade_writesBack (configMapData : GoMap String)
    (recorded : ∀ name ∈ configMapData.keys, Recorded start namespaceName safeEvict name) :
    Triple (WritesBack start namespaceName safeEvict) (drainAndUpgrade observed configMapData)
      (fun _ => WritesBack start namespaceName safeEvict)
      (WritesBack start namespaceName safeEvict) := by
  unfold drainAndUpgrade
  refine (performSafeEviction_writesBack _ _
    (disableAutoScaling_writesBack _ fun _ => facts.disabling)).bind fun result => ?_
  cases result with
  | error err => exact .pure' fun _ _ => id
  | ok _ =>
  refine (upgradeLoop_writesBack _ _).bind fun result => ?_
  cases result with
  | some _ => exact .pure' fun _ _ => id
  | none =>
  refine (nextOrder_reads _).triple.bind fun order => .of_pre fun _ _ ⟨holds, permuted⟩ => ?_
  refine ((restoreLoop_writesBack _ _ _ fun name member notOutdated =>
    ⟨fun stale => notOutdated ((facts.stale name).mpr stale), recorded name ?_⟩).of_eq
    holds).bind fun result => ?_
  · obtain ⟨entry, entryMember, rfl⟩ := List.mem_map.mp member
    exact List.mem_map_of_mem _ (permuted.subset entryMember)
  · cases result with
    | some _ => exact .pure' fun _ _ => id
    | none => exact cleanUp_writesBack facts

theorem recordScaling_writesBack :
    Triple (fun world log => world.configMaps = start.configMaps ∧
        WritesBack start observed.namespaceName safeEvict world log)
      (recordScaling observed) (fun _ => WritesBack start observed.namespaceName safeEvict)
      (WritesBack start observed.namespaceName safeEvict) := by
  refine (ConfigMapController.getConfigMapData_found _ _).bind fun result => ?_
  cases result with
  | ok configMapData =>
      refine .of_pre fun world log ⟨⟨sameRecords, holds⟩, found⟩ => ?_
      refine (drainAndUpgrade_writesBack facts _ fun name member => ?_).of_eq holds
      obtain ⟨configMap, configMapMember, sameNamespace, sameName, sameData⟩ := found _ rfl
      exact ⟨configMap, sameRecords ▸ configMapMember, sameNamespace,
        sameName.trans facts.configmapName, sameData ▸ member⟩
  | error err =>
  refine .ite (fun _ => ?_) fun _ => .pure' fun _ _ holds => holds.1.2
  refine (nextOrder_reads _).triple.bind fun order => ?_
  split
  · exact .throw' fun _ _ holds => holds.1.1.2
  · refine ((ConfigMapController.createConfigMap_writesBack _ _ _).weaken
      (fun _ _ holds => holds.1.1.2) (fun _ _ _ => id) fun _ _ => id).bind fun result => ?_
    cases result with
    | error err => exact .pure' fun _ _ => id
    | ok _ =>
        exact drainAndUpgrade_writesBack facts _ fun _ member =>
          absurd member (by simp [GoMap.keys])

theorem awaitTemporaryNodepool_writesBack :
    Triple (fun world log => world.configMaps = start.configMaps ∧
        WritesBack start observed.namespaceName safeEvict world log)
      (awaitTemporaryNodepool observed) (fun _ => WritesBack start observed.namespaceName safeEvict)
      (WritesBack start observed.namespaceName safeEvict) := by
  refine (getNodePoolProvisioningState_triple _).bind fun result => ?_
  cases result with
  | error err => exact .pure' fun _ _ holds => holds.1.2
  | ok status =>
      exact .ite (fun _ => .pure' fun _ _ holds => holds.1.2) fun _ =>
        (recordScaling_writesBack facts).weaken (fun _ _ holds => holds.1) (fun _ _ _ => id)
          fun _ _ => id

theorem createTemporaryNodePool_writesBack :
    Triple (fun world log => world = start ∧
        WritesBack start observed.namespaceName safeEvict world log)
      (createTemporaryNodePool observed.temporaryName observed.safeEvict.spec.baseForBackupPool)
      (fun _ world log => world.configMaps = start.configMaps ∧
        WritesBack start observed.namespaceName safeEvict world log) halt := by
  refine (query_triple _ _).bind fun result => ?_
  cases result with
  | error err => exact .pure' fun _ _ holds => ⟨by rw [holds.1.1], holds.1.2⟩
  | ok sourceNodePool =>
  refine .of_pre fun world log ⟨⟨sameWorld, holds⟩, served⟩ => ?_
  dsimp only
  split
  · exact .pure' fun _ _ same => ⟨by rw [same.1, sameWorld], same.1 ▸ same.2 ▸ holds⟩
  · rename_i source present
    have base : (start.poolNamed? safeEvict.spec.baseForBackupPool).bind
        (·.agentPool.properties) = some source := by
      have found := agentPool_of_get (served _ rfl)
      rw [facts.campaign, sameWorld] at found
      cases named : start.poolNamed? safeEvict.spec.baseForBackupPool with
      | none => simp [named] at found
      | some cloudPool =>
          simp only [named, Option.map_some', Option.some.injEq] at found
          simp [found, present]
    have writeBack : ∀ world, WriteBack start observed.namespaceName safeEvict world
        (.createOrUpdatePool observed.temporaryName ⟨"", some (clonedProperties source)⟩) :=
      fun _ => .inl ⟨facts.temporaryName, source, base, rfl⟩
    have write : Triple (fun world' log' => world' = world ∧ log' = log)
        (AgentPoolClient.beginCreateOrUpdate observed.temporaryName
          ⟨"", some (clonedProperties source)⟩)
        (fun _ world log => world.configMaps = start.configMaps ∧
          WritesBack start observed.namespaceName safeEvict world log) halt := by
      refine mutate_triple _ _ _ (fun _ _ updated same answer => ?_)
        fun _ _ _ same => ⟨by rw [same.1, sameWorld], same.2 ▸ holds.snoc (writeBack _) _⟩
      refine ⟨?_, same.2 ▸ holds.snoc (writeBack _) updated⟩
      obtain ⟨rfl, rfl⟩ := same
      split at answer <;> cases answer <;> exact sameWorld ▸ rfl
    refine write.bind fun result => ?_
    cases result <;> exact .pure' fun _ _ => id

theorem ensureTemporaryNodepool_writesBack :
    Triple (fun world log => world = start ∧
        WritesBack start observed.namespaceName safeEvict world log)
      (ensureTemporaryNodepool observed)
      (fun _ => WritesBack start observed.namespaceName safeEvict)
      (WritesBack start observed.namespaceName safeEvict) := by
  refine (nodePoolExists_triple _).bind fun result => ?_
  cases result with
  | error err => exact .pure' fun _ _ holds => holds.2
  | ok present =>
  cases present with
  | true =>
      exact (awaitTemporaryNodepool_writesBack facts).weaken
        (fun _ _ holds => ⟨by rw [holds.1], holds.2⟩) (fun _ _ _ => id) fun _ _ => id
  | false =>
  refine .ite (fun _ => ?_) fun _ => ?_
  · refine ((ConfigMapController.deleteConfigMap_writesBack _ _).weaken (fun _ _ holds => holds.2)
      (fun _ _ _ => id) fun _ _ => id).bind fun result => ?_
    cases result <;> exact .pure' fun _ _ => id
  · refine ((createTemporaryNodePool_writesBack facts).bind fun result => ?_)
    cases result with
    | error _ => exact .pure' fun _ _ holds => holds.2
    | ok _ => exact awaitTemporaryNodepool_writesBack facts

end Restoring

/-! ## Runs -/

/-- Unless it sent nothing, an invocation read a campaign, and every pool write and every
uncordon it sent is a write-back of that campaign. -/
theorem reconcile_writesBack (config : Config) (namespaceName name : String) :
    Triple (fun world log => world = start ∧ log = []) (reconcile config namespaceName name)
      (fun _ world log => log = [] ∨ ∃ safeEvict,
        start.safeEvictNamed? namespaceName name = some safeEvict ∧
          WritesBack start namespaceName safeEvict world log)
      (fun world log => log = [] ∨ ∃ safeEvict,
        start.safeEvictNamed? namespaceName name = some safeEvict ∧
          WritesBack start namespaceName safeEvict world log) := by
  refine (Kube.getSafeEvict_triple _ _).bind fun result => ?_
  cases result with
  | error err => exact .pure' fun _ _ holds => .inl holds.1.2
  | ok safeEvict =>
  refine (updateNeeded_triple _).bind fun result => ?_
  cases result with
  | error err => exact .pure' fun _ _ holds => .inl holds.1.1.2
  | ok outdated =>
  obtain ⟨outdatedNodes, outdatedNodePools⟩ := outdated
  refine (getNotReadyNodePoolsLoop_triple _ _).bind fun result => ?_
  cases result with
  | error err => exact .pure' fun _ _ holds => .inl holds.1.1.1.2
  | ok notReady =>
  refine (nextOrder_reads _).triple.bind fun order => ?_
  refine Triple.of_pre
    fun world log ⟨⟨⟨⟨⟨atStart, empty⟩, found⟩, outdatedFacts⟩, notReadyFacts⟩, permuted⟩ => ?_
  subst atStart empty
  exact ((ensureTemporaryNodepool_writesBack (observed_of_reads (found _ rfl)
    (outdatedFacts _ _ rfl) (notReadyFacts _ rfl) permuted)).of_eq
    ⟨rfl, fun _ member => (List.not_mem_nil _ member).elim⟩).weaken (fun _ _ => id)
    (fun _ _ _ holds => .inr ⟨safeEvict, found _ rfl, holds⟩)
    fun _ _ holds => .inr ⟨safeEvict, found _ rfl, holds⟩

theorem invoke_writesBack (config : Config) (namespaceName name : String) (start : World)
    (faults : List Fault) (orders : List (List Nat)) :
    ∀ entry ∈ (invoke config namespaceName name start faults orders).log, ∃ safeEvict,
      start.safeEvictNamed? namespaceName name = some safeEvict ∧
        WriteBack start namespaceName safeEvict entry.world entry.request := by
  intro entry member
  have final := (@reconcile_writesBack start config namespaceName name).finalSession_holds
    (Session.start start faults orders) ⟨rfl, rfl⟩
  rcases final with empty | ⟨safeEvict, found, holds⟩
  · simp [invoke, empty] at member
  · exact ⟨safeEvict, found, holds entry member⟩

/-- The run lemma: in every run, whatever the servers answer and whatever order its map
iterations take, every pool write and every uncordon of every invocation is a write-back
of the campaign it read, in the world it started from. In particular no invocation
uncordons a node of a pool that was stale when it started. -/
theorem run_writesBack (config : Config) (world : World) (moves : List Move) :
    ∀ invocation ∈ (run config world moves).2, ∀ entry ∈ invocation.log, ∃ safeEvict,
      invocation.start.safeEvictNamed? invocation.namespaceName invocation.name = some safeEvict ∧
        WriteBack invocation.start invocation.namespaceName safeEvict entry.world
          entry.request := by
  intro invocation member entry inLog
  obtain ⟨faults, orders, logged⟩ := run_invocation config world moves invocation member
  exact invoke_writesBack config _ _ _ faults orders entry (logged ▸ inLog)

open Scenario in
/-- The second request of the invocation on `draining` is a write-back: the autoscaling of
the stale pool `pool1` switched off. -/
theorem draining_disables_stale_pool :
    ∃ invocation ∈ (run config draining once).2, ∃ entry ∈ invocation.log,
      entry.request = .createOrUpdatePool "pool1"
        ⟨"pool1", some { scaling "Succeeded" with enableAutoScaling := some false }⟩ ∧
      ∃ safeEvict,
        invocation.start.safeEvictNamed? invocation.namespaceName invocation.name = some safeEvict ∧
          WriteBack invocation.start invocation.namespaceName safeEvict entry.world
            entry.request := by
  have single : 0 < (run config draining once).2.length := by simp [once, run_single]
  have inLog : 1 < ((run config draining once).2.get ⟨0, single⟩).log.length := by
    rw [once_log, draining_log_length]
    decide
  have requested := draining_request? 1
  rw [← once_log single, List.get?_eq_get inLog, Option.map_some'] at requested
  exact ⟨_, List.get_mem _ 0 single, _, List.get_mem _ 1 inLog, Option.some.inj requested,
    run_writesBack config draining once _ (List.get_mem _ 0 single) _ (List.get_mem _ 1 inLog)⟩

end NodeUpdater
