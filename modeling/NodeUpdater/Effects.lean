import NodeUpdater.Observation

/-! # What the writes of an invocation keep

One triple per mutating call: every request it sends is allowed, and nodes, pods and
the temporary pool stay in the frame of the invocation. -/

namespace NodeUpdater

variable {start : World} {safeEvict : SafeEvict} {halt : Assertion}

open NodePoolController

/-! ## Writes to agent pools -/

theorem AgentPoolClient.beginCreateOrUpdate_kept (name : String) (agentPool : AgentPool) :
    Triple (Kept start safeEvict) (AgentPoolClient.beginCreateOrUpdate name agentPool)
      (fun _ => Kept start safeEvict) halt := by
  refine mutate_triple _ _ _ (fun world log updated kept answer => ?_)
    fun world log _ kept => kept.snoc (.createOrUpdatePool _ _) kept.1
  refine kept.snoc (.createOrUpdatePool _ _) ?_
  split at answer <;> cases answer <;> exact kept.1.congr rfl rfl

theorem AgentPoolClient.beginCreateOrUpdate_draining (name : String) (agentPool : AgentPool) :
    Triple (Draining start safeEvict) (AgentPoolClient.beginCreateOrUpdate name agentPool)
      (fun _ => Draining start safeEvict) halt := by
  refine mutate_triple _ _ _ (fun world log updated draining answer => ?_)
    fun world log _ draining => draining.snoc (.createOrUpdatePool _ _) draining.1.1 draining.2
  split at answer <;> cases answer
  · exact draining.snoc (.createOrUpdatePool _ _) (draining.1.1.congr rfl rfl)
      (draining.2.updatePool _ _)
  · exact draining.snoc (.createOrUpdatePool _ _) (draining.1.1.congr rfl rfl)
      (draining.2.addPool _)

theorem disableAutoScalingWrite_draining (agentPool : AgentPool)
    (properties : AgentPoolProperties) {next : Api (Except GoError Unit)}
    (continues : Triple (Draining start safeEvict) next (fun _ => Draining start safeEvict) halt) :
    Triple (Draining start safeEvict) (disableAutoScalingWrite agentPool properties next)
      (fun _ => Draining start safeEvict) halt := by
  refine (AgentPoolClient.beginCreateOrUpdate_draining _ _).bind fun result => ?_
  cases result with
  | error err => exact .ite (fun _ => .pure' fun _ _ => id) fun _ => .pure' fun _ _ => id
  | ok _ => exact continues

theorem disableAutoScalingLoop_draining (agentPools : GoMap AgentPool) :
    Triple (Draining start safeEvict) (disableAutoScalingLoop agentPools)
      (fun _ => Draining start safeEvict) (Draining start safeEvict) := by
  induction agentPools with
  | nil => exact .pure' fun _ _ => id
  | cons entry rest induction =>
      obtain ⟨_, agentPool⟩ := entry
      unfold disableAutoScalingLoop
      split
      · exact .pure' fun _ _ => id
      · split
        · exact induction
        · exact .throw' fun _ _ => id
        · exact .ite (fun _ => induction) fun _ => disableAutoScalingWrite_draining _ _ induction
        · exact disableAutoScalingWrite_draining _ _ induction

theorem disableAutoScaling_draining (agentPools : GoMap AgentPool) :
    Triple (Draining start safeEvict) (disableAutoScaling agentPools)
      (fun _ => Draining start safeEvict) (Draining start safeEvict) :=
  (nextOrder_reads _).triple.bind fun _ =>
    (disableAutoScalingLoop_draining _).weaken (fun _ _ holds => holds.1) (fun _ _ _ => id)
      fun _ _ => id

theorem scalingWrite_draining (nodepool submitted : AgentPool) :
    Triple (Draining start safeEvict) (scalingWrite nodepool submitted)
      (fun _ => Draining start safeEvict) halt := by
  refine (AgentPoolClient.beginCreateOrUpdate_draining _ _).bind fun result => ?_
  cases result with
  | error err => exact .ite (fun _ => .pure' fun _ _ => id) fun _ => .pure' fun _ _ => id
  | ok _ => exact .pure' fun _ _ => id

theorem applyScalingData_draining (nodepool : AgentPool) (scalingData : String) :
    Triple (Draining start safeEvict) (applyScalingData nodepool scalingData)
      (fun _ => Draining start safeEvict) (Draining start safeEvict) := by
  unfold applyScalingData
  split
  · exact .pure' fun _ _ => id
  · split
    · exact .ite (fun _ => .throw' fun _ _ => id) fun _ => scalingWrite_draining _ _
    · split
      · exact .pure' fun _ _ => id
      · exact scalingWrite_draining _ _

theorem setDefaultScaling_draining (nodepool : AgentPool) (scalingData : String) :
    Triple (Draining start safeEvict) (setDefaultScaling nodepool scalingData)
      (fun _ => Draining start safeEvict) (Draining start safeEvict) := by
  unfold setDefaultScaling
  split
  · exact .throw' fun _ _ => id
  · exact .ite (fun _ => .pure' fun _ _ => id) fun _ => applyScalingData_draining _ _
  · exact applyScalingData_draining _ _

/-! ## Cordoning -/

theorem setUnschedulable_draining (toCordon : Bool) (nodes done : List Node)
    (present : ∀ node ∈ nodes, ∃ original ∈ start.nodes, original.ident = node.ident) :
    Triple (fun world log => Draining start safeEvict world log ∧
        (toCordon = true → ∀ node ∈ done, Cordoned log node.name))
      (setUnschedulable toCordon nodes)
      (fun result world log => Draining start safeEvict world log ∧
        (toCordon = true → result = .ok () → ∀ node ∈ done ++ nodes, Cordoned log node.name))
      halt := by
  induction nodes generalizing done with
  | nil =>
      exact .pure' fun _ _ holds => ⟨holds.1, fun cordoning _ => by simpa using holds.2 cordoning⟩
  | cons node rest induction =>
      have write : Triple (fun world log => Draining start safeEvict world log ∧
            (toCordon = true → ∀ node ∈ done, Cordoned log node.name))
          (Kube.updateNode { node with unschedulable := toCordon })
          (fun result world log => Draining start safeEvict world log ∧
            (toCordon = true → result = .ok () → ∀ other ∈ done ++ [node],
              Cordoned log other.name)) halt := by
        refine mutate_triple _ _ _ (fun world log updated holds answer => ?_)
          fun world log _ holds => ⟨holds.1.snoc (.updateNode fun _ => holds.1.2) holds.1.1.1
            holds.1.2, fun _ failed => by simp at failed⟩
        have written : updated = world.replaceNode { node with unschedulable := toCordon } := by
          split at answer
          · exact (Except.ok.inj answer).symm
          · cases answer
        subst written
        obtain ⟨original, originalMember, same⟩ := present node (List.mem_cons_self _ _)
        obtain ⟨current, currentMember, sameCurrent⟩ := holds.1.1.1.node_mem_start originalMember
        refine ⟨holds.1.snoc (.updateNode fun _ => holds.1.2)
          (holds.1.1.1.replaceNode ⟨current, currentMember, sameCurrent.trans same⟩)
          (holds.1.2.congr rfl), fun cordoning _ other member => ?_⟩
        rcases List.mem_append.mp member with earlier | justNow
        · exact (holds.2 cordoning other earlier).append _
        · cases List.mem_singleton.mp justNow
          exact ⟨_, List.mem_append_right _ (List.mem_singleton_self _), rfl, _, rfl, rfl, cordoning⟩
      refine write.bind fun result => ?_
      cases result with
      | error err => exact .pure' fun _ _ holds => ⟨holds.1, by simp⟩
      | ok _ =>
          refine (induction (done ++ [node]) fun other member =>
            present other (List.mem_cons_of_mem _ member)).weaken
            (fun _ _ holds => ⟨holds.1, fun cordoning => holds.2 cordoning rfl⟩) ?_ fun _ _ => id
          rintro result world log ⟨holds, cordoned⟩
          exact ⟨holds, fun cordoning ok other member =>
            cordoned cordoning ok other (by simpa using member)⟩

theorem cordonNodesByAgentPool_draining (nodePoolName : String) (toCordon : Bool) :
    Triple (Draining start safeEvict) (cordonNodesByAgentPool nodePoolName toCordon)
      (fun result world log => Draining start safeEvict world log ∧
        (toCordon = true → result = .ok () → ∀ node ∈ start.nodes,
          node.agentPool = some nodePoolName → Cordoned log node.name)) halt := by
  refine (getNodesByNodePool_triple _).bind fun result => ?_
  cases result with
  | error err => exact .pure' fun _ _ holds => ⟨holds.1, by simp⟩
  | ok nodes =>
      refine Triple.of_pre fun world log ⟨draining, listed⟩ => ?_
      have listing := listed _ rfl
      refine (setUnschedulable_draining toCordon nodes [] fun node member => ?_).weaken
        (fun _ _ holds => ⟨holds.1 ▸ holds.2 ▸ draining, by simp⟩) ?_ fun _ _ => id
      · rw [listing] at member
        exact draining.1.1.node_mem (List.mem_filter.mp member).1
      · rintro result world' log' ⟨holds, cordoned⟩
        refine ⟨holds, fun cordoning ok node member inPool => ?_⟩
        obtain ⟨current, currentMember, same⟩ := draining.1.1.node_mem_start member
        have : current ∈ nodes := by
          rw [listing, List.mem_filter]
          exact ⟨currentMember, by simp [Node.agentPool_eq_of_ident same, inPool]⟩
        have sameName : current.name = node.name := congrArg Prod.fst same
        exact sameName ▸ cordoned cordoning ok current this

/-! ## Evicting pods -/

/-- The invariant while the pods of `pods` are evicted: each may still be evicted. -/
def Evicting (start : World) (safeEvict : SafeEvict) (pods : List Pod) : Assertion :=
  fun world log => Draining start safeEvict world log ∧
    ∀ pod ∈ pods, Evictable start safeEvict log pod

theorem Evicting.snoc {pods : List Pod} {pod : Pod} {world updated : World} {log : List Entry}
    {request : Request} {accepted : Bool} (evicting : Evicting start safeEvict pods world log)
    (member : pod ∈ pods) (eviction : EvictionOf world pod request) (frame : Frame start updated)
    (surge : Surge safeEvict.getTemporaryNodepoolName updated) :
    Evicting start safeEvict pods updated (log ++ [⟨world, request, accepted⟩]) :=
  ⟨evicting.1.snoc (.eviction evicting.1.2 (evicting.2 pod member) eviction) frame surge,
    fun other otherMember => (evicting.2 other otherMember).append _⟩

theorem Evicting.podWithKey? {pods : List Pod} {pod current : Pod} {world : World}
    {log : List Entry} (evicting : Evicting start safeEvict pods world log) (member : pod ∈ pods)
    (found : world.podWithKey? pod.namespaceName pod.name = some current) : current = pod := by
  have sameKey : current.key = pod.key := by
    simpa [Pod.key] using List.find?_some found
  exact evicting.1.1.1.pod_eq (List.mem_of_find?_eq_some found) (evicting.2 pod member).1 sameKey

variable {pods : List Pod} {pod : Pod}

theorem Devops.patchAgent_evicting (member : pod ∈ pods) (poolId agentId : Nat) :
    Triple (fun world log => Evicting start safeEvict pods world log ∧
        AgentOf world pod poolId agentId)
      (Devops.patchAgent poolId agentId) (fun _ => Evicting start safeEvict pods) halt := by
  refine Devops.send_triple _ _ _ (fun world log updated holds answer => ?_)
    fun world log _ holds => holds.1.snoc member holds.2 holds.1.1.1.1 holds.1.1.2
  split at answer <;> cases answer
  exact holds.1.snoc member holds.2 (holds.1.1.1.1.congr rfl rfl) (holds.1.1.2.congr rfl)

theorem Devops.deleteAgent_evicting (member : pod ∈ pods) (poolId agentId : Nat) :
    Triple (fun world log => Evicting start safeEvict pods world log ∧
        AgentOf world pod poolId agentId)
      (Devops.deleteAgent poolId agentId) (fun _ => Evicting start safeEvict pods) halt := by
  refine Devops.send_triple _ _ _ (fun world log updated holds answer => ?_)
    fun world log _ holds => holds.1.snoc member holds.2 holds.1.1.1.1 holds.1.1.2
  split at answer <;> cases answer
  exact holds.1.snoc member holds.2 (holds.1.1.1.1.congr rfl rfl) (holds.1.1.2.congr rfl)

theorem AzureDevopsController.agentRequest_evicting {poolName : String}
    {action : Nat → Nat → Api (Except GoError Nat)} (accepts : Nat → Bool) (failureText : String)
    (acts : ∀ poolId agentId, Triple (fun world log => Evicting start safeEvict pods world log ∧
        AgentOf world pod poolId agentId) (action poolId agentId)
      (fun _ => Evicting start safeEvict pods) halt) :
    Triple (fun world log => Evicting start safeEvict pods world log ∧
        PodController.azpPool pod = some poolName)
      (AzureDevopsController.agentRequest action accepts failureText poolName pod.name)
      (fun _ => Evicting start safeEvict pods) halt := by
  refine (getPoolIDFromName_triple _).bind fun result => ?_
  cases result with
  | error err => exact .pure' fun _ _ holds => holds.1.1
  | ok poolID =>
  refine (Devops.get_reads _).triple.bind fun result => ?_
  cases result with
  | error err => exact .pure' fun _ _ holds => holds.1.1.1
  | ok answer =>
  obtain ⟨statusCode, agents⟩ := answer
  refine .ite (fun _ => .pure' fun _ _ holds => holds.1.1.1) fun _ => ?_
  dsimp only
  refine .ite (fun _ => .pure' fun _ _ holds => holds.1.1.1) fun registered => ?_
  refine ((acts poolID _).weaken ?_ (fun _ _ _ => id) fun _ _ => id).bind fun result => ?_
  · rintro world log ⟨⟨⟨evicting, azp⟩, poolFound⟩, agentsAre⟩
    refine ⟨evicting, poolName, azp, poolFound _ rfl, ?_⟩
    rw [← agentsAre _ _ rfl]
    cases found : (agents.find? (·.name == pod.name)).map (·.id) with
    | none => simp [found] at registered
    | some agentId => simp [found]
  · cases result with
    | error err => exact .pure' fun _ _ => id
    | ok _ => exact .ite (fun _ => .pure' fun _ _ => id) fun _ => .pure' fun _ _ => id

theorem Kube.deleteJob_evicting (member : pod ∈ pods) :
    Triple (Evicting start safeEvict pods)
      (Kube.deleteJob pod.namespaceName (JobController.jobOwnerName pod))
      (fun _ => Evicting start safeEvict pods) halt := by
  refine mutate_triple _ _ _ (fun world log updated holds answer => ?_)
    fun world log _ holds => holds.snoc member ⟨rfl, rfl⟩ holds.1.1.1 holds.1.2
  split at answer <;> cases answer
  exact holds.snoc member ⟨rfl, rfl⟩ (holds.1.1.1.congr rfl rfl) (holds.1.2.congr rfl)

theorem Kube.deletePod_evicting (member : pod ∈ pods) :
    Triple (Evicting start safeEvict pods) (Kube.deletePod pod.namespaceName pod.name)
      (fun _ => Evicting start safeEvict pods) halt := by
  refine mutate_triple _ _ _ (fun world log updated holds answer => ?_)
    fun world log _ holds => holds.snoc member rfl holds.1.1.1 holds.1.2
  split at answer <;> cases answer
  exact holds.snoc member rfl (holds.1.1.1.removePod _ _) (holds.1.2.congr rfl)

theorem JobController.killJobByPod_evicting (member : pod ∈ pods) :
    Triple (Evicting start safeEvict pods) (JobController.killJobByPod pod)
      (fun _ => Evicting start safeEvict pods) halt := by
  refine .ite (fun _ => .pure' fun _ _ => id) fun _ =>
    .ite (fun _ => .pure' fun _ _ => id) fun _ => ?_
  refine (Kube.deleteJob_evicting member).bind fun result => ?_
  cases result <;> exact .pure' fun _ _ => id

theorem PodController.killPod_evicting (member : pod ∈ pods) :
    Triple (Evicting start safeEvict pods) (PodController.killPod pod)
      (fun _ => Evicting start safeEvict pods) halt := by
  refine (Kube.deletePod_evicting member).bind fun result => ?_
  cases result <;> exact .pure' fun _ _ => id

/-- `EvictIdlePods` only sends the eviction steps of the pods it is given. -/
theorem PodController.evictIdlePods_evicting (targets : List Pod)
    (within : ∀ pod ∈ targets, pod ∈ pods) :
    Triple (Evicting start safeEvict pods) (PodController.evictIdlePods targets)
      (fun _ => Evicting start safeEvict pods) halt := by
  induction targets with
  | nil => exact .pure' fun _ _ => id
  | cons pod rest induction =>
      have member := within pod (List.mem_cons_self _ _)
      refine (getPodsPool_triple _ _).bind fun result => ?_
      cases result with
      | error err => exact .pure' fun _ _ holds => holds.1
      | ok poolName =>
      refine Triple.of_pre fun world log ⟨evicting, found⟩ => ?_
      obtain ⟨current, lookup, named⟩ := found _ rfl
      have azp : azpPool pod = some poolName := evicting.podWithKey? member lookup ▸ named
      refine ((AzureDevopsController.agentRequest_evicting _ _
        (Devops.patchAgent_evicting member)).weaken
        (fun _ _ same => ⟨same.1 ▸ same.2 ▸ evicting, azp⟩) (fun _ _ _ => id) fun _ _ => id).bind
        fun result => ?_
      cases result with
      | error err => exact .pure' fun _ _ => id
      | ok _ =>
      refine ((AzureDevopsController.agentRequest_evicting _ _
        (Devops.deleteAgent_evicting member)).weaken
        (fun _ _ holds => ⟨holds, azp⟩) (fun _ _ _ => id) fun _ _ => id).bind fun result => ?_
      cases result with
      | error err => exact .pure' fun _ _ => id
      | ok _ =>
      refine (JobController.killJobByPod_evicting member).bind fun result => ?_
      cases result with
      | error err => exact .pure' fun _ _ => id
      | ok _ =>
      refine (killPod_evicting member).bind fun result => ?_
      cases result with
      | error err => exact .pure' fun _ _ => id
      | ok _ => exact induction fun other otherMember => within other (List.mem_cons_of_mem _ otherMember)

/-! ## Upgrading and removing pools -/

theorem AgentPoolClient.beginUpgradeNodeImageVersion_draining (name : String) :
    Triple (fun world log => Draining start safeEvict world log ∧ Drained safeEvict.spec world name)
      (AgentPoolClient.beginUpgradeNodeImageVersion name) (fun _ => Draining start safeEvict)
      halt := by
  refine mutate_triple _ _ _ (fun world log updated holds answer => ?_) fun world log _ holds =>
    holds.1.snoc (.upgradeNodeImageVersion holds.2) holds.1.1.1 holds.1.2
  split at answer <;> cases answer
  exact holds.1.snoc (.upgradeNodeImageVersion holds.2) (holds.1.1.1.congr rfl rfl)
    (holds.1.2.setPoolState _ _ (by decide))

theorem upgradeNodeImageVersion_draining (nodepool : AgentPool) :
    Triple (fun world log => Draining start safeEvict world log ∧
        Drained safeEvict.spec world nodepool.name)
      (upgradeNodeImageVersion nodepool) (fun _ => Draining start safeEvict) halt := by
  unfold upgradeNodeImageVersion
  split
  · exact .pure' fun _ _ holds => holds.1
  · exact .pure' fun _ _ holds => holds.1
  · refine (getNodeImageVersions_triple _).bind fun result => ?_
    cases result with
    | error err => exact .pure' fun _ _ holds => holds.1.1
    | ok versions =>
    refine (getNodePoolUpgradeProfile_triple _).bind fun result => ?_
    cases result with
    | error err => exact .pure' fun _ _ holds => holds.1.1.1
    | ok latest =>
    refine .ite (fun _ => .pure' fun _ _ holds => holds.1.1.1) fun _ => ?_
    refine ((AgentPoolClient.beginUpgradeNodeImageVersion_draining _).weaken
      (fun _ _ holds => holds.1.1) (fun _ _ _ => id) fun _ _ => id).bind fun result => ?_
    cases result <;> exact .pure' fun _ _ => id

theorem removeTemporaryNodePool_draining (nodePoolName : String)
    (temporary : nodePoolName = safeEvict.getTemporaryNodepoolName)
    (upToDate : ∀ poolName, ¬Stale start safeEvict.spec poolName) :
    Triple (fun world log => Draining start safeEvict world log ∧
        Drained safeEvict.spec world nodePoolName)
      (removeTemporaryNodePool nodePoolName) (fun _ => Draining start safeEvict) halt := by
  have delete : Triple (fun world log => Draining start safeEvict world log ∧
      Drained safeEvict.spec world nodePoolName) (AgentPoolClient.beginDelete nodePoolName)
      (fun _ => Draining start safeEvict) halt := by
    refine mutate_triple _ _ _ (fun world log updated holds answer => ?_) fun world log _ holds =>
      holds.1.snoc (.deletePool temporary upToDate holds.2) holds.1.1.1 holds.1.2
    split at answer <;> cases answer
    exact holds.1.snoc (.deletePool temporary upToDate holds.2) (holds.1.1.1.congr rfl rfl)
      (holds.1.2.setPoolState _ _ (by decide))
  refine delete.bind fun result => ?_
  cases result <;> exact .pure' fun _ _ => id

end NodeUpdater
