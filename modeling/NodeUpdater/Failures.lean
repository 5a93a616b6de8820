import NodeUpdater.Safety

/-! # Failures within an invocation, and retries after them

The two results `Reconcile` discards, and the eviction no retry can finish once its
agent is removed. -/

namespace NodeUpdater

/-! ## Restarting an eviction -/

/-- The id of the Azure DevOps pool the pod's `AZP_POOL` names, as `DisableAgent`
looks it up. -/
def World.agentPoolId? (world : World) (pod : Pod) : Option Nat :=
  (PodController.azpPool pod).bind fun poolName =>
    (world.devopsPools.find? (·.name == poolName)).map (·.id)

/-- The pod's agent is gone: no agent named like the pod is registered in the Azure
DevOps pool its `AZP_POOL` names. -/
def AgentRemoved (world : World) (pod : Pod) : Prop :=
  ∀ agent ∈ world.agents, agent.name = pod.name → world.agentPoolId? pod ≠ some agent.poolId

instance (world : World) (pod : Pod) : Decidable (AgentRemoved world pod) :=
  inferInstanceAs (Decidable (∀ agent ∈ world.agents, agent.name = pod.name →
    world.agentPoolId? pod ≠ some agent.poolId))

namespace AgentRemoved

variable {world : World} {pod : Pod}

theorem not_agentOf (removed : AgentRemoved world pod) (poolId agentId : Nat) :
    ¬AgentOf world pod poolId agentId := by
  rintro ⟨poolName, azp, poolFound, agentFound⟩
  obtain ⟨agent, found, -⟩ := Option.map_eq_some'.mp agentFound
  have named : agent.name = pod.name := by simpa using List.find?_some found
  have member := List.mem_filter.mp (List.mem_of_find?_eq_some found)
  refine removed agent member.1 named ?_
  rw [World.agentPoolId?, azp, Option.some_bind, poolFound, beq_iff_eq.mp member.2]

theorem of_agents (removed : AgentRemoved world pod) {updated : World}
    (pools : updated.devopsPools = world.devopsPools)
    (agents : ∀ agent ∈ updated.agents, ∃ original ∈ world.agents,
      original.name = agent.name ∧ original.poolId = agent.poolId) :
    AgentRemoved updated pod := by
  intro agent member named
  obtain ⟨original, originalMember, sameName, samePool⟩ := agents agent member
  rw [World.agentPoolId?, pools, ← samePool]
  exact removed original originalMember (sameName.trans named)

end AgentRemoved

/-- The invariant of a retry: the pod is still there, and its agent is gone. -/
def Stuck (pod : Pod) : Assertion := fun world _ =>
  pod ∈ world.pods ∧ AgentRemoved world pod

section Stuck

variable {pod : Pod} {halt : Assertion}

open PodController AzureDevopsController

theorem Devops.patchAgent_stuck (poolId agentId : Nat) :
    Triple (Stuck pod) (Devops.patchAgent poolId agentId) (fun _ => Stuck pod) halt := by
  refine Devops.send_triple _ _ _ (fun world log updated holds answer => ?_)
    fun _ _ _ holds => holds
  split at answer <;> cases answer
  refine ⟨holds.1, holds.2.of_agents rfl fun agent member => ?_⟩
  obtain ⟨original, originalMember, rfl⟩ := List.mem_map.mp member
  exact ⟨original, originalMember, by split <;> rfl, by split <;> rfl⟩

theorem Devops.deleteAgent_stuck (poolId agentId : Nat) :
    Triple (Stuck pod) (Devops.deleteAgent poolId agentId) (fun _ => Stuck pod) halt := by
  refine Devops.send_triple _ _ _ (fun world log updated holds answer => ?_)
    fun _ _ _ holds => holds
  split at answer <;> cases answer
  exact ⟨holds.1, holds.2.of_agents rfl fun agent member =>
    ⟨agent, (List.mem_filter.mp member).1, rfl, rfl⟩⟩

theorem AzureDevopsController.agentRequest_keeps {keeps : Assertion}
    {action : Nat → Nat → Api (Except GoError Nat)} (accepts : Nat → Bool)
    (failureText poolName agentName : String)
    (acts : ∀ poolId agentId, Triple keeps (action poolId agentId) (fun _ => keeps) halt) :
    Triple keeps (agentRequest action accepts failureText poolName agentName) (fun _ => keeps)
      halt := by
  refine (getPoolIDFromName_triple _).bind fun result => ?_
  cases result with
  | error err => exact .pure' fun _ _ holds => holds.1
  | ok poolID =>
  refine (Devops.get_reads _).triple.bind fun result => ?_
  cases result with
  | error err => exact .pure' fun _ _ holds => holds.1.1
  | ok answer =>
  obtain ⟨statusCode, agents⟩ := answer
  refine .ite (fun _ => .pure' fun _ _ holds => holds.1.1) fun _ => ?_
  dsimp only
  refine .ite (fun _ => .pure' fun _ _ holds => holds.1.1) fun _ => ?_
  refine ((acts poolID _).weaken (fun _ _ holds => holds.1.1) (fun _ _ _ => id)
    fun _ _ => id).bind fun result => ?_
  cases result with
  | error err => exact .pure' fun _ _ => id
  | ok _ => exact .ite (fun _ => .pure' fun _ _ => id) fun _ => .pure' fun _ _ => id

theorem AzureDevopsController.agentRequest_refused {pre : Assertion} {poolName : String}
    (action : Nat → Nat → Api (Except GoError Nat)) (accepts : Nat → Bool)
    (failureText : String) (azp : azpPool pod = some poolName)
    (removed : ∀ world log, pre world log → AgentRemoved world pod) :
    Triple pre (agentRequest action accepts failureText poolName pod.name)
      (fun result world log => pre world log ∧ ∃ err, result = .error err) halt := by
  refine (getPoolIDFromName_triple _).bind fun result => ?_
  cases result with
  | error err => exact .pure' fun _ _ holds => ⟨holds.1, _, rfl⟩
  | ok poolID =>
  refine (Devops.get_reads _).triple.bind fun result => ?_
  cases result with
  | error err => exact .pure' fun _ _ holds => ⟨holds.1.1, _, rfl⟩
  | ok answer =>
  obtain ⟨statusCode, agents⟩ := answer
  refine .ite (fun _ => .pure' fun _ _ holds => ⟨holds.1.1, _, rfl⟩) fun _ => ?_
  dsimp only
  refine .ite (fun _ => .pure' fun _ _ holds => ⟨holds.1.1, _, rfl⟩) fun registered => ?_
  refine .vacuous fun world log ⟨⟨holds, poolFound⟩, agentsAre⟩ => ?_
  cases found : (agents.find? (·.name == pod.name)).map (·.id) with
  | none => simp [found] at registered
  | some agentId =>
      refine (removed world log holds).not_agentOf poolID agentId
        ⟨poolName, azp, poolFound _ rfl, ?_⟩
      rw [← agentsAre _ _ rfl, found]

theorem Kube.deleteJob_stuck (namespaceName name : String) :
    Triple (Stuck pod) (Kube.deleteJob namespaceName name) (fun _ => Stuck pod) halt := by
  refine mutate_triple _ _ _ (fun world log updated holds answer => ?_) fun _ _ _ holds => holds
  split at answer <;> cases answer
  exact holds

theorem Kube.deletePod_stuck {namespaceName name : String}
    (different : (namespaceName, name) ≠ pod.key) :
    Triple (Stuck pod) (Kube.deletePod namespaceName name) (fun _ => Stuck pod) halt := by
  refine mutate_triple _ _ _ (fun world log updated holds answer => ?_) fun _ _ _ holds => holds
  split at answer <;> cases answer
  refine ⟨List.mem_filter.mpr ⟨holds.1, ?_⟩, holds.2⟩
  simpa using Ne.symm different

theorem JobController.killJobByPod_stuck (other : Pod) :
    Triple (Stuck pod) (JobController.killJobByPod other) (fun _ => Stuck pod) halt := by
  refine .ite (fun _ => .pure' fun _ _ => id) fun _ =>
    .ite (fun _ => .pure' fun _ _ => id) fun _ => ?_
  refine (Kube.deleteJob_stuck _ _).bind fun result => ?_
  cases result <;> exact .pure' fun _ _ => id

theorem PodController.killPod_stuck {other : Pod} (different : other.key ≠ pod.key) :
    Triple (Stuck pod) (PodController.killPod other) (fun _ => Stuck pod) halt := by
  refine (Kube.deletePod_stuck different).bind fun result => ?_
  cases result <;> exact .pure' fun _ _ => id

/-- The retry loop: once the agent of `pod` is gone, a call on a list holding `pod`
ends with an error and leaves `pod` where it is, whatever the servers answer. -/
theorem PodController.evictIdlePods_stuck (pod : Pod) (pods : List Pod) (listed : pod ∈ pods) :
    Triple (Stuck pod) (evictIdlePods pods)
      (fun result world log => Stuck pod world log ∧ ∃ err, result = .error err) halt := by
  induction pods with
  | nil => exact absurd listed (List.not_mem_nil _)
  | cons other rest induction =>
      refine (getPodsPool_triple _ _).bind fun result => ?_
      cases result with
      | error err => exact .pure' fun _ _ holds => ⟨holds.1, _, rfl⟩
      | ok poolName =>
      by_cases same : other.key = pod.key
      · refine .of_pre fun world log ⟨stuck, found⟩ => ?_
        obtain ⟨current, lookup, named⟩ := found _ rfl
        have ⟨sameNamespace, sameName⟩ : other.namespaceName = pod.namespaceName ∧
            other.name = pod.name := Prod.mk.inj same
        have keyed : world.podWithKey? other.namespaceName other.name = some pod := by
          rw [sameNamespace, sameName]
          exact World.podWithKey?_of_mem stuck.1
        rw [lookup, Option.some.injEq] at keyed
        subst keyed
        rw [sameName]
        refine (agentRequest_refused _ _ _ named
          fun world' log' (holds : world' = world ∧ log' = log) => holds.1 ▸ stuck.2).bind
          fun result => ?_
        cases result with
        | error err => exact .pure' fun _ _ holds => ⟨holds.1.1 ▸ stuck, _, rfl⟩
        | ok _ => exact .vacuous fun _ _ ⟨_, _, refused⟩ => by cases refused
      · have later : pod ∈ rest := (List.mem_cons.mp listed).resolve_left
          fun equal => same (equal ▸ rfl)
        refine ((agentRequest_keeps _ _ _ _ Devops.patchAgent_stuck).weaken
          (fun _ _ (holds : Stuck pod _ _ ∧ _) => holds.1) (fun _ _ _ => id)
          fun _ _ => id).bind fun result => ?_
        cases result with
        | error err => exact .pure' fun _ _ holds => ⟨holds, _, rfl⟩
        | ok _ =>
        refine (agentRequest_keeps _ _ _ _ Devops.deleteAgent_stuck).bind fun result => ?_
        cases result with
        | error err => exact .pure' fun _ _ holds => ⟨holds, _, rfl⟩
        | ok _ =>
        refine (JobController.killJobByPod_stuck other).bind fun result => ?_
        cases result with
        | error err => exact .pure' fun _ _ holds => ⟨holds, _, rfl⟩
        | ok _ =>
        refine (killPod_stuck same).bind fun result => ?_
        cases result with
        | error err => exact .pure' fun _ _ holds => ⟨holds, _, rfl⟩
        | ok _ => exact induction later

end Stuck

/-- Once the agent of a pod is gone, no call of `EvictIdlePods` on a list holding the
pod evicts it, whatever the servers answer, no failure at all included: the call
returns an error and the pod is still there. -/
theorem evictIdlePods_after_agent_removed (pods : List Pod) (pod : Pod) (listed : pod ∈ pods)
    (session : Session) (present : pod ∈ session.world.pods)
    (removed : AgentRemoved session.world pod) :
    match PodController.evictIdlePods pods session with
    | .ok result after => (∃ err, result = .error err) ∧ pod ∈ after.world.pods
    | .error _ _ => False := by
  have triple : Triple (Stuck pod) (PodController.evictIdlePods pods)
      (fun result world log => Stuck pod world log ∧ ∃ err, result = .error err)
      (fun _ _ => False) :=
    PodController.evictIdlePods_stuck pod pods listed
  have holds := triple session ⟨present, removed⟩
  revert holds
  cases PodController.evictIdlePods pods session with
  | ok result after => exact fun holds => ⟨holds.2, holds.1.1⟩
  | error _ _ => exact id

namespace Scenario

/-- The world after a first eviction of the idle agent was cut short: its Job could
not be deleted, after the agent had been disabled and removed. -/
def interrupted : World :=
  (finalSession (PodController.evictIdlePods [agentPod]
    (Session.start draining (List.replicate 7 .answer ++ [.serverError]) []))).world

end Scenario

open Scenario

/-- The retry after the interrupted eviction, with every call answered. -/
theorem interrupted_retry_fails :
    agentPod ∈ [agentPod] ∧ agentPod ∈ (Session.start interrupted [] []).world.pods ∧
      AgentRemoved (Session.start interrupted [] []).world agentPod ∧
      match PodController.evictIdlePods [agentPod] (Session.start interrupted [] []) with
      | .ok result after => (∃ err, result = .error err) ∧ agentPod ∈ after.world.pods
      | .error _ _ => False :=
  ⟨by decide, by decide, by decide,
    evictIdlePods_after_agent_removed [agentPod] agentPod (by decide) (Session.start interrupted [] [])
      (by decide) (by decide)⟩

/-- The interrupted eviction cannot be finished by a retry: the idle agent is still
selected, and `EvictIdlePods` on it, with every call answered, stops at `DisableAgent`,
which no longer finds the agent, and leaves the pod. -/
theorem interrupted_eviction_not_restarted :
    (∃ after, PodController.getSafeToEvictPods campaign.spec
      (Session.start interrupted [] []) = .ok (.ok [agentPod]) after) ∧
    ∃ after, PodController.evictIdlePods [agentPod] (Session.start interrupted [] []) =
      .ok (.error ⟨"agent with name 'agent-0' not found", none⟩) after ∧
      agentPod ∈ after.world.pods :=
  ⟨⟨_, rfl⟩, _, rfl, by decide⟩

/-! ## A failure `Reconcile` discards -/

namespace Scenario

/-- A deployment that requeues successes after 30 seconds and errors after 10. -/
def patient : Config :=
  ⟨10, 30, 3600⟩

/-- The campaign is finishing: `pool1` runs the latest image, its node is still
cordoned and its autoscaling off, and the temporary pool and the record are there. -/
def finishing : World where
  safeEvicts := [campaign]
  pools := [⟨⟨"pool1", some { scaling "Succeeded" with enableAutoScaling := some false }⟩, some "v2"⟩,
    pool "tmppool1" "Succeeded" "v2"]
  nodes := [{ node "n1" "pool1" "v2" with unschedulable := true }, node "t1" "tmppool1" "v2"]
  pods := []
  jobs := []
  configMaps := [⟨"default", "tmpcampaign", [("pool1", "\x7b\"MinCount\": 1, \"MaxCount\": 3\x7d")]⟩]
  devopsPools := []
  agents := []
  nodeNames_nodup := by decide
  podKeys_nodup := by decide

/-- Two invocations of the campaign, every call answered. -/
def twice : List Move :=
  [.reconcile "default" "campaign" [] [], .reconcile "default" "campaign" [] []]

/-- Every call is answered but the seventeenth, the uncordon of `n1`, which the API
server refuses with an internal error. -/
def failedUncordon : List Fault :=
  List.replicate 16 .answer ++ [.serverError]

/-- The invocation of the campaign on `finishing` with the uncordon failing. -/
def finishingRun : EStateM.Result String Session ReconcileResult :=
  SafeEvictReconciler.reconcile patient "default" "campaign"
    (Session.start finishing failedUncordon [])

end Scenario

open Scenario

set_option maxRecDepth 2000 in
/-- Capacity is not kept for a drain. Once the temporary pool has failed to provision,
the second invocation of `surgeFails` still cordons the node of `pool1`. And from
`finishing`, the first invocation's restore leaves `pool1` `Updating` and its clean-up
cordons `t1`: the second invocation cordons `n1` while `t1` is unschedulable. -/
theorem cordons_without_surge_capacity :
    (((run config outdated surgeFails).2.get? 1).bind (·.log.get? 2)).map
        (fun entry => (entry.request, entry.world.provisioningState? "tmppool1")) =
      some (.updateNode { node "n1" "pool1" "v1" with unschedulable := true }, some "Failed") ∧
    (((run config finishing twice).2.get? 1).bind (·.log.get? 1)).map
        (fun entry => (entry.request, entry.world.provisioningState? "pool1",
          (entry.world.nodes.find? (·.name == "t1")).map (·.unschedulable))) =
      some (.updateNode { node "n1" "pool1" "v2" with unschedulable := true }, some "Updating",
        some true) :=
  ⟨by decide, by decide⟩

/-- After the uncordon of `n1` failed, the invocation removes the temporary pool,
deletes the record, and returns the success delay without an error. -/
theorem finishing_goes_on_after_failed_uncordon :
    (match finishingRun with
      | .ok result _ => some result
      | .error _ _ => none) = some ⟨patient.successReconcileTime, none⟩ ∧
    ((finalSession finishingRun).log.get? 1).map (fun entry => (entry.request, entry.accepted)) =
      some (.updateNode { node "n1" "pool1" "v2" with unschedulable := false }, false) ∧
    ((finalSession finishingRun).log.drop 5).map (fun entry => (entry.request, entry.accepted)) =
      [(.deletePool "tmppool1", true), (.deleteConfigMap "default" "tmpcampaign", true)] := by
  decide

end NodeUpdater
