import NodeUpdater.Safety
import NodeUpdater.Total

/-! # Selecting and evicting idle pods

What `GetSafeToEvictPods` answers, and the plan `EvictIdlePods` follows: four requests
a pod in list order, the first failure ending the call. -/

namespace NodeUpdater

/-! ## The pods selected -/

theorem nextOrder_perm {V : Type} (entries : GoMap V) (world : World) (faults : List Fault)
    (orders : List (List Nat)) (log : List Entry) :
    ∃ order, nextOrder entries ⟨world, faults, orders, log⟩ =
      .ok order ⟨world, faults, orders.tail, log⟩ ∧ order.Perm entries := by
  cases orders with
  | nil => exact ⟨_, rfl, List.Perm.refl _⟩
  | cons choices orders => exact ⟨_, rfl, pickOrder_perm choices entries⟩

namespace PodController

/-- The number of copies of `pod` the selector loop appends: one per entry of the
selector the pod does not match. -/
def mismatches (pod : Pod) (entries : GoMap String) : Nat :=
  entries.countP fun entry => (pod.labels.find? entry.1).getD "" != entry.2

/-- The pods `GetSafeToEvictPods` answers with, when every call is answered. -/
def copies (spec : SafeEvictSpec) (pod : Pod) : List Pod :=
  if pod.namespaceName ∈ spec.namespaces ∧ pod.phase = "Running" ∧
      ∃ line ∈ spec.lastLogLines, hasSuffix pod.log line = true then
    List.replicate (mismatches pod spec.labelSelector) pod
  else []

theorem selectorLoop_answered (spec : SafeEvictSpec) {world : World} {pod : Pod}
    (member : pod ∈ world.pods) (entries : GoMap String) (orders : List (List Nat))
    (log : List Entry) :
    selectorLoop spec pod entries ⟨world, [], orders, log⟩ =
      .ok (if pod.phase = "Running" ∧ ∃ line ∈ spec.lastLogLines, hasSuffix pod.log line = true
        then List.replicate (mismatches pod entries) pod else []) ⟨world, [], orders, log⟩ := by
  induction entries with
  | nil => split <;> rfl
  | cons entry rest induction =>
      obtain ⟨key, value⟩ := entry
      have logs : fetchPodLogs pod.name pod.namespaceName ⟨world, [], orders, log⟩ =
          .ok (.ok pod.log) ⟨world, [], orders, log⟩ := by
        simp [fetchPodLogs, Kube.getPodLogs, bind, EStateM.bind, query_answered,
          World.podWithKey?_of_mem member, pure, EStateM.pure]
      by_cases differs : (pod.labels.find? key).getD "" ≠ value <;>
        by_cases running : pod.phase = "Running" <;>
        simp [selectorLoop, differs, running, logs, induction, bind, EStateM.bind, pure,
          EStateM.pure, mismatches, List.countP_cons, List.any_eq_true, List.replicate_succ]
      split <;> simp_all

theorem filterPods_answered (spec : SafeEvictSpec) {world : World} (pods : List Pod)
    (listed : ∀ pod ∈ pods, pod ∈ world.pods) (orders : List (List Nat)) (log : List Entry) :
    ∃ rest, filterPods spec pods ⟨world, [], orders, log⟩ =
      .ok (pods.flatMap (copies spec)) ⟨world, [], rest, log⟩ := by
  induction pods generalizing orders with
  | nil => exact ⟨orders, rfl⟩
  | cons pod pods induction =>
      by_cases monitored : pod.namespaceName ∈ spec.namespaces
      · obtain ⟨order, ordered, permuted⟩ := nextOrder_perm spec.labelSelector world [] orders log
        obtain ⟨rest, others⟩ := induction (fun other member => listed other
          (List.mem_cons_of_mem _ member)) orders.tail
        refine ⟨rest, ?_⟩
        have same : mismatches pod order = mismatches pod spec.labelSelector :=
          permuted.countP_eq _
        simp only [filterPods, monitored, if_true, bind, EStateM.bind, ordered,
          selectorLoop_answered spec (listed pod (List.mem_cons_self _ _)), others, pure,
          EStateM.pure, List.flatMap_cons, copies, same, true_and]
      · obtain ⟨rest, others⟩ := induction (fun other member => listed other
          (List.mem_cons_of_mem _ member)) orders
        refine ⟨rest, ?_⟩
        simp only [filterPods, monitored, if_false, others, List.flatMap_cons, copies, false_and,
          List.nil_append]

/-- With every call answered, `GetSafeToEvictPods` answers, in the order the pods are
listed, each pod of a monitored namespace that is `Running` and whose log ends with a
sentinel, as many times as it fails to match an entry of the selector. -/
theorem getSafeToEvictPods_copies (spec : SafeEvictSpec) (world : World)
    (orders : List (List Nat)) (log : List Entry) :
    ∃ after, getSafeToEvictPods spec ⟨world, [], orders, log⟩ =
      .ok (.ok (world.pods.flatMap fun pod =>
        if pod.namespaceName ∈ spec.namespaces ∧ pod.phase = "Running" ∧
            ∃ line ∈ spec.lastLogLines, hasSuffix pod.log line = true then
          List.replicate (spec.labelSelector.countP fun entry =>
            (pod.labels.find? entry.1).getD "" != entry.2) pod
        else [])) after := by
  obtain ⟨rest, selected⟩ := filterPods_answered spec world.pods (fun _ => id) orders log
  have listing : Kube.listPods "" ⟨world, [], orders, log⟩ =
      .ok (.ok world.pods) ⟨world, [], orders, log⟩ := by
    simp [Kube.listPods, query_answered]
  exact ⟨_, by simp only [getSafeToEvictPods, bind, EStateM.bind, listing, selected, pure,
    EStateM.pure]; rfl⟩

/-- The idle agent of `draining`, under a selector of two entries it matches neither of,
is answered twice. -/
example : ∃ after, getSafeToEvictPods
    ⟨[("busy", "true"), ("done", "yes")], ["idle"], ["pool1"], ["agents"], "pool1"⟩
    (Session.start Scenario.draining [] []) =
      .ok (.ok [Scenario.agentPod, Scenario.agentPod]) after :=
  ⟨_, rfl⟩

end PodController

/-! ## One request to Azure DevOps -/

theorem World.podWithKey?_key {world : World} {namespaceName name : String} {pod : Pod}
    (found : world.podWithKey? namespaceName name = some pod) :
    pod.namespaceName = namespaceName ∧ pod.name = name := by
  simpa [Pod.key] using List.find?_some found

/-- `agent`, a pool id and an agent id, is the Azure DevOps agent of `pod` at `world`:
the agent `DisableAgent` and `RemoveAgent` find for the pod as the world holds it. -/
def PodAgent (world : World) (pod : Pod) (agent : Nat × Nat) : Prop :=
  ∃ live, world.podWithKey? pod.namespaceName pod.name = some live ∧
    AgentOf world live agent.1 agent.2

namespace PodAgent

variable {world : World} {pod : Pod}

theorem unique {agent other : Nat × Nat} (holds : PodAgent world pod agent)
    (also : PodAgent world pod other) : agent = other := by
  obtain ⟨live, found, poolName, named, poolFound, agentFound⟩ := holds
  obtain ⟨live', found', poolName', named', poolFound', agentFound'⟩ := also
  cases found.symm.trans found'
  cases named.symm.trans named'
  have samePool : agent.1 = other.1 := Option.some.inj (poolFound.symm.trans poolFound')
  rw [samePool] at agentFound
  exact Prod.ext samePool (Option.some.inj (agentFound.symm.trans agentFound'))

theorem disabled {agent : Nat × Nat} (holds : PodAgent world pod agent) (poolId agentId : Nat) :
    PodAgent { world with agents := world.agents.map fun agent =>
      if agent.poolId == poolId && agent.id == agentId then { agent with enabled := false }
      else agent } pod agent := by
  obtain ⟨live, found, poolName, named, poolFound, agentFound⟩ := holds
  refine ⟨live, found, poolName, named, poolFound, ?_⟩
  rw [← agentFound, List.filter_map, List.find?_map, Option.map_map]
  simp only [Function.comp_def, apply_ite Agent.poolId, apply_ite Agent.name,
    apply_ite Agent.id, ite_self]

end PodAgent

/-- What `DisableAgent` or `RemoveAgent` did, by its result: nil when `request` was carried
out on the pod's agent, an error when the call stopped before sending or the request was
refused. -/
def AgentAnswer (keep : World → Prop) (pod : Pod) (log : List Entry)
    (request : Nat → Nat → Request) (serve : Nat → Nat → World → Option World) :
    Except GoError Unit → World → List Entry → Prop
  | .ok _, world, current => ∃ agent sentTo, keep sentTo ∧ PodAgent sentTo pod agent ∧
      serve agent.1 agent.2 sentTo = some world ∧
      current = log ++ [⟨sentTo, request agent.1 agent.2, true⟩]
  | .error _, world, current => (keep world ∧ current = log) ∨
      ∃ agent sentTo, keep sentTo ∧ PodAgent sentTo pod agent ∧
        current = log ++ [⟨sentTo, request agent.1 agent.2, false⟩]

open AzureDevopsController in
/-- `DisableAgent` and `RemoveAgent`, whatever the answers: they fail before sending, or
they send one request, for the pod's agent, carried out or refused. -/
theorem AzureDevopsController.agentRequest_outcome {halt : Assertion}
    {log : List Entry} {pod live : Pod} {poolName : String} (keep : World → Prop)
    (request : Nat → Nat → Request) (successCode : Nat) (serve : Nat → Nat → World → Option World)
    (accepts : Nat → Bool) (failureText : String) (success : accepts successCode = true)
    (refusals : ∀ code, code = 404 ∨ code = 409 ∨ code = 500 → accepts code = false)
    (found : ∀ world, keep world → world.podWithKey? pod.namespaceName pod.name = some live)
    (named : PodController.azpPool live = some poolName) :
    Triple (fun world current => keep world ∧ current = log)
      (agentRequest (fun poolId agentId => Devops.send (request poolId agentId) successCode
        (serve poolId agentId)) accepts failureText poolName pod.name)
      (AgentAnswer keep pod log request serve) halt := by
  refine (getPoolIDFromName_triple _).bind fun result => ?_
  cases result with
  | error err => exact .pure' fun _ _ holds => Or.inl holds.1
  | ok poolID =>
  refine (Devops.get_reads _).triple.bind fun result => ?_
  cases result with
  | error err => exact .pure' fun _ _ holds => Or.inl holds.1.1
  | ok answer =>
  obtain ⟨statusCode, agents⟩ := answer
  refine .ite (fun _ => .pure' fun _ _ holds => Or.inl holds.1.1) fun _ => ?_
  dsimp only
  refine .ite (fun _ => .pure' fun _ _ holds => Or.inl holds.1.1) fun registered => ?_
  generalize agentIs : ((agents.find? (·.name == pod.name)).map (·.id)).getD 0 = agentID
    at registered ⊢
  refine .of_pre fun world current ⟨⟨⟨kept, sameLog⟩, poolFound⟩, agentsAre⟩ => ?_
  subst sameLog
  -- the agent found by name is the pod's agent at this world
  have isAgent : PodAgent world pod (poolID, agentID) := by
    have lookup := found world kept
    refine ⟨live, lookup, poolName, named, poolFound _ rfl, ?_⟩
    rw [(World.podWithKey?_key lookup).2, ← agentsAre _ _ rfl, ← agentIs]
    cases agentFound : (agents.find? (·.name == pod.name)).map (·.id) with
    | none => simp [agentFound, ← agentIs] at registered
    | some agentId => rfl
  have send : Triple (fun world' current' => world' = world ∧ current' = current)
      (Devops.send (request poolID agentID) successCode (serve poolID agentID))
      (fun answer world' current' =>
        (answer = .ok successCode ∧ serve poolID agentID world = some world' ∧
            current' = current ++ [⟨world, request poolID agentID, true⟩]) ∨
          (Devops.Refusal answer ∧
            current' = current ++ [⟨world, request poolID agentID, false⟩]))
      halt :=
    Devops.send_outcome _ _ _ (fun _ _ _ ⟨sameWorld, sameLog⟩ served =>
        .inl ⟨rfl, sameWorld ▸ served, by rw [sameWorld, sameLog]⟩)
      fun _ _ _ ⟨sameWorld, sameLog⟩ refusal => .inr ⟨refusal, by rw [sameWorld, sameLog]⟩
  refine send.bind fun answer => ?_
  cases answer with
  | error err =>
      refine .pure' fun _ _ outcome => ?_
      rcases outcome with ⟨carried, -⟩ | ⟨-, logged⟩
      · cases carried
      · exact Or.inr ⟨_, world, kept, isAgent, logged⟩
  | ok code =>
      refine .ite (fun accepted => .pure' fun _ _ outcome => ?_)
        fun notAccepted => .pure' fun _ _ outcome => ?_
      · rcases outcome with ⟨-, served, logged⟩ | ⟨refusal, -⟩
        · exact ⟨_, world, kept, isAgent, served, logged⟩
        · exact absurd accepted (by rw [refusals code (refusal code rfl)]; decide)
      · rcases outcome with ⟨carried, -⟩ | ⟨-, logged⟩
        · cases Except.ok.inj carried
          exact absurd success notAccepted
        · exact Or.inr ⟨_, world, kept, isAgent, logged⟩

/-! ## The plan of an eviction -/

/-- The four requests that evict `pod`, whose agent is `agent`, in the order
`EvictIdlePods` sends them. -/
def evictionRequests (pod : Pod) (agent : Nat × Nat) : List Request :=
  [.disableAgent agent.1 agent.2, .deleteAgent agent.1 agent.2,
    .deleteJob pod.namespaceName (JobController.jobOwnerName pod),
    .deletePod pod.namespaceName pod.name]

/-- The requests that evict `pods` in turn, each pod with its agent. -/
def evictionPlan (pods : List Pod) (agents : List (Nat × Nat)) : List Request :=
  (pods.zip agents).flatMap fun entry => evictionRequests entry.1 entry.2

@[simp] theorem evictionPlan_cons (pod : Pod) (pods : List Pod) (agent : Nat × Nat)
    (agents : List (Nat × Nat)) :
    evictionPlan (pod :: pods) (agent :: agents) =
      evictionRequests pod agent ++ evictionPlan pods agents := rfl

/-- The first request sent for each pod, the disable of its agent, reached a world where
that agent is the pod's. -/
def AgentsReached : List Pod → List (Nat × Nat) → List Entry → Prop
  | pod :: pods, agent :: agents, entry :: sent =>
      PodAgent entry.world pod agent ∧ AgentsReached pods agents (sent.drop 3)
  | _, _, _ => True

theorem AgentsReached.nil (pods : List Pod) (agents : List (Nat × Nat)) :
    AgentsReached pods agents [] := by
  cases pods <;> cases agents <;> trivial

/-- What evicting `pods` sent, and how it ended: the plan for some agent of each pod,
sent up to a point, every request but the last carried out, and nil exactly when the
whole plan was carried out. -/
structure Evicted (pods : List Pod) (agents : List (Nat × Nat)) (sent : List Entry)
    (result : Except GoError Unit) : Prop where
  oneAgentEach : agents.length = pods.length
  agentsReached : AgentsReached pods agents sent
  followsPlan : sent.map (·.request) <+: evictionPlan pods agents
  stopsAtFailure : ∀ entry ∈ sent.dropLast, entry.accepted = true
  nilIffComplete : result = .ok () ↔
    sent.map (·.request) = evictionPlan pods agents ∧ ∀ entry ∈ sent, entry.accepted = true

theorem Evicted.nil : Evicted [] [] [] (.ok ()) :=
  ⟨rfl, trivial, List.prefix_refl _, by simp, by simp [evictionPlan]⟩

/-- The requests one pod's eviction sent when it stopped: its steps up to a point, every
one carried out but the last, and not all four carried out. -/
def Stopped (pod : Pod) (agent : Nat × Nat) (block : List Entry) : Prop :=
  block.map (·.request) <+: evictionRequests pod agent ∧
    (∀ entry ∈ block.dropLast, entry.accepted = true) ∧
    ¬(block.map (·.request) = evictionRequests pod agent ∧
      ∀ entry ∈ block, entry.accepted = true) ∧
    ∀ entry ∈ block.head?, PodAgent entry.world pod agent

/-- The requests of one pod's eviction carried through: its four steps, all carried out. -/
def Complete (pod : Pod) (agent : Nat × Nat) (block : List Entry) : Prop :=
  block.map (·.request) = evictionRequests pod agent ∧
    (∀ entry ∈ block, entry.accepted = true) ∧
    ∀ entry ∈ block.head?, PodAgent entry.world pod agent

theorem Evicted.stopped {pod : Pod} {rest : List Pod} {agent : Nat × Nat} {block : List Entry}
    (stopped : Stopped pod agent block) (err : GoError) :
    Evicted (pod :: rest) (agent :: rest.map fun _ => (0, 0)) block (.error err) := by
  obtain ⟨steps, carried, short, first⟩ := stopped
  have bound : block.length ≤ 4 := by simpa using steps.length_le
  refine ⟨by simp, ?_, steps.trans (by simp), carried, iff_of_false (by simp) ?_⟩
  · cases block with
    | nil => exact AgentsReached.nil _ _
    | cons entry sent =>
        refine ⟨first entry rfl, ?_⟩
        rw [List.drop_eq_nil_of_le (by simp at bound; omega)]
        exact AgentsReached.nil _ _
  · rintro ⟨whole, accepted⟩
    have longer : evictionRequests pod agent <+: block.map (·.request) := by
      rw [whole, evictionPlan_cons]
      exact List.prefix_append _ _
    exact short ⟨steps.eq_of_length (le_antisymm steps.length_le longer.length_le), accepted⟩

theorem Evicted.cons {pod : Pod} {rest : List Pod} {agent : Nat × Nat}
    {agents : List (Nat × Nat)} {block sent : List Entry} {result : Except GoError Unit}
    (complete : Complete pod agent block) (evicted : Evicted rest agents sent result) :
    Evicted (pod :: rest) (agent :: agents) (block ++ sent) result := by
  obtain ⟨steps, carried, first⟩ := complete
  have four : block.length = 4 := by simpa [evictionRequests] using congrArg List.length steps
  refine ⟨by simp [evicted.oneAgentEach], ?_, ?_, fun entry member => ?_, ?_⟩
  · match block, four, first with
    | entry :: tail, four, first =>
        refine ⟨first entry rfl, ?_⟩
        show AgentsReached rest agents ((tail ++ sent).drop 3)
        rw [List.drop_left' (by simpa using four)]
        exact evicted.agentsReached
  · rw [List.map_append, steps, evictionPlan_cons]
    exact List.prefix_append_right_inj _ |>.mpr evicted.followsPlan
  · by_cases last : sent = []
    · subst last
      exact carried entry (List.dropLast_subset _ (by simpa using member))
    · rw [List.dropLast_append_of_ne_nil _ last, List.mem_append] at member
      exact member.elim (carried entry) (evicted.stopsAtFailure entry)
  · rw [evicted.nilIffComplete, List.map_append, steps, evictionPlan_cons,
      List.append_cancel_left_eq]
    simp only [List.mem_append, or_imp, forall_and]
    exact ⟨fun ⟨planned, accepted⟩ => ⟨planned, carried, accepted⟩,
      fun ⟨planned, _, accepted⟩ => ⟨planned, accepted⟩⟩

/-! ## The Job and the pod -/

/-- A call that sends at most `request`, by its result: nil when the request was sent and
carried out, an error when it was refused or never sent. -/
def SendsOnce (request : Request) (log : List Entry) : Except GoError Unit → List Entry → Prop
  | .ok _, current => ∃ sentTo, current = log ++ [⟨sentTo, request, true⟩]
  | .error _, current => current = log ∨ ∃ sentTo, current = log ++ [⟨sentTo, request, false⟩]

section SendsOnce

variable {halt : Assertion} (log : List Entry)

theorem Kube.deleteJob_sendsOnce (namespaceName name : String) :
    Triple (fun _ current => current = log) (Kube.deleteJob namespaceName name)
      (fun result _ current => SendsOnce (.deleteJob namespaceName name) log result current)
      halt :=
  mutate_triple _ _ _ (fun world _ _ same _ => ⟨world, by rw [same]⟩)
    fun world _ _ same => Or.inr ⟨world, by rw [same]⟩

theorem Kube.deletePod_sendsOnce (namespaceName name : String) :
    Triple (fun _ current => current = log) (Kube.deletePod namespaceName name)
      (fun result _ current => SendsOnce (.deletePod namespaceName name) log result current)
      halt :=
  mutate_triple _ _ _ (fun world _ _ same _ => ⟨world, by rw [same]⟩)
    fun world _ _ same => Or.inr ⟨world, by rw [same]⟩

open JobController in
theorem JobController.killJobByPod_sendsOnce (pod : Pod) :
    Triple (fun _ current => current = log) (killJobByPod pod)
      (fun result _ current =>
        SendsOnce (.deleteJob pod.namespaceName (jobOwnerName pod)) log result current) halt := by
  refine .ite (fun _ => .pure' fun _ _ => Or.inl) fun _ =>
    .ite (fun _ => .pure' fun _ _ => Or.inl) fun _ => ?_
  refine (Kube.deleteJob_sendsOnce log _ _).bind fun result => ?_
  cases result <;> exact .pure' fun _ _ => id

theorem PodController.killPod_sendsOnce (pod : Pod) :
    Triple (fun _ current => current = log) (PodController.killPod pod)
      (fun result _ current =>
        SendsOnce (.deletePod pod.namespaceName pod.name) log result current) halt := by
  refine (Kube.deletePod_sendsOnce log _ _).bind fun result => ?_
  cases result <;> exact .pure' fun _ _ => id

end SendsOnce

/-! ## Whole calls -/

open PodController AzureDevopsController JobController in
/-- The run lemma of `EvictIdlePods`: whatever the servers answer, what it sends follows
the plan of its pods, it stops at the first failure, and it returns nil exactly when it
carried out the whole plan. -/
theorem PodController.evictIdlePods_evicted (pods : List Pod) (log : List Entry) :
    Triple (fun _ current => current = log) (evictIdlePods pods)
      (fun result _ current => ∃ sent agents, current = log ++ sent ∧
        Evicted pods agents sent result)
      (fun _ _ => False) := by
  induction pods generalizing log with
  | nil => exact .pure' fun _ _ same => ⟨[], [], by simp [same], Evicted.nil⟩
  | cons pod rest induction =>
      have stop : ∀ {current : List Entry} (agent : Nat × Nat) (block : List Entry)
          (err : GoError), current = log ++ block → Stopped pod agent block →
          ∃ sent agents, current = log ++ sent ∧ Evicted (pod :: rest) agents sent (.error err) :=
        fun _ block err logged stopped => ⟨block, _, logged, Evicted.stopped stopped err⟩
      refine (getPodsPool_triple _ _).bind fun result => ?_
      cases result with
      | error err =>
          exact .pure' fun _ _ ⟨same, _⟩ =>
            stop (0, 0) [] err (by simp [same]) (by simp [Stopped, evictionRequests])
      | ok poolName =>
      refine .of_pre fun world current ⟨same, found⟩ => ?_
      obtain ⟨live, lookup, named⟩ := found _ rfl
      subst same
      -- the disable: refused, or carried out on the pod's agent
      refine (Triple.of_eq ⟨lookup, rfl⟩ (agentRequest_outcome
        (fun world => world.podWithKey? pod.namespaceName pod.name = some live)
        (.disableAgent · ·) 200 _ (· == 200) _ rfl
        (fun code refused => by rcases refused with rfl | rfl | rfl <;> rfl) (fun _ => id)
        named)).bind fun result => ?_
      cases result with
      | error err =>
          refine .pure' fun _ _ outcome => ?_
          rcases outcome with ⟨-, same⟩ | ⟨agent, sentTo, -, agentIs, logged⟩
          · exact stop (0, 0) [] err (by simp [same]) (by simp [Stopped, evictionRequests])
          · exact stop agent _ err logged (by simp [Stopped, evictionRequests, agentIs])
      | ok _ =>
      refine .of_pre fun world disabled ⟨agent, sentTo, kept, agentIs, served, logged⟩ => ?_
      have still : world.podWithKey? pod.namespaceName pod.name = some live ∧
          PodAgent world pod agent := by
        beta_reduce at served
        split at served
        · cases served
          exact ⟨kept, agentIs.disabled _ _⟩
        · cases served
      -- the removal: refused, or carried out on the same agent
      refine (Triple.of_eq ⟨still, rfl⟩ (agentRequest_outcome
        (fun world => world.podWithKey? pod.namespaceName pod.name = some live ∧
          PodAgent world pod agent)
        (.deleteAgent · ·) 204 _ (fun statusCode => statusCode == 200 || statusCode == 204) _
        rfl (fun code refused => by rcases refused with rfl | rfl | rfl <;> rfl)
        (fun _ kept => kept.1) named)).bind fun result => ?_
      cases result with
      | error err =>
          refine .pure' fun _ _ outcome => ?_
          rcases outcome with ⟨-, same⟩ | ⟨other, sentTo', ⟨-, kept'⟩, agentIs', logged'⟩
          · exact stop agent [_] err (by rw [same, logged])
              (by simp [Stopped, evictionRequests, agentIs])
          · obtain rfl := kept'.unique agentIs'
            exact stop agent _ err (by rw [logged', logged, List.append_assoc])
              (by simp [Stopped, evictionRequests, agentIs])
      | ok _ =>
      refine .of_pre fun world removed ⟨other, sentTo', ⟨_, kept'⟩, agentIs', _, logged'⟩ => ?_
      obtain rfl := kept'.unique agentIs'
      -- the Job, then the pod
      refine Triple.bind ((killJobByPod_sendsOnce removed pod).weaken (fun _ _ same => same.2)
        (fun _ _ _ => id) fun _ _ => id) fun result => ?_
      cases result with
      | error err =>
          refine .pure' fun _ _ sends => ?_
          rcases sends with same | ⟨sentTo'', logged''⟩
          · exact stop agent _ err (by rw [same, logged', logged, List.append_assoc])
              (by simp [Stopped, evictionRequests, agentIs])
          · exact stop agent _ err
              (by rw [logged'', logged', logged, List.append_assoc, List.append_assoc])
              (by simp [Stopped, evictionRequests, agentIs])
      | ok _ =>
      refine .of_pre fun world jobDeleted ⟨sentTo'', logged''⟩ => ?_
      refine Triple.bind ((killPod_sendsOnce jobDeleted pod).weaken (fun _ _ same => same.2)
        (fun _ _ _ => id) fun _ _ => id) fun result => ?_
      cases result with
      | error err =>
          refine .pure' fun _ _ sends => ?_
          rcases sends with same | ⟨lastTo, lastLogged⟩
          · exact stop agent _ err
              (by rw [same, logged'', logged', logged, List.append_assoc, List.append_assoc])
              (by simp [Stopped, evictionRequests, agentIs])
          · exact stop agent _ err (by
              rw [lastLogged, logged'', logged', logged, List.append_assoc, List.append_assoc,
                List.append_assoc])
              (by simp [Stopped, evictionRequests, agentIs])
      | ok _ =>
      refine .of_pre fun world podDeleted ⟨lastTo, lastLogged⟩ => ?_
      -- the pods after it
      refine (induction podDeleted).weaken (fun _ _ same => same.2)
        (fun _ _ _ ⟨sent, agents, restLogged, evicted⟩ =>
          ⟨[⟨sentTo, .disableAgent agent.1 agent.2, true⟩, ⟨sentTo', .deleteAgent agent.1 agent.2, true⟩,
            ⟨sentTo'', .deleteJob pod.namespaceName (jobOwnerName pod), true⟩,
            ⟨lastTo, .deletePod pod.namespaceName pod.name, true⟩] ++ sent, agent :: agents,
            by simp [restLogged, lastLogged, logged'', logged', logged],
            Evicted.cons (by simp [Complete, evictionRequests, agentIs]) evicted⟩) fun _ _ => id

/-! ## Evictions that go through -/

theorem find?_filter_of_find? {α : Type} {xs : List α} {p q : α → Bool} {a : α}
    (found : xs.find? q = some a) (kept : p a = true) : (xs.filter p).find? q = some a := by
  obtain ⟨holds, before, after, split, earlier⟩ := List.find?_eq_some.mp found
  rw [List.find?_filter]
  exact List.find?_eq_some.mpr ⟨by simp [kept, holds], before, after, split,
    fun c member => by simp [earlier c member]⟩

theorem PodAgent.hasAgent {world : World} {pod : Pod} {agent : Nat × Nat}
    (agentOf : PodAgent world pod agent) : Devops.hasAgent world agent.1 agent.2 = true := by
  obtain ⟨_, _, _, _, _, agentFound⟩ := agentOf
  obtain ⟨entry, entryFound, sameId⟩ := Option.map_eq_some'.mp agentFound
  obtain ⟨member, inPool⟩ := List.mem_filter.mp (List.mem_of_find?_eq_some entryFound)
  exact List.any_eq_true.mpr ⟨entry, member, by simp_all⟩

def jobOf (pod : Pod) : Job :=
  ⟨pod.namespaceName, JobController.jobOwnerName pod⟩

/-- What evicting `pod` needs of the world for each of its four steps to be carried out:
the pod, its `AZP_POOL` and a registered agent, and the Job that owns it. -/
structure EvictionReady (world : World) (pod : Pod) (agent : Nat × Nat) : Prop where
  agentOf : PodAgent world pod agent
  registered : agent.2 ≠ 0
  jobOwner : JobController.jobOwnerName pod ≠ ""
  jobListed : jobOf pod ∈ world.jobs

/-- Every pod of the list ready to be evicted, each with its own key, agent and Job. -/
structure EvictionsReady (world : World) (pods : List Pod) (agents : List (Nat × Nat)) :
    Prop where
  oneAgentEach : agents.length = pods.length
  ready : ∀ entry ∈ pods.zip agents, EvictionReady world entry.1 entry.2
  keysDistinct : (pods.map Pod.key).Nodup
  jobsDistinct : (pods.map jobOf).Nodup
  agentsDistinct : agents.Nodup

namespace EvictionReady

variable {world : World} {pod : Pod} {agent : Nat × Nat}

theorem disabled (ready : EvictionReady world pod agent) (poolId agentId : Nat) :
    EvictionReady { world with agents := world.agents.map fun agent =>
      if agent.poolId == poolId && agent.id == agentId then { agent with enabled := false }
      else agent } pod agent :=
  { ready with agentOf := ready.agentOf.disabled poolId agentId }

theorem agentDeleted (ready : EvictionReady world pod agent) {poolId agentId : Nat}
    (other : agent ≠ (poolId, agentId)) :
    EvictionReady { world with agents := world.agents.filter fun agent =>
      !(agent.poolId == poolId && agent.id == agentId) } pod agent := by
  obtain ⟨⟨live, found, poolName, named, poolFound, agentFound⟩, registered, jobOwner,
    jobListed⟩ := ready
  obtain ⟨entry, entryFound, sameId⟩ := Option.map_eq_some'.mp agentFound
  have inPool : entry.poolId = agent.1 := by
    simpa using (List.mem_filter.mp (List.mem_of_find?_eq_some entryFound)).2
  have kept : (!(entry.poolId == poolId && entry.id == agentId)) = true := by
    simpa [inPool, sameId, Prod.ext_iff, imp_iff_not_or] using other
  refine ⟨⟨live, found, poolName, named, poolFound, ?_⟩, registered, jobOwner, jobListed⟩
  rw [List.find?_filter] at entryFound ⊢
  rw [find?_filter_of_find? entryFound kept]
  exact congrArg some sameId

theorem jobDeleted (ready : EvictionReady world pod agent) {job : Job} (other : jobOf pod ≠ job) :
    EvictionReady { world with jobs := world.jobs.filter (· != job) } pod agent :=
  { ready with jobListed := List.mem_filter.mpr ⟨ready.jobListed, bne_iff_ne.mpr other⟩ }

theorem podRemoved (ready : EvictionReady world pod agent) {namespaceName name : String}
    (other : pod.key ≠ (namespaceName, name)) :
    EvictionReady (world.removePod namespaceName name) pod agent := by
  obtain ⟨⟨live, found, agentOf⟩, registered, jobOwner, jobListed⟩ := ready
  have sameKey := World.podWithKey?_key found
  refine ⟨⟨live, find?_filter_of_find? found ?_, agentOf⟩, registered, jobOwner, jobListed⟩
  simpa [Pod.key, sameKey.1, sameKey.2] using other

end EvictionReady

namespace EvictionsReady

variable {world : World} {pods : List Pod} {agents : List (Nat × Nat)}

theorem tail {pod : Pod} {agent : Nat × Nat}
    (ready : EvictionsReady world (pod :: pods) (agent :: agents)) :
    EvictionsReady world pods agents :=
  ⟨by simpa using ready.oneAgentEach, fun entry member => ready.ready entry (by simp [member]),
    (List.nodup_cons.mp ready.keysDistinct).2, (List.nodup_cons.mp ready.jobsDistinct).2,
    (List.nodup_cons.mp ready.agentsDistinct).2⟩

theorem disabled (ready : EvictionsReady world pods agents) (poolId agentId : Nat) :
    EvictionsReady { world with agents := world.agents.map fun agent =>
      if agent.poolId == poolId && agent.id == agentId then { agent with enabled := false }
      else agent } pods agents :=
  { ready with ready := (fun entry member => (ready.ready entry member).disabled poolId agentId) }

theorem agentDeleted (ready : EvictionsReady world pods agents) {poolId agentId : Nat}
    (other : (poolId, agentId) ∉ agents) :
    EvictionsReady { world with agents := world.agents.filter fun agent =>
      !(agent.poolId == poolId && agent.id == agentId) } pods agents :=
  { ready with ready := (fun entry member => (ready.ready entry member).agentDeleted
      fun same => other (same ▸ (List.of_mem_zip member).2)) }

theorem jobDeleted (ready : EvictionsReady world pods agents) {job : Job}
    (other : job ∉ pods.map jobOf) :
    EvictionsReady { world with jobs := world.jobs.filter (· != job) } pods agents :=
  { ready with ready := (fun entry member => (ready.ready entry member).jobDeleted
      fun same => other (same ▸ List.mem_map_of_mem _ (List.of_mem_zip member).1)) }

theorem podRemoved (ready : EvictionsReady world pods agents) {namespaceName name : String}
    (other : (namespaceName, name) ∉ pods.map Pod.key) :
    EvictionsReady (world.removePod namespaceName name) pods agents :=
  { ready with ready := (fun entry member => (ready.ready entry member).podRemoved
      fun same => other (same ▸ List.mem_map_of_mem _ (List.of_mem_zip member).1)) }

end EvictionsReady

section Answered

open PodController AzureDevopsController JobController

variable {world : World} {log : List Entry} {pod : Pod} {poolName : String}

theorem PodController.getPodsPool_completes
    (pooled : (world.podWithKey? pod.namespaceName pod.name).bind azpPool = some poolName) :
    Completes (At world log) (getPodsPool pod.name pod.namespaceName)
      fun result world' log' => result = .ok poolName ∧ At world log world' log' := by
  refine query_bind _ _ ?_
  cases found : world.podWithKey? pod.namespaceName pod.name with
  | none => simp [found] at pooled
  | some live =>
      rw [found, Option.some_bind] at pooled
      simp only [pooled]
      exact .pure' fun _ _ holds => ⟨rfl, holds⟩

theorem AzureDevopsController.agentRequest_completes {agent : Nat × Nat} {post : Assertion}
    {action : Nat → Nat → Api (Except GoError Nat)} {accepts : Nat → Bool}
    {failureText : String} (agentOf : PodAgent world pod agent)
    (pooled : (world.podWithKey? pod.namespaceName pod.name).bind azpPool = some poolName)
    (registered : agent.2 ≠ 0)
    (acts : Completes (At world log) (action agent.1 agent.2) fun result world' log' =>
      ∃ code, result = .ok code ∧ accepts code = true ∧ post world' log') :
    Completes (At world log) (agentRequest action accepts failureText poolName pod.name)
      fun result world' log' => result = .ok () ∧ post world' log' := by
  obtain ⟨live, found, poolName', named, poolFound, agentFound⟩ := agentOf
  rw [found, Option.some_bind] at pooled
  cases pooled.symm.trans named
  rw [(World.podWithKey?_key found).2] at agentFound
  obtain ⟨devopsPool, poolFound, samePool⟩ := Option.map_eq_some'.mp poolFound
  have poolId : Completes (At world log) (getPoolIDFromName poolName)
      fun result world' log' => result = .ok agent.1 ∧ At world log world' log' := by
    refine Devops.get_bind _ ?_
    simp only [poolFound, ne_eq, not_true_eq_false, ↓reduceIte]
    exact .pure' fun _ _ holds => ⟨samePool ▸ rfl, holds⟩
  refine poolId.bind_eq (Devops.get_bind _ ?_)
  simp only [agentFound, ne_eq, not_true_eq_false, ↓reduceIte, Option.getD_some, registered]
  refine acts.bind fun result => .of_pre fun _ _ ⟨code, same, accepted, holds⟩ => ?_
  subst same
  simp only [accepted, ↓reduceIte]
  refine .pure' ?_
  rintro _ _ ⟨rfl, rfl⟩
  exact ⟨rfl, holds⟩

/-- `DisableAgent` and `RemoveAgent` for a pod with a registered agent, which the service
finds: the request goes out for that agent and is carried out. -/
theorem AzureDevopsController.agentRequest_send_completes {agent : Nat × Nat} {updated : World}
    {request : Nat → Nat → Request} {successCode : Nat}
    {serve : Nat → Nat → World → Option World} {accepts : Nat → Bool} {failureText : String}
    (agentOf : PodAgent world pod agent)
    (pooled : (world.podWithKey? pod.namespaceName pod.name).bind azpPool = some poolName)
    (registered : agent.2 ≠ 0) (served : serve agent.1 agent.2 world = some updated)
    (success : accepts successCode = true) :
    Completes (At world log) (agentRequest (fun poolId agentId =>
        Devops.send (request poolId agentId) successCode (serve poolId agentId))
        accepts failureText poolName pod.name) fun result world' log' =>
      result = .ok () ∧ At updated (log ++ [⟨world, request agent.1 agent.2, true⟩]) world' log' := by
  refine agentRequest_completes agentOf pooled registered (Devops.send_completes _ _ _ ?_ ?_)
  · rintro _ _ _ ⟨rfl, rfl⟩ sent
    cases served.symm.trans sent
    exact ⟨successCode, rfl, success, rfl, rfl⟩
  · rintro _ _ ⟨rfl, rfl⟩ refused
    cases served.symm.trans refused

theorem JobController.killJobByPod_completes (jobOwner : jobOwnerName pod ≠ "")
    (jobListed : jobOf pod ∈ world.jobs) :
    Completes (At world log) (killJobByPod pod) fun result world' log' =>
      result = .ok () ∧ At { world with jobs := world.jobs.filter (· != jobOf pod) }
        (log ++ [⟨world, .deleteJob pod.namespaceName (jobOwnerName pod), true⟩]) world' log' := by
  have owned : pod.ownerReferences.isEmpty = false := by
    cases references : pod.ownerReferences with
    | nil => simp [jobOwnerName, references] at jobOwner
    | cons _ _ => rfl
  refine .ite (fun empty => nomatch owned.symm.trans empty) fun _ =>
    .ite (fun unnamed => absurd unnamed jobOwner) fun _ => ?_
  exact mutate_bind_ok _ _ (if_pos (List.elem_eq_true_of_mem jobListed))
    (.pure' fun _ _ holds => ⟨rfl, holds⟩)

theorem PodController.killPod_completes {live : Pod}
    (found : world.podWithKey? pod.namespaceName pod.name = some live) :
    Completes (At world log) (killPod pod) fun result world' log' =>
      result = .ok () ∧ At (world.removePod pod.namespaceName pod.name)
        (log ++ [⟨world, .deletePod pod.namespaceName pod.name, true⟩]) world' log' :=
  mutate_bind_ok _ _ (if_pos (by rw [found]; rfl)) (.pure' fun _ _ holds => ⟨rfl, holds⟩)

end Answered

open PodController AzureDevopsController JobController in
/-- With every call answered, `EvictIdlePods` evicts pods that are all ready to be evicted,
each with its own agent, and returns nil. -/
theorem PodController.evictIdlePods_completes (pods : List Pod) (agents : List (Nat × Nat)) :
    Completes (fun world _ => EvictionsReady world pods agents) (evictIdlePods pods)
      fun result _ _ => result = .ok () := by
  induction pods generalizing agents with
  | nil => exact .pure' fun _ _ _ => rfl
  | cons pod rest induction =>
  match agents with
  | [] => exact fun _ _ _ ready => absurd ready.oneAgentEach (by simp)
  | agent :: agents =>
  refine .of_pre fun world log ready => ?_
  have first : EvictionReady world pod agent := ready.ready (pod, agent) (List.mem_cons_self _ _)
  obtain ⟨live, found, poolName, named, _⟩ := first.agentOf
  have pooled : (world.podWithKey? pod.namespaceName pod.name).bind azpPool = some poolName := by
    rw [found]
    exact named
  have notKey := (List.nodup_cons.mp ready.keysDistinct).1
  have notJob := (List.nodup_cons.mp ready.jobsDistinct).1
  have notAgent := (List.nodup_cons.mp ready.agentsDistinct).1
  -- each step is stated at the world the steps before it left
  refine .bind_eq (getPodsPool_completes pooled) <|
    .bind_eq (agentRequest_send_completes first.agentOf pooled first.registered
      (if_pos first.agentOf.hasAgent) rfl) <|
    .bind_eq (agentRequest_send_completes (first.disabled agent.1 agent.2).agentOf pooled
      first.registered (if_pos (first.disabled agent.1 agent.2).agentOf.hasAgent) rfl) <|
    .bind_eq (killJobByPod_completes first.jobOwner first.jobListed) <|
    .bind_eq (killPod_completes found) ?_
  refine (induction agents).weaken ?_ fun _ _ _ => id
  rintro _ _ ⟨rfl, rfl⟩
  exact (((ready.tail.disabled agent.1 agent.2).agentDeleted notAgent).jobDeleted
    notJob).podRemoved notKey

/-- Whatever the world, the answers of the servers and the orders of the map iterations,
`EvictIdlePods` returns, and what it sent follows the plan of its pods in list order: a
prefix of it, every request but the last carried out, and nil exactly when the whole
plan was carried out. With every call answered and every pod ready to be evicted, it
returns nil, so the whole plan was sent and carried out. -/
theorem evictIdlePods_follows_plan (pods : List Pod) (session : Session) :
    ∃ result after sent agents, PodController.evictIdlePods pods session = .ok result after ∧
      after.log = session.log ++ sent ∧ Evicted pods agents sent result ∧
      (session.faults = [] → (∃ agents, EvictionsReady session.world pods agents) →
        result = .ok ()) := by
  have holds := PodController.evictIdlePods_evicted pods session.log session rfl
  have completes : session.faults = [] → (∃ agents, EvictionsReady session.world pods agents) →
      ∃ after, PodController.evictIdlePods pods session = .ok (.ok ()) after := by
    rintro answering ⟨agents, ready⟩
    obtain ⟨world, faults, orders, log⟩ := session
    obtain rfl : faults = [] := answering
    obtain ⟨_, after, ran, -, rfl⟩ :=
      PodController.evictIdlePods_completes pods agents world orders log ready
    exact ⟨after, ran⟩
  revert holds completes
  cases PodController.evictIdlePods pods session with
  | ok result after =>
      refine fun ⟨sent, agents, logged, evicted⟩ completes =>
        ⟨result, after, sent, agents, rfl, logged, evicted, fun answering ready => ?_⟩
      obtain ⟨_, ran⟩ := completes answering ready
      exact (EStateM.Result.ok.inj ran).1
  | error _ _ => exact False.elim

/-- The idle agent of the draining scenario, with every call answered, is evicted whole. -/
theorem draining_evicts_agent_pod :
    EvictionsReady Scenario.draining [Scenario.agentPod] [(7, 11)] ∧
      ∃ after, PodController.evictIdlePods [Scenario.agentPod]
        (Session.start Scenario.draining [] []) = .ok (.ok ()) after := by
  have ready : EvictionsReady Scenario.draining [Scenario.agentPod] [(7, 11)] :=
    ⟨rfl, by simpa using ⟨⟨Scenario.agentPod, rfl, "ci", rfl, rfl, rfl⟩, by decide, by decide,
      by decide⟩, by decide, by decide, by decide⟩
  obtain ⟨result, after, _, _, ran, -, -, nil⟩ :=
    evictIdlePods_follows_plan [Scenario.agentPod] (Session.start Scenario.draining [] [])
  exact ⟨ready, after, nil rfl ⟨_, ready⟩ ▸ ran⟩

end NodeUpdater
