import NodeUpdater.Schedule

/-! # What each function sends, and the world it leaves

`Sends program allowed`: the requests a program may log, each carried out in the world
the ones before it left (`Replays`). -/

namespace NodeUpdater

/-- What a server does with a request it carries out. -/
def Request.apply : Request → World → World
  | .updateNode node, world => world.replaceNode node
  | .deletePod namespaceName name, world => world.removePod namespaceName name
  | .deleteJob namespaceName name, world =>
      { world with jobs := world.jobs.filter (· != ⟨namespaceName, name⟩) }
  | .createConfigMap configMap, world =>
      { world with configMaps := world.configMaps ++ [configMap] }
  | .deleteConfigMap namespaceName name, world =>
      { world with configMaps := world.configMaps.filter fun configMap =>
        !(configMap.namespaceName == namespaceName && configMap.name == name) }
  | .createOrUpdatePool name agentPool, world =>
      if (world.poolNamed? name).isSome then world.updatePool name agentPool.properties
      else { world with pools := world.pools ++ [⟨⟨name, agentPool.properties.map
        fun properties => { properties with provisioningState := some "Creating" }⟩, none⟩] }
  | .deletePool name, world => world.setPoolState name "Deleting"
  | .upgradeNodeImageVersion name, world => world.setPoolState name "UpgradingNodeImageVersion"
  | .disableAgent poolId agentId, world =>
      { world with agents := world.agents.map fun agent =>
        if agent.poolId == poolId && agent.id == agentId then { agent with enabled := false }
        else agent }
  | .deleteAgent poolId agentId, world =>
      { world with agents := world.agents.filter fun agent =>
        !(agent.poolId == poolId && agent.id == agentId) }

def Entry.apply (entry : Entry) (world : World) : World :=
  if entry.accepted then entry.request.apply world else world

/-- `sent` went out from `world` and left `after`: each entry was sent in the world the
entries before it left. -/
def Replays : World → List Entry → World → Prop
  | world, [], after => after = world
  | world, entry :: rest, after => entry.world = world ∧ Replays (entry.apply world) rest after

theorem Replays.append {world middle after : World} {first rest : List Entry}
    (firstReplays : Replays world first middle) (restReplays : Replays middle rest after) :
    Replays world (first ++ rest) after := by
  induction first generalizing world with
  | nil =>
      cases firstReplays
      exact restReplays
  | cons entry first induction => exact ⟨firstReplays.1, induction firstReplays.2⟩

/-- A view of the world that every request of `sent` keeps is the same in every world they
went out in and in the world they leave. -/
theorem Replays.keeps {β : Type} (view : World → β) {world after : World} {sent : List Entry}
    (replays : Replays world sent after)
    (keeps : ∀ entry ∈ sent, ∀ world, view (entry.apply world) = view world) :
    (∀ entry ∈ sent, view entry.world = view world) ∧ view after = view world := by
  induction sent generalizing world with
  | nil => exact ⟨fun _ member => absurd member (List.not_mem_nil _), congrArg view replays⟩
  | cons entry rest induction =>
      have applied := keeps entry (List.mem_cons_self _ _) world
      obtain ⟨earlier, final⟩ :=
        induction replays.2 fun other member => keeps other (List.mem_cons_of_mem _ member)
      refine ⟨fun other member => ?_, final.trans applied⟩
      rcases List.mem_cons.mp member with rfl | later
      · rw [replays.1]
      · exact (earlier other later).trans applied

/-- From `world` and the log `before`, the log grew by requests that `allowed` permits, and
they replay into `after`. -/
def Sent (allowed : Request → Prop) (world : World) (before : List Entry) : Assertion :=
  fun after log => ∃ sent, log = before ++ sent ∧ Replays world sent after ∧
    ∀ entry ∈ sent, allowed entry.request

/-- Every request `program` adds to the log, from any session and whether it returns or
panics, satisfies `allowed`, and the log accounts for the world it leaves. -/
def Sends {α : Type} (program : Api α) (allowed : Request → Prop) : Prop :=
  ∀ session, Sent allowed session.world session.log (finalSession (program session)).world
    (finalSession (program session)).log

theorem Triple.of_finalSession {α : Type} {pre final : Assertion} {program : Api α}
    (holds : ∀ session, pre session.world session.log →
      final (finalSession (program session)).world (finalSession (program session)).log) :
    Triple pre program (fun _ => final) final := by
  intro session start
  have ends := holds session start
  revert ends
  cases program session <;> exact id

namespace Sends

variable {α β : Type} {allowed : Request → Prop}

theorem andThen {program : Api α} {next : α → Api β} {spec : α → Prop}
    (first : Sends program allowed) (values : Returns program spec)
    (rest : ∀ value, spec value → Sends (next value) allowed) :
    Sends (program >>= next) allowed := by
  intro session
  obtain ⟨sent, logged, replays, sentAllowed⟩ := first session
  show Sent allowed _ _ (finalSession (EStateM.bind program next session)).world
    (finalSession (EStateM.bind program next session)).log
  unfold EStateM.bind
  revert logged replays
  cases returned : program session with
  | ok value after =>
      intro logged replays
      obtain ⟨more, logged', replays', moreAllowed⟩ :=
        rest value (values session value after returned) after
      refine ⟨sent ++ more, ?_, replays.append replays', fun entry member => ?_⟩
      · rw [logged', show after.log = session.log ++ sent from logged, List.append_assoc]
      · rcases List.mem_append.mp member with old | new
        · exact sentAllowed entry old
        · exact moreAllowed entry new
  | error err after => exact fun logged replays => ⟨sent, logged, replays, sentAllowed⟩

theorem bind {program : Api α} {next : α → Api β} (first : Sends program allowed)
    (rest : ∀ value, Sends (next value) allowed) : Sends (program >>= next) allowed :=
  first.andThen (show Returns program fun _ => True from fun _ _ _ _ => trivial) fun value _ =>
    rest value

theorem unchanged (session : Session) : Sent allowed session.world session.log session.world
    session.log :=
  ⟨[], (List.append_nil _).symm, rfl, fun _ member => absurd member (List.not_mem_nil _)⟩

theorem pure' {value : β} : Sends (pure value) allowed :=
  fun session => unchanged session

theorem throw' {message : String} : Sends (throw message : Api β) allowed :=
  fun session => unchanged session

theorem ite {condition : Prop} [Decidable condition] {yes no : Api β}
    (whenYes : condition → Sends yes allowed) (whenNo : ¬condition → Sends no allowed) :
    Sends (if condition then yes else no) allowed := by
  by_cases holds : condition
  · simpa [holds] using whenYes holds
  · simpa [holds] using whenNo holds

theorem of_reads {program : Api β} {spec : World → β → Prop} (reads : Reads program spec) :
    Sends program allowed := by
  intro session
  obtain ⟨value, after, returned, sameWorld, sameLog, -⟩ := reads session
  rw [returned]
  exact sameWorld ▸ sameLog ▸ unchanged after

theorem query (failure : Fault → GoError) (serve : World → Except GoError β) :
    Sends (query failure serve) allowed :=
  of_reads (query_reads failure serve)

theorem pinned {program : Api β} (sends : Sends program allowed) (world : World)
    (before : List Entry) :
    Triple (fun world' log => world' = world ∧ log = before) program
      (fun _ => Sent allowed world before) (Sent allowed world before) :=
  Triple.of_finalSession fun session ⟨sameWorld, sameLog⟩ =>
    sameWorld ▸ sameLog ▸ sends session

theorem of_triple {program : Api β}
    (triple : ∀ world before, Triple (fun world' log => world' = world ∧ log = before) program
      (fun _ => Sent allowed world before) (Sent allowed world before)) :
    Sends program allowed :=
  fun session => (triple session.world session.log).finalSession_holds session ⟨rfl, rfl⟩

theorem appended {world : World} {before : List Entry} (entry : Entry)
    (sentIn : entry.world = world)
    (allowedRequest : allowed entry.request) :
    Sent allowed world before (entry.apply world) (before ++ [entry]) :=
  ⟨[entry], rfl, ⟨sentIn, rfl⟩, fun _ member =>
    List.mem_singleton.mp member ▸ allowedRequest⟩

theorem mutate (failure : Fault → GoError) {request : Request}
    (serve : World → Except GoError World)
    (applies : ∀ world updated, serve world = .ok updated → updated = request.apply world)
    (allowedRequest : allowed request) : Sends (mutate failure request serve) allowed := by
  refine of_triple fun world before => mutate_triple _ _ _ ?_ ?_
  · rintro _ _ updated ⟨rfl, rfl⟩ served
    rw [applies _ _ served]
    exact appended ⟨_, request, true⟩ rfl allowedRequest
  · rintro _ _ _ ⟨rfl, rfl⟩
    exact appended ⟨_, request, false⟩ rfl allowedRequest

theorem send {request : Request} (successCode : Nat) (serve : World → Option World)
    (applies : ∀ world updated, serve world = some updated → updated = request.apply world)
    (allowedRequest : allowed request) : Sends (Devops.send request successCode serve) allowed := by
  refine of_triple fun world before => Devops.send_triple _ _ _ ?_ ?_
  · rintro _ _ updated ⟨rfl, rfl⟩ served
    rw [applies _ _ served]
    exact appended ⟨_, request, true⟩ rfl allowedRequest
  · rintro _ _ _ ⟨rfl, rfl⟩
    exact appended ⟨_, request, false⟩ rfl allowedRequest

theorem weaken {program : Api β} {allowed' : Request → Prop} (sends : Sends program allowed)
    (implies : ∀ request, allowed request → allowed' request) : Sends program allowed' := by
  intro session
  obtain ⟨sent, logged, replays, sentAllowed⟩ := sends session
  exact ⟨sent, logged, replays, fun entry member => implies _ (sentAllowed entry member)⟩

theorem keeps {program : Api β} {holds : Entry → Prop} (sends : Sends program allowed)
    (implies : ∀ entry, allowed entry.request → holds entry) :
    Triple (fun _ log => ∀ entry ∈ log, holds entry) program
      (fun _ _ log => ∀ entry ∈ log, holds entry) fun _ log => ∀ entry ∈ log, holds entry :=
  Triple.of_finalSession fun session before => by
    obtain ⟨sent, logged, -, sentAllowed⟩ := sends session
    rw [logged]
    intro entry member
    rcases List.mem_append.mp member with old | new
    · exact before entry old
    · exact implies entry (sentAllowed entry new)

end Sends

/-! ## The requests -/

section Primitives

variable {allowed : Request → Prop}

theorem Kube.updateNode_sends {node : Node} (allowedRequest : allowed (.updateNode node)) :
    Sends (Kube.updateNode node) allowed :=
  .mutate _ _ (fun _ _ served => by split at served <;> cases served; rfl) allowedRequest

theorem Kube.deletePod_sends {namespaceName name : String}
    (allowedRequest : allowed (.deletePod namespaceName name)) :
    Sends (Kube.deletePod namespaceName name) allowed :=
  .mutate _ _ (fun _ _ served => by split at served <;> cases served; rfl) allowedRequest

theorem Kube.deleteJob_sends {namespaceName name : String}
    (allowedRequest : allowed (.deleteJob namespaceName name)) :
    Sends (Kube.deleteJob namespaceName name) allowed :=
  .mutate _ _ (fun _ _ served => by split at served <;> cases served; rfl) allowedRequest

theorem Kube.createConfigMap_sends {configMap : ConfigMap}
    (allowedRequest : allowed (.createConfigMap configMap)) :
    Sends (Kube.createConfigMap configMap) allowed :=
  .mutate _ _ (fun _ _ served => by split at served <;> cases served; rfl) allowedRequest

theorem Kube.deleteConfigMap_sends {namespaceName name : String}
    (allowedRequest : allowed (.deleteConfigMap namespaceName name)) :
    Sends (Kube.deleteConfigMap namespaceName name) allowed :=
  .mutate _ _ (fun _ _ served => by split at served <;> cases served; rfl) allowedRequest

theorem AgentPoolClient.beginCreateOrUpdate_sends {name : String} {agentPool : AgentPool}
    (allowedRequest : allowed (.createOrUpdatePool name agentPool)) :
    Sends (AgentPoolClient.beginCreateOrUpdate name agentPool) allowed :=
  .mutate _ _ (fun _ _ served => by
    split at served <;> cases served <;> simp_all [Request.apply]) allowedRequest

theorem AgentPoolClient.beginDelete_sends {name : String}
    (allowedRequest : allowed (.deletePool name)) :
    Sends (AgentPoolClient.beginDelete name) allowed :=
  .mutate _ _ (fun _ _ served => by split at served <;> cases served; rfl) allowedRequest

theorem AgentPoolClient.beginUpgradeNodeImageVersion_sends {name : String}
    (allowedRequest : allowed (.upgradeNodeImageVersion name)) :
    Sends (AgentPoolClient.beginUpgradeNodeImageVersion name) allowed :=
  .mutate _ _ (fun _ _ served => by split at served <;> cases served; rfl) allowedRequest

theorem Devops.patchAgent_sends {poolId agentId : Nat}
    (allowedRequest : allowed (.disableAgent poolId agentId)) :
    Sends (Devops.patchAgent poolId agentId) allowed :=
  .send _ _ (fun _ _ served => by split at served <;> cases served; rfl) allowedRequest

theorem Devops.deleteAgent_sends {poolId agentId : Nat}
    (allowedRequest : allowed (.deleteAgent poolId agentId)) :
    Sends (Devops.deleteAgent poolId agentId) allowed :=
  .send _ _ (fun _ _ served => by split at served <;> cases served; rfl) allowedRequest

end Primitives


theorem Returns.of_reads {β : Type} {program : Api β} {spec : World → β → Prop}
    (reads : Reads program spec) : Returns program fun value => ∃ world, spec world value := by
  intro session value after returned
  obtain ⟨read, _, equation, -, -, holds⟩ := reads session
  rw [returned] at equation
  cases equation
  exact ⟨_, holds⟩

/-- The requests whose targets the walk below follows: node writes, node-image upgrades
and the writes of config maps. -/
def Request.tracked : Request → Bool
  | .updateNode _ => true
  | .upgradeNodeImageVersion _ => true
  | .createConfigMap _ => true
  | .deleteConfigMap _ _ => true
  | _ => false

open SafeEvictReconciler NodePoolController

section Reads

variable {allowed : Request → Prop}

theorem getNodesByNodePool_sends (nodePoolName : String) :
    Sends (getNodesByNodePool nodePoolName) allowed :=
  Sends.bind (.query _ _) fun result => by cases result <;> exact .pure'

theorem getNodesByNodePool_returns (nodePoolName : String) :
    Returns (getNodesByNodePool nodePoolName) fun result =>
      ∀ nodes, result = .ok nodes → ∀ node ∈ nodes, node.agentPool = some nodePoolName :=
  Returns.bind fun result => by
    cases result with
    | error err => exact .pure' nofun
    | ok nodes =>
        refine .pure' fun _ same node member => ?_
        cases same
        simpa using (List.mem_filter.mp member).2

theorem getNodePoolByName_sends (nodePoolName : String) :
    Sends (getNodePoolByName nodePoolName) allowed :=
  Sends.bind (.query _ _) fun result => by
    cases result with
    | ok _ => exact .pure'
    | error _ => exact .ite (fun _ => .pure') fun _ => .pure'

theorem getNodePoolByName_returns (nodePoolName : String) :
    Returns (getNodePoolByName nodePoolName) fun result =>
      ∀ nodePool, result = .ok nodePool → nodePool.name = nodePoolName := by
  refine (Returns.of_reads (query_reads _ _)).andThen fun result ⟨world, answer⟩ => ?_
  cases result with
  | error err =>
      exact .ite (fun _ => .pure' fun _ same => by cases same) fun _ =>
        .pure' fun _ same => by cases same
  | ok nodePool =>
      refine .pure' fun _ same => ?_
      cases same
      rcases answer with answer | ⟨_, failed⟩
      · split at answer
        · rename_i found
          cases answer
          exact World.agentPool_name_of_poolNamed? (by rw [found]; rfl)
        · cases answer
      · cases failed

theorem getPodsPool_sends (podName namespaceName : String) :
    Sends (PodController.getPodsPool podName namespaceName) allowed :=
  Sends.bind (.query _ _) fun result => by
    cases result with
    | error err => exact .pure'
    | ok pod =>
        dsimp only
        split <;> exact .pure'

theorem fetchPodLogs_sends (podName namespaceName : String) :
    Sends (PodController.fetchPodLogs podName namespaceName) allowed :=
  Sends.bind (.query _ _) fun result => by cases result <;> exact .pure'

theorem selectorLoop_sends (spec : SafeEvictSpec) (pod : Pod) (selector : GoMap String) :
    Sends (PodController.selectorLoop spec pod selector) allowed := by
  induction selector with
  | nil => exact .pure'
  | cons entry rest induction =>
      refine .ite (fun _ => Sends.bind (fetchPodLogs_sends _ _) fun result => ?_) fun _ => induction
      cases result with
      | error _ => exact induction
      | ok logs => exact Sends.bind induction fun _ => .pure'

theorem filterPods_sends (spec : SafeEvictSpec) (pods : List Pod) :
    Sends (PodController.filterPods spec pods) allowed := by
  induction pods with
  | nil => exact .pure'
  | cons pod rest induction =>
      refine .ite (fun _ => ?_) fun _ => induction
      exact Sends.bind (.of_reads (nextOrder_reads _)) fun _ =>
        Sends.bind (selectorLoop_sends _ _ _) fun _ => Sends.bind induction fun _ => .pure'

theorem getSafeToEvictPods_sends (spec : SafeEvictSpec) :
    Sends (PodController.getSafeToEvictPods spec) allowed :=
  Sends.bind (.query _ _) fun result => by
    cases result with
    | error err => exact .pure'
    | ok pods => exact Sends.bind (filterPods_sends _ _) fun _ => .pure'

theorem hasRunningStatefulPods_sends (nodes : List Node) (namespaces : List String) :
    Sends (hasRunningStatefulPods nodes namespaces) allowed := by
  induction namespaces with
  | nil => exact .pure'
  | cons namespaceName rest induction =>
      refine Sends.bind (.query _ _) fun result => ?_
      cases result with
      | error err => exact .pure'
      | ok pods => exact .ite (fun _ => .pure') fun _ => induction

theorem getNodeImageVersions_sends (nodePoolNames : List String) :
    Sends (getNodeImageVersions nodePoolNames) allowed :=
  Sends.bind (.query _ _) fun result => by cases result <;> exact .pure'

theorem getNodePoolUpgradeProfile_sends (nodePoolName : String) :
    Sends (getNodePoolUpgradeProfile nodePoolName) allowed :=
  Sends.bind (.query _ _) fun result => by
    rcases result with err | latest | _
    · exact .pure'
    · exact .pure'
    · exact .pure'

theorem getPoolIDFromName_sends (poolName : String) :
    Sends (AzureDevopsController.getPoolIDFromName poolName) allowed :=
  Sends.bind (.of_reads (Devops.get_reads _)) fun result => by
    rcases result with err | ⟨statusCode, pools⟩
    · exact .pure'
    · exact .ite (fun _ => .pure') fun _ => by split <;> exact .pure'

theorem agentRequest_sends {action : Nat → Nat → Api (Except GoError Nat)}
    (accepts : Nat → Bool) (failureText poolName agentName : String)
    (acts : ∀ poolId agentId, Sends (action poolId agentId) allowed) :
    Sends (AzureDevopsController.agentRequest action accepts failureText poolName agentName)
      allowed := by
  refine Sends.bind (getPoolIDFromName_sends _) fun result => ?_
  cases result with
  | error err => exact .pure'
  | ok poolID =>
  refine Sends.bind (.of_reads (Devops.get_reads _)) fun result => ?_
  rcases result with err | ⟨statusCode, agents⟩
  · exact .pure'
  refine .ite (fun _ => .pure') fun _ => ?_
  dsimp only
  refine .ite (fun _ => .pure') fun _ => Sends.bind (acts _ _) fun result => ?_
  cases result with
  | error err => exact .pure'
  | ok _ => exact .ite (fun _ => .pure') fun _ => .pure'

theorem getConfigMap_sends (namespaceName name : String) :
    Sends (ConfigMapController.getConfigMap namespaceName name) allowed :=
  Sends.bind (.query _ _) fun result => by
    cases result with
    | ok _ => exact .pure'
    | error _ => exact .ite (fun _ => .pure') fun _ => .pure'

theorem getConfigMapData_sends (namespaceName name : String) :
    Sends (ConfigMapController.getConfigMapData namespaceName name) allowed :=
  Sends.bind (getConfigMap_sends _ _) fun result => by
    cases result with
    | ok _ => exact .pure'
    | error _ => exact .ite (fun _ => .pure') fun _ => .pure'

theorem getNodePoolProvisioningState_sends (nodePoolName : String) :
    Sends (getNodePoolProvisioningState nodePoolName) allowed :=
  Sends.bind (.query _ _) fun result => by
    cases result with
    | error err => exact .pure'
    | ok nodePool =>
        dsimp only
        split <;> exact .pure'

theorem nodePoolExists_sends (nodePoolName : String) :
    Sends (nodePoolExists nodePoolName) allowed :=
  Sends.bind (.query _ _) fun result => by
    cases result with
    | ok _ => exact .pure'
    | error _ => exact .ite (fun _ => .pure') fun _ => .pure'

end Reads

section Writes

variable {allowed : Request → Prop}

theorem setUnschedulable_sends (toCordon : Bool) (nodes : List Node)
    (writes : ∀ node ∈ nodes, allowed (.updateNode { node with unschedulable := toCordon })) :
    Sends (setUnschedulable toCordon nodes) allowed := by
  induction nodes with
  | nil => exact .pure'
  | cons node rest induction =>
      refine Sends.bind (Kube.updateNode_sends (writes node (List.mem_cons_self _ _)))
        fun result => ?_
      cases result with
      | error err => exact .pure'
      | ok _ => exact induction fun other member => writes other (List.mem_cons_of_mem _ member)

theorem cordonNodesByAgentPool_sends (nodePoolName : String) (toCordon : Bool)
    (writes : ∀ node : Node, node.agentPool = some nodePoolName →
      allowed (.updateNode { node with unschedulable := toCordon })) :
    Sends (cordonNodesByAgentPool nodePoolName toCordon) allowed :=
  (getNodesByNodePool_sends _).andThen (getNodesByNodePool_returns _) fun result listed => by
    cases result with
    | error err => exact .pure'
    | ok nodes =>
        exact setUnschedulable_sends _ _ fun node member => writes node (listed _ rfl node member)

theorem upgradeNodeImageVersion_sends (nodepool : AgentPool)
    (upgrades : allowed (.upgradeNodeImageVersion nodepool.name)) :
    Sends (upgradeNodeImageVersion nodepool) allowed := by
  unfold upgradeNodeImageVersion
  split
  · exact .pure'
  · exact .pure'
  refine Sends.bind (getNodeImageVersions_sends _) fun result => ?_
  cases result with
  | error err => exact .pure'
  | ok versions =>
  refine Sends.bind (getNodePoolUpgradeProfile_sends _) fun result => ?_
  cases result with
  | error err => exact .pure'
  | ok latest =>
  refine .ite (fun _ => .pure') fun _ => Sends.bind
    (AgentPoolClient.beginUpgradeNodeImageVersion_sends upgrades) fun result => ?_
  cases result <;> exact .pure'

theorem upgradeLoop_sends (observed : Observation) (nodepools : List String)
    (upgrades : ∀ poolName ∈ nodepools, allowed (.upgradeNodeImageVersion poolName)) :
    Sends (upgradeLoop observed nodepools) allowed := by
  induction nodepools with
  | nil => exact .pure'
  | cons nodepoolName rest induction =>
      refine Sends.bind (getNodesByNodePool_sends _) fun result => ?_
      cases result with
      | error err => exact .pure'
      | ok nodes =>
      refine Sends.bind (hasRunningStatefulPods_sends _ _) fun result => ?_
      cases result with
      | error err => exact .pure'
      | ok running =>
      have next := induction fun other member => upgrades other (List.mem_cons_of_mem _ member)
      cases running with
      | true => exact next
      | false =>
      refine (getNodePoolByName_sends _).andThen (getNodePoolByName_returns _)
        fun result named => ?_
      cases result with
      | error err => exact .pure'
      | ok nodepool =>
      refine .ite (fun _ => .pure') fun _ =>
        Sends.bind (upgradeNodeImageVersion_sends _
          (named _ rfl ▸ upgrades nodepoolName (List.mem_cons_self _ _)))
          fun result => ?_
      cases result with
      | error err => exact .pure'
      | ok _ => exact next

theorem createConfigMap_sends (namespaceName name : String) (data : GoMap String)
    (records : allowed (.createConfigMap ⟨namespaceName, name, data⟩)) :
    Sends (ConfigMapController.createConfigMap namespaceName name data) allowed :=
  Sends.bind (getConfigMap_sends _ _) fun result => by
    cases result with
    | ok _ => exact .pure'
    | error _ =>
        exact Sends.bind (Kube.createConfigMap_sends records) fun result => by
          cases result <;> exact .pure'

theorem deleteConfigMap_sends (namespaceName name : String)
    (deletes : allowed (.deleteConfigMap namespaceName name)) :
    Sends (ConfigMapController.deleteConfigMap namespaceName name) allowed :=
  Sends.bind (Kube.deleteConfigMap_sends deletes) fun result => by
    cases result with
    | ok _ => exact .pure'
    | error _ => exact .ite (fun _ => .pure') fun _ => .pure'

theorem createTemporaryNodePool_sends (newNodePoolName sourceNodePoolName : String)
    (creates : ∀ agentPool, allowed (.createOrUpdatePool newNodePoolName agentPool)) :
    Sends (createTemporaryNodePool newNodePoolName sourceNodePoolName) allowed :=
  Sends.bind (.query _ _) fun result => by
    cases result with
    | error err => exact .pure'
    | ok sourceNodePool =>
        dsimp only
        split
        · exact .pure'
        · exact Sends.bind (AgentPoolClient.beginCreateOrUpdate_sends (creates _))
            fun result => by cases result <;> exact .pure'

variable (others : ∀ request, request.tracked = false → allowed request)

include others

theorem killJobByPod_sends (pod : Pod) : Sends (JobController.killJobByPod pod) allowed := by
  refine .ite (fun _ => .pure') fun _ => .ite (fun _ => .pure') fun _ => ?_
  exact Sends.bind (Kube.deleteJob_sends (others _ rfl)) fun result => by
    cases result <;> exact .pure'

theorem killPod_sends (pod : Pod) : Sends (PodController.killPod pod) allowed :=
  Sends.bind (Kube.deletePod_sends (others _ rfl)) fun result => by cases result <;> exact .pure'

theorem evictIdlePods_sends (pods : List Pod) :
    Sends (PodController.evictIdlePods pods) allowed := by
  induction pods with
  | nil => exact .pure'
  | cons pod rest induction =>
      refine Sends.bind (getPodsPool_sends _ _) fun result => ?_
      cases result with
      | error err => exact .pure'
      | ok poolName =>
      refine Sends.bind (agentRequest_sends _ _ _ _ fun _ _ =>
        Devops.patchAgent_sends (others _ rfl)) fun result => ?_
      cases result with
      | error err => exact .pure'
      | ok _ =>
      refine Sends.bind (agentRequest_sends _ _ _ _ fun _ _ =>
        Devops.deleteAgent_sends (others _ rfl)) fun result => ?_
      cases result with
      | error err => exact .pure'
      | ok _ =>
      refine Sends.bind (killJobByPod_sends others pod) fun result => ?_
      cases result with
      | error err => exact .pure'
      | ok _ =>
      refine Sends.bind (killPod_sends others pod) fun result => ?_
      cases result with
      | error err => exact .pure'
      | ok _ => exact induction

theorem evictionLoop_sends (spec : SafeEvictSpec) (poolNames : List String)
    (cordons : ∀ poolName ∈ poolNames, ∀ node : Node, node.agentPool = some poolName →
      allowed (.updateNode { node with unschedulable := true })) :
    Sends (evictionLoop spec poolNames) allowed := by
  induction poolNames with
  | nil => exact .pure'
  | cons poolName rest induction =>
      refine Sends.bind (cordonNodesByAgentPool_sends _ _ (cordons _ (List.mem_cons_self _ _)))
        fun result => ?_
      cases result with
      | error err => exact .pure'
      | ok _ =>
      refine Sends.bind (getSafeToEvictPods_sends _) fun result => ?_
      cases result with
      | error err => exact .pure'
      | ok pods =>
      refine Sends.bind (getNodesByNodePool_sends _) fun result => ?_
      cases result with
      | error err => exact .pure'
      | ok nodes =>
      refine Sends.bind (evictIdlePods_sends others _) fun result => ?_
      cases result with
      | error err => exact .pure'
      | ok _ => exact induction fun other member => cordons other (List.mem_cons_of_mem _ member)

theorem disableAutoScalingWrite_sends (agentPool : AgentPool) (properties : AgentPoolProperties)
    {next : Api (Except GoError Unit)} (continues : Sends next allowed) :
    Sends (disableAutoScalingWrite agentPool properties next) allowed :=
  Sends.bind (AgentPoolClient.beginCreateOrUpdate_sends (others _ rfl)) fun result => by
    cases result with
    | error err => exact .ite (fun _ => .pure') fun _ => .pure'
    | ok _ => exact continues

theorem disableAutoScalingLoop_sends (agentPools : GoMap AgentPool) :
    Sends (disableAutoScalingLoop agentPools) allowed := by
  induction agentPools with
  | nil => exact .pure'
  | cons entry rest induction =>
      have write := disableAutoScalingWrite_sends others entry.2
      unfold disableAutoScalingLoop
      split
      · exact .pure'
      split
      · exact induction
      · exact .throw'
      · exact .ite (fun _ => induction) fun _ => write _ induction
      · exact write _ induction

theorem disableAutoScaling_sends (agentPools : GoMap AgentPool) :
    Sends (disableAutoScaling agentPools) allowed :=
  Sends.bind (.of_reads (nextOrder_reads _)) fun _ => disableAutoScalingLoop_sends others _

theorem performSafeEviction_sends (outdatedNodePools : GoMap AgentPool) (safeEvict : SafeEvict)
    (cordons : ∀ poolName ∈ outdatedNodePools.keys, ∀ node : Node,
      node.agentPool = some poolName →
        allowed (.updateNode { node with unschedulable := true })) :
    Sends (performSafeEviction outdatedNodePools safeEvict) allowed := by
  refine Sends.bind (disableAutoScaling_sends others _) fun result => ?_
  cases result with
  | error err => exact .pure'
  | ok _ =>
  refine (Sends.of_reads (nextOrder_reads _)).andThen (Returns.of_reads (nextOrder_reads _))
    fun order ⟨_, permuted⟩ => evictionLoop_sends others _ _ fun poolName member => ?_
  exact cordons poolName ((permuted.map Prod.fst).subset member)

theorem scalingWrite_sends (nodepool submitted : AgentPool) :
    Sends (scalingWrite nodepool submitted) allowed :=
  Sends.bind (AgentPoolClient.beginCreateOrUpdate_sends (others _ rfl)) fun result => by
    cases result with
    | error err => exact .ite (fun _ => .pure') fun _ => .pure'
    | ok _ => exact .pure'

theorem setDefaultScaling_sends (nodepool : AgentPool) (scalingData : String) :
    Sends (setDefaultScaling nodepool scalingData) allowed := by
  have applies : Sends (applyScalingData nodepool scalingData) allowed := by
    unfold applyScalingData
    split
    · exact .pure'
    split
    · exact .ite (fun _ => .throw') fun _ => scalingWrite_sends others _ _
    · split
      · exact .pure'
      · exact scalingWrite_sends others _ _
  unfold setDefaultScaling
  split
  · exact .throw'
  · exact .ite (fun _ => .pure') fun _ => applies
  · exact applies

theorem restoreLoop_sends (observed : Observation) (configMapData : GoMap String)
    (nodepools : List String)
    (uncordons : ∀ node : Node, allowed (.updateNode { node with unschedulable := false })) :
    Sends (restoreLoop observed configMapData nodepools) allowed := by
  induction nodepools with
  | nil => exact .pure'
  | cons nodepoolName rest induction =>
      refine .ite (fun _ => induction) fun _ =>
        Sends.bind (getNodePoolByName_sends _) fun result => ?_
      cases result with
      | error err => exact .pure'
      | ok nodepool =>
      refine Sends.bind (setDefaultScaling_sends others _ _) fun result => ?_
      cases result with
      | error err => exact .ite (fun _ => .pure') fun _ => .pure'
      | ok _ =>
          exact Sends.bind (cordonNodesByAgentPool_sends _ _ fun node _ => uncordons node)
            fun _ => induction

theorem removeTemporaryNodePool_sends (nodePoolName : String) :
    Sends (removeTemporaryNodePool nodePoolName) allowed :=
  Sends.bind (AgentPoolClient.beginDelete_sends (others _ rfl)) fun result => by
    cases result <;> exact .pure'

/-- The clean-up cordons the nodes of the temporary pool, and only once nothing is
outdated; it deletes the campaign's record last. -/
theorem cleanUp_sends (observed : Observation)
    (cordonsTemporary : observed.upToDate = true → ∀ node : Node,
      node.agentPool = some observed.temporaryName →
        allowed (.updateNode { node with unschedulable := true }))
    (deletesRecord : allowed (.deleteConfigMap observed.namespaceName observed.configmapName)) :
    Sends (cleanUp observed) allowed := by
  unfold cleanUp
  refine .ite (fun upToDate => ?_) fun _ => .pure'
  refine (getNodePoolByName_sends _).andThen (getNodePoolByName_returns _) fun result named => ?_
  cases result with
  | error err => exact .ite (fun _ => .throw') fun _ => .pure'
  | ok temporaryNodepool =>
  refine Sends.bind (disableAutoScaling_sends others _) fun result => ?_
  cases result with
  | error err => exact .pure'
  | ok _ =>
  refine Sends.bind (getNodesByNodePool_sends _) fun result => ?_
  cases result with
  | error err => exact .pure'
  | ok temporaryNodes =>
  refine Sends.bind (performSafeEviction_sends others _ _ fun poolName member => ?_) fun _ => ?_
  · rw [List.mem_singleton.mp member, named _ rfl]
    exact cordonsTemporary upToDate
  refine Sends.bind (hasRunningStatefulPods_sends _ _) fun result => ?_
  cases result with
  | error err => exact .pure'
  | ok running =>
  cases running with
  | true => exact .pure'
  | false =>
  refine Sends.bind (removeTemporaryNodePool_sends others _) fun result => ?_
  cases result with
  | error _ => exact .pure'
  | ok _ =>
  exact Sends.bind (deleteConfigMap_sends _ _ deletesRecord) fun result => by
    cases result <;> exact .pure'

end Writes

end NodeUpdater
